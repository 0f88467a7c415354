import Signpost.Proofs.Command.Init
import Signpost.Proofs.Files.Making

/-!
# What a failed start leaves

The target is looked at before its missing directories are made. Where the look finds nothing, a run
may still fail behind the directories that it has made, and these stay. `runInit_leaves_trace_iff`
says which targets these are; a target whose path never goes up is none of them.
-/

namespace Signpost

open FilePath

namespace Command

variable {disk : Disk} {directory : Text} {force : Bool}

/-- The directories of the target are made unless they are there, and this is one of them, or there
is a directory all the same. -/
def BecomesDirectory (disk : Disk) (directory : Text) (place : Place) : Prop :=
  place ∈ disk.ways directory ∨ disk.tree.node? place = some .directory

/-- The directories of a target are begun and the run fails behind them. -/
structure Strands (disk : Disk) (directory : Text) : Prop where
  /-- The first place on the way that is no directory is missing. -/
  begun : ∃ front gap back, disk.ways directory = front ++ gap :: back ∧
    (∀ place ∈ front, disk.tree.node? place = some .directory) ∧ disk.tree.node? gap = none
  /-- A file is on the way, or the target is not made, or there is a directory in the place of the
  starter file. -/
  stopped : (∃ place ∈ disk.ways directory, ∃ bytes, disk.tree.node? place = some (.file bytes)) ∨
    ¬BecomesDirectory disk directory (disk.placeOf directory) ∨
    BecomesDirectory disk directory (disk.placeOf (starterPath directory))

/-- Where a directory of the target is missing, nothing is seen in the place of the target. -/
theorem exists?_target_of_missing
    (horigin : disk.tree.node? (disk.origin directory) = some .directory)
    (hmissing : disk.tree.requireAll ((disk.origin directory).stops (steps directory)) =
      .error .missing) : disk.exists? directory = false := by
  by_contra h
  obtain ⟨-, hpassable, node, hnode⟩ := Disk.exists?_eq_true.mp (Bool.not_eq_false _ ▸ h)
  have htread : disk.tree.tread (disk.origin directory) (Text.splitOn '/' directory) =
      .error .missing := by
    rw [FileTree.tread_eq horigin]
    exact congrArg (· >>= _) hmissing
  rw [FileTree.tread, hpassable] at htread
  simp only [bind, Except.bind] at htread
  split at htread
  next fault hfault =>
    cases htread
    cases hnode.symm.trans (FileTree.requireDirectory_eq_missing.mp hfault)
  next => cases htread

/-- Nor is a starter file seen there. -/
theorem exists?_starterPath_of_missing
    (horigin : disk.tree.node? (disk.origin directory) = some .directory)
    (hmissing : disk.tree.requireAll ((disk.origin directory).stops (steps directory)) =
      .error .missing) : disk.exists? (starterPath directory) = false := by
  by_contra h
  obtain ⟨-, hpassable, -⟩ := Disk.exists?_eq_true.mp (Bool.not_eq_false _ ▸ h)
  obtain ⟨components, hjoin, hcomponents⟩ :=
    FilePath.splitOn_join isFileName_fileName directory
  obtain ⟨parent, hfollow, hdir⟩ := (Disk.passable_iff_of_splitOn hjoin).mp hpassable
  rw [Disk.origin_join isFileName_fileName] at hfollow
  have hsteps : components.filter isStep = steps directory := by
    rcases hcomponents with hsplit | hsplit
    · rw [steps, hsplit]
    · rw [steps, hsplit, List.filter_append]
      exact (List.append_nil _).symm
  have htread : disk.tree.tread (disk.origin directory) components = .error .missing := by
    rw [FileTree.tread_eq horigin, hsteps, hmissing]
    rfl
  rw [FileTree.tread, hfollow] at htread
  simp only [bind, Except.bind, FileTree.requireDirectory_eq_ok.mpr hdir] at htread
  cases htread

/-- So the run begins to make the directories, whether or not force is used. -/
theorem runInit_perform_of_missing (force : Bool)
    (horigin : disk.tree.node? (disk.origin directory) = some .directory)
    (hmissing : disk.tree.requireAll ((disk.origin directory).stops (steps directory)) =
      .error .missing) : (runInit directory force).perform disk =
    match disk.makeDirectories directory with
    | (.error fault, made) => (some (.directoryNotMade directory fault), ⟨made, [], []⟩)
    | (.ok (), made) =>
      match made.write (starterPath directory) (Utf8.encode starterText) with
      | .error fault => (some (.configNotWritten (starterPath directory) fault), ⟨made, [], []⟩)
      | .ok written =>
        (none, ⟨written,
          [.notice "init".toList ("wrote ".toList ++ starterPath directory)], []⟩) := by
  rw [runInit_perform, exists?_target_of_missing horigin hmissing,
    exists?_starterPath_of_missing horigin hmissing]
  rfl

/-- A failed run has changed nothing, or has failed at the directories, or behind them at the
starter file. -/
theorem runInit_failed {failure : Failure} {left : Progress}
    (h : (runInit directory force).perform disk = (some failure, left)) : left.disk = disk ∨
      ∃ outcome, disk.makeDirectories directory = (outcome, left.disk) ∧
        (outcome = .ok () → ∃ fault,
          left.disk.write (starterPath directory) (Utf8.encode starterText) = .error fault) := by
  rw [runInit_perform] at h
  split at h
  · cases h
    exact .inl rfl
  split at h
  · cases h
    exact .inl rfl
  refine .inr ?_
  rcases hmade : disk.makeDirectories directory with ⟨outcome, made⟩
  rw [hmade] at h
  cases outcome with
  | error fault =>
      cases h
      exact ⟨_, rfl, nofun⟩
  | ok _ =>
      cases hwrite : made.write (starterPath directory) (Utf8.encode starterText) with
      | error fault =>
          simp only [hwrite] at h
          cases h
          exact ⟨_, rfl, fun _ => ⟨fault, hwrite⟩⟩
      | ok written =>
          simp only [hwrite] at h
          cases h

theorem runInit_grown {failure : Failure} {left : Progress}
    (h : (runInit directory force).perform disk = (some failure, left)) : disk.Grown left.disk := by
  rcases runInit_failed h with hsame | ⟨outcome, hmade, -⟩
  · rw [hsame]
    exact .refl
  · exact Disk.makeDirectories_grown hmade

theorem node?_lay_iff {place : Place} (h : (disk.tree.lay (disk.ways directory)).1 = true) :
    (disk.tree.lay (disk.ways directory)).2.node? place = some .directory ↔
      BecomesDirectory disk directory place := by
  rw [FileTree.node?_lay h, BecomesDirectory]
  split
  next hmem => simp [hmem]
  next hmem => simp [hmem]

/-- The starter file is not written exactly where a directory is in its place. -/
theorem write_starter_fails_iff {made : Disk} (hne : directory ≠ [])
    (hmade : disk.makeDirectories directory = (.ok (), made)) :
    (∃ fault, made.write (starterPath directory) (Utf8.encode starterText) = .error fault) ↔
      made.tree.node? (disk.placeOf (starterPath directory)) = some .directory := by
  have grown := Disk.makeDirectories_grown hmade
  have hpassable := Disk.passable_join isFileName_fileName
    (Disk.makeDirectories_isDirectory hmade hne)
  rw [← grown.placeOf]
  constructor
  · rintro ⟨fault, hwrite⟩
    by_contra hnode
    cases hwrite.symm.trans
      ((Disk.write_join_eq_ok isFileName_fileName).mpr ⟨hpassable, hnode, rfl⟩)
  · intro hnode
    cases hwrite : made.write (starterPath directory) (Utf8.encode starterText) with
    | error fault => exact ⟨fault, rfl⟩
    | ok written =>
        exact absurd hnode ((Disk.write_join_eq_ok isFileName_fileName).mp hwrite).2.1

theorem ne_nil_of_missing (h : disk.tree.requireAll (disk.ways directory) = .error .missing) :
    directory ≠ [] := by
  rintro rfl
  rw [Disk.ways_nil] at h
  cases h

theorem strands_of_trace {failure : Failure} {left : Progress} (hsound : disk.Sound)
    (h : (runInit directory force).perform disk = (some failure, left))
    (htrace : left.disk ≠ disk) : Strands disk directory := by
  obtain ⟨outcome, hmade, hwrite⟩ := (runInit_failed h).resolve_left htrace
  obtain ⟨hleft, hsucceeds⟩ := Disk.makeDirectories_lays directory hsound
  rw [hmade] at hleft hsucceeds
  have hmissing : disk.tree.requireAll (disk.ways directory) = .error .missing := by
    rw [← FileTree.lay_ne_iff]
    intro hlay
    rw [hlay] at hleft
    exact htrace hleft
  refine ⟨FileTree.requireAll_eq_missing.mp hmissing, ?_⟩
  cases outcome with
  | error fault =>
      by_cases hdone : (disk.tree.lay (disk.ways directory)).1 = true
      · refine .inr (.inl fun hbecomes => ?_)
        cases hsucceeds.mpr ⟨hdone, (node?_lay_iff hdone).mpr hbecomes⟩
      · refine .inl ?_
        by_contra hno
        exact hdone (FileTree.lay_fst.mpr fun place hmem bytes hfile =>
          hno ⟨place, hmem, bytes, hfile⟩)
  | ok _ =>
      have hnode := (write_starter_fails_iff (ne_nil_of_missing hmissing) hmade).mp (hwrite rfl)
      rw [show left.disk.tree = _ from congrArg Disk.tree hleft] at hnode
      exact .inr (.inr ((node?_lay_iff (hsucceeds.mp rfl).1).mp hnode))

theorem trace_of_strands (force : Bool) (hsound : disk.Sound) (h : Strands disk directory) :
    ∃ failure left,
      (runInit directory force).perform disk = (some failure, left) ∧ left.disk ≠ disk := by
  have hmissing := FileTree.requireAll_eq_missing.mpr h.begun
  have hsteps : disk.tree.requireAll ((disk.origin directory).stops (steps directory)) =
      .error .missing := by
    rw [Disk.ways] at hmissing
    split at hmissing
    · exact FileTree.requireAll_of_dropLast hmissing
    · exact hmissing
  obtain ⟨hleft, hsucceeds⟩ := Disk.makeDirectories_lays directory hsound
  rw [runInit_perform_of_missing force (hsound.origin directory) hsteps]
  rcases hmade : disk.makeDirectories directory with ⟨outcome, made⟩
  rw [hmade] at hleft hsucceeds
  have hne : made ≠ disk := by
    intro heq
    refine FileTree.lay_ne_iff.mpr hmissing ?_
    exact congrArg Disk.tree (hleft.symm.trans heq)
  cases outcome with
  | error fault => exact ⟨_, _, rfl, hne⟩
  | ok _ =>
      obtain ⟨hdone, htarget⟩ := hsucceeds.mp rfl
      rcases h.stopped with ⟨place, hmem, bytes, hfile⟩ | hnot | hstarter
      · exact absurd hfile (FileTree.lay_fst.mp hdone place hmem bytes)
      · exact absurd ((node?_lay_iff hdone).mp htarget) hnot
      · obtain rfl : made = _ := hleft
        obtain ⟨fault, hwrite⟩ := (write_starter_fails_iff (ne_nil_of_missing hmissing) hmade).mpr
          ((node?_lay_iff hdone).mpr hstarter)
        simp only [hwrite]
        exact ⟨_, _, rfl, hne⟩

/-- A failed run has only added directories, and it has left any exactly when the target strands;
with such a target every run fails. -/
theorem runInit_leaves_trace_iff (directory : Text) (force : Bool) (hsound : disk.Sound) :
    let left := (runInit directory force).perform disk
    (left.1 ≠ none → disk.Grown left.2.disk) ∧
      (left.1 ≠ none ∧ left.2.disk ≠ disk ↔ Strands disk directory) := by
  intro left
  rcases hrun : (runInit directory force).perform disk with ⟨failure?, progress⟩
  obtain ⟨hfailure, hprogress⟩ : left.1 = failure? ∧ left.2 = progress := by
    rw [← Prod.mk.injEq, ← hrun]
  rw [hfailure, hprogress]
  cases failure? with
  | none =>
      refine ⟨fun h => absurd rfl h, fun h => absurd rfl h.1, fun h => ?_⟩
      obtain ⟨failure, left', hstrands, -⟩ := trace_of_strands force hsound h
      cases hrun.symm.trans hstrands
  | some failure =>
      refine ⟨fun _ => runInit_grown hrun, fun h => strands_of_trace hsound hrun h.2, fun h => ?_⟩
      obtain ⟨failure', left', hstrands, htrace⟩ := trace_of_strands force hsound h
      obtain ⟨-, rfl⟩ := Prod.mk.inj (hrun.symm.trans hstrands)
      exact ⟨nofun, htrace⟩

/-- A way through a missing directory and up again to a file. -/
theorem runInit_leaves_directory_before_file :
    let disk : Disk := ⟨⟨[(["f".toList], .file (Utf8.encode "x".toList))]⟩, []⟩
    let left := (runInit "new/../f".toList false).perform disk
    left.1 ≠ none ∧ left.2.disk ≠ disk := by
  decide +kernel

theorem runInit_leaves_trace_iff_before_file :
    let disk : Disk := ⟨⟨[(["f".toList], .file (Utf8.encode "x".toList))]⟩, []⟩
    disk.Sound ∧ Strands disk "new/../f".toList := by
  intro disk
  have hsound : disk.Sound := by
    refine ⟨fun place name h => ?_, rfl⟩
    cases place with
    | nil => rfl
    | cons first rest =>
        have hne : (first :: rest ++ [name] == ["f".toList]) = false := by simp
        rw [FileTree.node?, if_neg (by simp)] at h
        simp only [disk, List.lookup_cons, hne, List.lookup_nil] at h
        cases h
  exact ⟨hsound, (runInit_leaves_trace_iff "new/../f".toList false hsound).2.mp (by decide +kernel)⟩

/-! ## Targets whose path never goes up -/

theorem placeOf_starterPath :
    disk.placeOf (starterPath directory) = disk.placeOf directory ++ [Site.fileName] := by
  obtain ⟨components, hjoin, hcomponents⟩ :=
    FilePath.splitOn_join isFileName_fileName directory
  rw [Disk.placeOf, hjoin, Place.walk_concat, Disk.origin_join isFileName_fileName,
    isFileName_fileName.enter, Disk.placeOf]
  rcases hcomponents with hsplit | hsplit
  · rw [hsplit]
  · rw [hsplit, Place.walk_concat, Place.enter_nil]

/-- From a place on its way on, such a target only leads further down. -/
theorem ways_descending {front back : List Place} {gap : Place}
    (descending : ['.', '.'] ∉ Text.splitOn '/' directory) (hstay : ¬StaysAtEnd directory)
    (hways : disk.ways directory = front ++ gap :: back) :
    disk.placeOf directory ∈ gap :: back ∧
      ∀ place ∈ gap :: back, gap <+: place ∧ place <+: disk.placeOf directory := by
  have hnames : ∀ component ∈ steps directory, IsName component := by
    intro component hmem
    obtain ⟨hcomponent, hstep⟩ := List.mem_filter.mp hmem
    rw [isStep, Bool.and_eq_true, decide_eq_true_eq, decide_eq_true_eq] at hstep
    exact ⟨hstep.1, hstep.2, fun h => descending (h ▸ hcomponent)⟩
  rw [Disk.ways, if_neg hstay] at hways
  obtain ⟨before, behind, hsteps, rfl, rfl⟩ := Place.stops_eq_append hways
  have hbehind : ∀ component ∈ behind, IsName component := fun component hmem =>
    hnames component (hsteps ▸ List.mem_append_right _ hmem)
  have hwalk : disk.placeOf directory = ((disk.origin directory).walk before).walk behind := by
    rw [Disk.placeOf_eq_walk, hsteps, Place.walk, List.foldl_append]
    rfl
  refine ⟨hwalk ▸ Place.walk_mem_stops _ _, fun place hmem => ?_⟩
  rw [hwalk, Place.walk_names hbehind]
  rcases List.mem_cons.mp hmem with rfl | hmem
  · exact ⟨List.prefix_rfl, List.prefix_append _ _⟩
  · exact Place.mem_stops_names hbehind hmem

theorem not_strands_of_descending (rooted : disk.tree.Rooted)
    (descending : ['.', '.'] ∉ Text.splitOn '/' directory) (hstay : ¬StaysAtEnd directory) :
    ¬Strands disk directory := by
  rintro ⟨⟨front, gap, back, hways, hfront, hgap⟩, hstopped⟩
  obtain ⟨htarget, hdown⟩ := ways_descending descending hstay hways
  have hnone {place : Place} (hbelow : gap <+: place) : disk.tree.node? place = none :=
    rooted.none_below hgap hbelow
  rcases hstopped with ⟨place, hmem, bytes, hfile⟩ | hnot | hstarter
  · rcases List.mem_append.mp (hways ▸ hmem) with hmem | hmem
    · cases (hfront place hmem).symm.trans hfile
    · cases (hnone (hdown place hmem).1).symm.trans hfile
  · exact hnot (.inl (hways ▸ List.mem_append_right _ htarget))
  · rw [placeOf_starterPath] at hstarter
    -- the starter file lies below the missing place, and below the end of the way
    have hlow := hnone ((hdown _ htarget).1.trans (List.prefix_append _ [Site.fileName]))
    rcases hstarter with hmem | hdir
    · rcases List.mem_append.mp (hways ▸ hmem) with hmem | hmem
      · cases (hfront _ hmem).symm.trans hlow
      · have hle := (hdown _ hmem).2.length_le
        rw [List.length_append, List.length_singleton] at hle
        omega
    · cases hdir.symm.trans hlow

/-- A run that fails with such a target leaves the disk as it was. -/
theorem runInit_keeps_disk_descending {failure : Failure} {left : Progress} (hsound : disk.Sound)
    (descending : ['.', '.'] ∉ Text.splitOn '/' directory) (hstay : ¬StaysAtEnd directory)
    (h : (runInit directory force).perform disk = (some failure, left)) : left.disk = disk := by
  by_contra htrace
  exact not_strands_of_descending hsound.rooted descending hstay (strands_of_trace hsound h htrace)

end Command

end Signpost
