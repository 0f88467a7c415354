import Signpost.Proofs.Command.Work
import Signpost.Proofs.Files.Growth

/-!
# What starting a site keeps

Without force, the starter file is refused where something is found in its place. The look is taken
before the missing directories are made, and they can make a way passable that was not: a path that
goes through a missing directory and up again leads nowhere at first and afterwards to what was there
all along. `runInit_keeps_files_iff` says that this is the one way in which a file is lost.
-/

namespace Signpost.Command

variable {disk : Disk} {directory : Text} {force : Bool} {place : Place} {bytes : List Nat}

/-- The path of the starter file in a directory. -/
abbrev starterPath (directory : Text) : Text := FilePath.join directory Site.fileName

theorem isFileName_fileName : IsFileName Site.fileName where
  nonempty := by decide
  notHere := by decide
  notUp := by decide
  unslashed := by decide

theorem starterPath_ne_nil : starterPath directory ≠ [] := by
  obtain ⟨components, hsplit, -⟩ := FilePath.splitOn_join isFileName_fileName directory
  exact Disk.ne_nil_of_splitOn hsplit isFileName_fileName.nonempty

/-! ## The course of a run -/

/-- How a run ends and what it leaves: it stops before the disk is touched, or when the directories
or some of them were made, or it has written the file as well. -/
theorem runInit_perform : (runInit directory force).perform disk =
    if disk.exists? directory && !disk.isDirectory directory then
      (some (.targetNotDirectory directory), ⟨disk, [], []⟩)
    else if disk.exists? (starterPath directory) && !force then
      (some (.configExists (starterPath directory)), ⟨disk, [], []⟩)
    else match disk.makeDirectories directory with
      | (.error fault, made) => (some (.directoryNotMade directory fault), ⟨made, [], []⟩)
      | (.ok (), made) =>
        match made.write (starterPath directory) (Utf8.encode starterText) with
        | .error fault =>
          (some (.configNotWritten (starterPath directory) fault), ⟨made, [], []⟩)
        | .ok written =>
          (none, ⟨written,
            [.notice "init".toList ("wrote ".toList ++ starterPath directory)], []⟩) := by
  rw [Work.perform, runInit]
  simp only [Work.run_bind, Work.run_disk]
  by_cases htarget : (disk.exists? directory && !disk.isDirectory directory) = true
  · simp only [if_pos htarget, Work.run_bind, Work.run_throw]
  by_cases hconfig : (disk.exists? (starterPath directory) && !force) = true
  · simp only [if_neg htarget, if_pos hconfig, Work.run_bind, Work.run_throw]
  simp only [if_neg htarget, if_neg hconfig, Work.run_bind, Work.run_leave, Work.run_require]
  rcases disk.makeDirectories directory with ⟨_ | _, made⟩
  · rfl
  simp only [Except.mapError]
  cases made.write (starterPath directory) (Utf8.encode starterText) with
  | error fault => rfl
  | ok written => rfl

/-- The disk that a run leaves was only added to, unless the file was written behind the directories.
Then nothing was found in its place before, or force was used. -/
theorem runInit_leaves (disk : Disk) (directory : Text) (force : Bool) :
    disk.Grown ((runInit directory force).perform disk).2.disk ∨
    ∃ made, disk.makeDirectories directory = (.ok (), made) ∧
      (disk.exists? (starterPath directory) && !force) = false ∧
        made.write (starterPath directory) (Utf8.encode starterText) =
          .ok ((runInit directory force).perform disk).2.disk := by
  rw [runInit_perform]
  split
  · exact .inl .refl
  split
  · exact .inl .refl
  next hconfig =>
    split
    next hmade => exact .inl (Disk.makeDirectories_grown hmade)
    next made hmade =>
      split
      · exact .inl (Disk.makeDirectories_grown hmade)
      next written hwrite =>
        exact .inr ⟨made, hmade, Bool.eq_false_iff.mpr hconfig, hwrite⟩

/-! ## Files that are overlooked -/

/-- The look before the directories are made misses the file in whose place the starter file will be:
the path leads nowhere then, and to a file with other content once they are made. -/
structure Overlooks (disk : Disk) (directory : Text) : Prop where
  named : directory ≠ []
  unseen : disk.exists? (starterPath directory) = false
  made : (disk.makeDirectories directory).1 = .ok ()
  there : ∃ bytes, disk.tree.node? (disk.placeOf (starterPath directory)) = some (.file bytes) ∧
    bytes ≠ Utf8.encode starterText

theorem overlooks_of_lost (hfile : disk.tree.node? place = some (.file bytes))
    (hlost : ((runInit directory false).perform disk).2.disk.tree.node? place ≠
      some (.file bytes)) : Overlooks disk directory := by
  rcases runInit_leaves disk directory false with grown | ⟨made, hmade, hconfig, hwrite⟩
  · exact absurd (grown.kept hfile) hlost
  have grown := Disk.makeDirectories_grown hmade
  have hunseen : disk.exists? (starterPath directory) = false := by simpa using hconfig
  have hpassable := ((Disk.write_join_eq_ok isFileName_fileName).mp hwrite).1
  rw [Disk.node?_write hwrite, grown.placeOf] at hlost
  split at hlost
  next hplace =>
    subst hplace
    refine ⟨?_, hunseen, by rw [hmade], bytes, hfile, ?_⟩
    · -- without directories to make, the way was passable before
      rintro rfl
      cases hmade
      have hseen := Disk.exists?_eq_true.mpr ⟨starterPath_ne_nil, hpassable, _, hfile⟩
      rw [hunseen] at hseen
      cases hseen
    · rintro rfl
      exact hlost rfl
  next => exact absurd (grown.kept hfile) hlost

theorem lost_of_overlooks (h : Overlooks disk directory) :
    ∃ (place : Place) (bytes : List Nat), disk.tree.node? place = some (.file bytes) ∧
      ((runInit directory false).perform disk).2.disk.tree.node? place ≠ some (.file bytes) := by
  obtain ⟨bytes, hfile, hother⟩ := h.there
  refine ⟨disk.placeOf (starterPath directory), bytes, hfile, ?_⟩
  obtain ⟨made, hmade⟩ : ∃ made, disk.makeDirectories directory = (.ok (), made) :=
    ⟨_, Prod.ext h.made rfl⟩
  have grown := Disk.makeDirectories_grown hmade
  have hdir := Disk.makeDirectories_isDirectory hmade h.named
  have htarget : ¬(disk.exists? directory && !disk.isDirectory directory) = true := by
    rw [Bool.and_eq_true, Bool.not_eq_true', not_and, Bool.not_eq_false]
    exact fun hseen => grown.isDirectory_of_exists hseen hdir
  have hconfig : ¬(disk.exists? (starterPath directory) && !false) = true := by
    rw [h.unseen]
    nofun
  have hnode : made.tree.node? (made.placeOf (starterPath directory)) ≠ some .directory := by
    rw [grown.placeOf, grown.kept hfile]
    nofun
  obtain ⟨written, hwrite⟩ : ∃ written,
      made.write (starterPath directory) (Utf8.encode starterText) = .ok written :=
    ⟨_, (Disk.write_join_eq_ok isFileName_fileName).mpr
      ⟨Disk.passable_join isFileName_fileName hdir, hnode, rfl⟩⟩
  have hleft : ((runInit directory false).perform disk).2.disk = written := by
    rw [runInit_perform, if_neg htarget, if_neg hconfig, hmade]
    simp only [hwrite]
  rw [hleft, Disk.node?_write hwrite,
    if_pos grown.placeOf.symm, ne_eq, Option.some.injEq, FileNode.file.injEq]
  exact hother.symm

/-- Without force, every file that was there before a run is there behind it with its content,
unless it is overlooked; then one is lost. -/
theorem runInit_keeps_files_iff : (∀ (place : Place) (bytes : List Nat),
    disk.tree.node? place = some (.file bytes) →
      ((runInit directory false).perform disk).2.disk.tree.node? place = some (.file bytes)) ↔
    ¬Overlooks disk directory := by
  constructor
  · intro hkeeps h
    obtain ⟨place, bytes, hfile, hlost⟩ := lost_of_overlooks h
    exact hlost (hkeeps place bytes hfile)
  · intro h place bytes hfile
    by_contra hlost
    exact h (overlooks_of_lost hfile hlost)

/-- A way through a missing directory and up again to a file of the author's. -/
theorem runInit_overwrites_through_missing :
    let own : List Nat := Utf8.encode "title=\"Mine\"".toList
    let disk : Disk := ⟨⟨[(["docsite.toml".toList], .file own)]⟩, []⟩
    disk.tree.node? ["docsite.toml".toList] = some (.file own) ∧
      ((runInit "new/..".toList false).perform disk).2.disk.tree.node? ["docsite.toml".toList] ≠
        some (.file own) := by
  decide +kernel

/-- In a tree whose nodes lie in directories, a target whose path never goes up overlooks nothing. -/
theorem not_overlooks_of_descending (rooted : disk.tree.Rooted)
    (descending : ['.', '.'] ∉ Text.splitOn '/' directory) : ¬Overlooks disk directory := by
  intro h
  obtain ⟨components, hjoin, hcomponents⟩ :=
    FilePath.splitOn_join isFileName_fileName directory
  obtain ⟨bytes, hfile, -⟩ := h.there
  have hplace : disk.placeOf (starterPath directory) =
      (disk.origin directory).walk components ++ [Site.fileName] := by
    rw [Disk.placeOf, hjoin, Place.walk_concat, Disk.origin_join isFileName_fileName,
      isFileName_fileName.enter]
  have hdir : disk.tree.node? ((disk.origin directory).walk components) = some .directory := by
    rw [hplace] at hfile
    exact rooted _ _ (Option.isSome_of_eq_some hfile)
  have hnotUp : ['.', '.'] ∉ components := by
    rcases hcomponents with hsplit | hsplit
    · rwa [hsplit] at descending
    · rw [hsplit, List.mem_append, not_or] at descending
      exact descending.1
  have hpassable : disk.Passable (starterPath directory) := by
    rw [Disk.passable_iff_of_splitOn hjoin, Disk.origin_join isFileName_fileName]
    exact ⟨_, rooted.follow_descending hnotUp hdir, hdir⟩
  have hseen := Disk.exists?_eq_true.mpr ⟨starterPath_ne_nil, hpassable, _, hfile⟩
  rw [h.unseen] at hseen
  cases hseen

/-- In a tree whose nodes lie in directories, a target whose path never goes up takes no file
away. -/
theorem runInit_keeps_files_descending (rooted : disk.tree.Rooted)
    (descending : ['.', '.'] ∉ Text.splitOn '/' directory)
    (hfile : disk.tree.node? place = some (.file bytes)) :
    ((runInit directory false).perform disk).2.disk.tree.node? place = some (.file bytes) := by
  by_contra hlost
  exact not_overlooks_of_descending rooted descending (overlooks_of_lost hfile hlost)

end Signpost.Command
