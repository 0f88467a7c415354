import Signpost.Proofs.Files.Laying

/-!
# Making the directories of a path

The directories of a path are made by going up to what is there and down again.
`Disk.makeDirectories_lays` shows that this comes to laying them from the first to the last, by
induction over the paths above. A path that ends in `.` is the exception: there the last directory
is not made, but looked for.
-/

namespace Signpost

open FilePath

/-! ## Making one directory -/

namespace Disk

variable {disk made : Disk} {path parent component : Text} {front : List Text} {place : Place}
  {fault : FileFault}

/-- Makes a directory under a name in another one. -/
def makeIn (disk : Disk) (parent : Place) (component : Text) : Except FileFault Disk :=
  if component ≠ [] ∧ component ≠ ['.'] ∧ component ≠ ['.', '.'] then
    match disk.tree.node? (parent ++ [component]) with
    | some _ => .error .occupied
    | none => .ok { disk with tree := disk.tree.put (parent ++ [component]) .directory }
  else .error .occupied

theorem makeIn_eq_ok : disk.makeIn place component = .ok made ↔
    IsName component ∧ disk.tree.node? (place ++ [component]) = none ∧
      made = { disk with tree := disk.tree.put (place ++ [component]) .directory } := by
  rw [makeIn]
  split
  next hname =>
    rw [and_iff_right ⟨hname.1, hname.2.1, hname.2.2⟩]
    cases disk.tree.node? (place ++ [component]) with
    | none => simp [eq_comm]
    | some node => simp
  next hname => simp [show ¬IsName component from fun h => hname ⟨h.1, h.2, h.3⟩]

theorem fault_of_makeIn (h : disk.makeIn place component = .error fault) : fault = .occupied := by
  rw [makeIn] at h
  split at h
  next =>
    split at h
    next =>
      cases h
      rfl
    next => cases h
  next =>
    cases h
    rfl

/-- Nothing can be made in a directory only where nothing is missing. -/
theorem not_missing_of_makeIn (rooted : disk.tree.Rooted)
    (hplace : disk.tree.node? place = some .directory)
    (h : disk.makeIn place component = .error fault) :
    disk.tree.requireAll (place.stops ([component].filter isStep)) ≠ .error .missing := by
  intro hmissing
  cases hstep : isStep component with
  | false =>
      rw [List.filter_singleton, hstep] at hmissing
      cases hmissing
  | true =>
      rw [List.filter_singleton, hstep] at hmissing
      have hnone := FileTree.node?_of_missing hmissing
      have hname := rooted.isName_of_missing hplace hnone
      rw [hname.enter] at hnone
      cases h.symm.trans (makeIn_eq_ok.mpr ⟨hname, hnone, rfl⟩)

theorem makeDirectory_eq (hne : path ≠ [])
    (hsplit : Text.splitOn '/' (withoutSlashes path) = front ++ [component]) :
    disk.makeDirectory path =
      disk.tree.tread (disk.origin path) front >>= fun parent => disk.makeIn parent component := by
  rw [makeDirectory, locateParent, if_neg (by simpa using hne), hsplit, FileTree.tread]
  simp only [List.dropLast_concat, List.getLast?_concat]
  cases disk.tree.follow (disk.origin path) front with
  | error fault => rfl
  | ok target =>
      simp only [bind, Except.bind]
      cases disk.tree.requireDirectory target with
      | error fault => rfl
      | ok _ =>
          simp only [pure, Except.pure, makeIn, Option.filter]
          by_cases hname : component ≠ [] ∧ component ≠ ['.'] ∧ component ≠ ['.', '.']
          · cases hnode : disk.tree.node? (target ++ [component]) <;>
              simp only [decide_eq_true hname, if_pos hname, if_true, hnode]
          · simp only [decide_eq_false hname, if_neg hname, Bool.false_eq_true, if_false]

/-- A path leads to a directory exactly when all its steps do. -/
theorem isDirectory_iff (hne : path ≠ [])
    (horigin : disk.tree.node? (disk.origin path) = some .directory) :
    disk.isDirectory path = true ↔
      disk.tree.requireAll ((disk.origin path).stops (steps path)) = .ok () := by
  have htread : disk.isDirectory path = true ↔ ∃ place,
      disk.tree.tread (disk.origin path) (Text.splitOn '/' path) = .ok place := by
    rw [isDirectory_eq_true, and_iff_right hne]
    simp only [FileTree.tread, bind_eq_ok]
    constructor
    · rintro ⟨hpassable, hdir⟩
      exact ⟨_, _, hpassable, (), FileTree.requireDirectory_eq_ok.mpr hdir, rfl⟩
    · rintro ⟨_, place, hfollow, _, hdir, -⟩
      obtain ⟨hpassable, rfl⟩ := passable_of_follow hfollow
      exact ⟨hpassable, FileTree.requireDirectory_eq_ok.mp hdir⟩
  rw [htread, FileTree.tread_eq horigin]
  simp only [bind_eq_ok, steps]
  constructor
  · rintro ⟨_, _, hall, _⟩
    exact hall
  · exact fun hall => ⟨_, (), hall, rfl⟩

/-- Makes a directory unless it is there; the disk is left alone if that fails. -/
def ensured (disk : Disk) (path : Text) : Except FileFault Unit × Disk :=
  match disk.ensureDirectory path with
  | .ok disk => (.ok (), disk)
  | .error fault => (.error fault, disk)

theorem ensured_of_ok (h : disk.makeDirectory path = .ok made) :
    disk.ensured path = (.ok (), made) := by
  rw [ensured, ensureDirectory, h]

theorem ensured_of_error (h : disk.makeDirectory path = .error fault) : disk.ensured path =
    (if disk.isDirectory path then .ok () else .error fault, disk) := by
  rw [ensured, ensureDirectory, h]
  cases disk.isDirectory path with
  | true => rfl
  | false => rfl

variable {ancestors : List Text}

theorem makeAll_cons (hne : path ≠ []) (h : disk.makeDirectory path ≠ .error .missing) :
    makeAll (path :: ancestors) disk = disk.ensured path := by
  rw [makeAll, if_neg (by simpa using hne)]
  cases hmake : disk.makeDirectory path with
  | ok made => exact (ensured_of_ok hmake).symm
  | error fault =>
      rw [ensured_of_error hmake]
      cases fault with
      | missing => exact absurd hmake h
      | _ => cases disk.isDirectory path <;> rfl

/-- Makes a directory unless it is there, once those above it were made without a fault. -/
def ensuredBehind (path : Text) : Except FileFault Unit × Disk → Except FileFault Unit × Disk
  | (.error fault, made) => (.error fault, made)
  | (.ok (), made) => made.ensured path

theorem makeAll_cons_of_missing (hne : path ≠ []) (h : disk.makeDirectory path = .error .missing) :
    makeAll (path :: ancestors) disk = ensuredBehind path (makeAll ancestors disk) := by
  rw [makeAll, if_neg (by simpa using hne), h]
  simp only
  rcases makeAll ancestors disk with ⟨_ | _, made⟩
  · rfl
  · cases hmake : made.ensureDirectory path <;> simp only [ensuredBehind, ensured, hmake]

/-! ## Making the missing directories -/

/-- The outcome is that of laying directories at these places. -/
structure Lays (disk : Disk) (places : List Place) (result : Except FileFault Unit × Disk) :
    Prop where
  left : result.2 = { disk with tree := (disk.tree.lay places).2 }
  succeeds : result.1 = .ok () ↔ (disk.tree.lay places).1 = true

theorem Lays.of_ok {places : List Place} {tree : FileTree}
    (h : disk.tree.lay places = (true, tree)) : disk.Lays places (.ok (), { disk with tree }) where
  left := by rw [h]
  succeeds := by rw [h]; exact iff_of_true rfl rfl

theorem Lays.of_error {places : List Place} {tree : FileTree}
    (h : disk.tree.lay places = (false, tree)) :
    disk.Lays places (.error fault, { disk with tree }) where
  left := by rw [h]
  succeeds := by rw [h]; exact iff_of_false nofun Bool.false_ne_true

/-- The places on the way of a path are those before its last component and that of the last. -/
theorem stops_of_splitOn (hsplit : Text.splitOn '/' (withoutSlashes path) = front ++ [component]) :
    place.stops (steps path) =
      place.stops (front.filter isStep) ++ (place.walk front).stops ([component].filter isStep) := by
  rw [steps_of_splitOn hsplit, Place.stops_append, Place.walk_filter]

/-- Behind a way of directories, the last directory is made where laying makes it. -/
theorem ensured_lays (rooted : disk.tree.Rooted) (hne : path ≠ [])
    (horigin : disk.tree.node? (disk.origin path) = some .directory)
    (hsplit : Text.splitOn '/' (withoutSlashes path) = front ++ [component])
    (hway : disk.tree.requireAll ((disk.origin path).stops (front.filter isStep)) = .ok ()) :
    disk.makeDirectory path ≠ .error .missing ∧
      disk.Lays ((disk.origin path).stops (steps path)) (disk.ensured path) := by
  have hparent : disk.tree.node? ((disk.origin path).walk front) = some .directory := by
    rw [← Place.walk_filter]
    exact FileTree.walk_directory horigin hway
  have hlay : disk.tree.lay ((disk.origin path).stops (steps path)) =
      disk.tree.lay (((disk.origin path).walk front).stops ([component].filter isStep)) := by
    rw [stops_of_splitOn hsplit, FileTree.lay_append, FileTree.lay_of_requireAll hway]
  have hmake : disk.makeDirectory path = disk.makeIn ((disk.origin path).walk front) component := by
    rw [makeDirectory_eq hne hsplit, FileTree.tread_eq horigin, hway]
    rfl
  have hdirectory := isDirectory_iff hne horigin
  rw [stops_of_splitOn hsplit, FileTree.requireAll_append, hway] at hdirectory
  have hmissing : disk.makeDirectory path ≠ .error .missing := fun h =>
    absurd (fault_of_makeIn (hmake.symm.trans h)) (by decide)
  refine ⟨hmissing, ?_⟩
  cases hin : disk.makeIn ((disk.origin path).walk front) component with
  | ok made =>
      rw [ensured_of_ok (hmake.trans hin)]
      obtain ⟨hname, hnone, rfl⟩ := makeIn_eq_ok.mp hin
      have hstep : isStep component = true := by simp [isStep, hname.nonempty, hname.notHere]
      rw [List.filter_singleton, hstep, cond_true, Place.stops, Place.stops, hname.enter,
        FileTree.lay, hnone] at hlay
      exact .of_ok hlay
  | error fault =>
      rw [ensured_of_error (hmake.trans hin)]
      have hthere := not_missing_of_makeIn rooted hparent hin
      cases hrest : disk.tree.requireAll
          (((disk.origin path).walk front).stops ([component].filter isStep)) with
      | ok _ =>
          rw [FileTree.lay_of_requireAll hrest] at hlay
          rw [if_pos (hdirectory.mpr hrest)]
          exact .of_ok hlay
      | error other =>
          rw [hrest] at hthere hdirectory
          rw [FileTree.lay_of_fault hrest fun h => hthere (congrArg _ h)] at hlay
          have hno : ¬disk.isDirectory path = true := fun h => by cases hdirectory.mp h
          rw [if_neg hno]
          exact .of_error hlay

/-- Behind what is no directory, no directory is made. -/
theorem ensured_of_blocked (hne : path ≠ [])
    (horigin : disk.tree.node? (disk.origin path) = some .directory)
    (hsplit : Text.splitOn '/' (withoutSlashes path) = front ++ [component])
    (hway : disk.tree.requireAll ((disk.origin path).stops (front.filter isStep)) = .error fault) :
    disk.makeDirectory path = .error fault ∧ disk.ensured path = (.error fault, disk) := by
  have hmake : disk.makeDirectory path = .error fault := by
    rw [makeDirectory_eq hne hsplit, FileTree.tread_eq horigin, hway]
    rfl
  refine ⟨hmake, ?_⟩
  rw [ensured_of_error hmake, if_neg]
  rw [isDirectory_iff hne horigin, stops_of_splitOn hsplit, FileTree.requireAll_append, hway]
  nofun

/-- Once the way is laid, the last directory is laid as well. -/
theorem Lays.ensuredBehind {result : Except FileFault Unit × Disk} (rooted : disk.tree.Rooted)
    (hne : path ≠ []) (horigin : disk.tree.node? (disk.origin path) = some .directory)
    (hsplit : Text.splitOn '/' (withoutSlashes path) = front ++ [component])
    (h : disk.Lays ((disk.origin path).stops (front.filter isStep)) result) :
    disk.Lays ((disk.origin path).stops (steps path)) (ensuredBehind path result) := by
  obtain ⟨outcome, made⟩ := result
  obtain ⟨rfl, hsucceeds⟩ := h
  cases outcome with
  | error fault =>
      have hfailed : (disk.tree.lay ((disk.origin path).stops (front.filter isStep))).1 = false :=
        Bool.eq_false_iff.mpr fun h => absurd (hsucceeds.mpr h) nofun
      have hlay : disk.tree.lay ((disk.origin path).stops (steps path)) =
          disk.tree.lay ((disk.origin path).stops (front.filter isStep)) := by
        rw [stops_of_splitOn hsplit]
        exact FileTree.lay_append_of_false _ hfailed
      exact .of_error (hlay.trans (Prod.ext hfailed rfl))
  | ok _ =>
      have hlaid := hsucceeds.mp rfl
      have hlay := FileTree.lay_lay
        (((disk.origin path).walk front).stops ([component].filter isStep)) hlaid
      rw [← stops_of_splitOn hsplit] at hlay
      have hmade : Lays { disk with tree := (disk.tree.lay _).2 } _ _ :=
        (ensured_lays (rooted.lay horigin) hne (FileTree.kept_of_lay horigin) hsplit
          (FileTree.requireAll_lay hlaid)).2
      exact ⟨hlay ▸ hmade.left, hlay ▸ hmade.succeeds⟩

/-- Going up to what is there and down again lays the directories of a path. -/
theorem makeAll_ancestors_lays (path : Text) (rooted : disk.tree.Rooted)
    (horigin : disk.tree.node? (disk.origin path) = some .directory) (hstay : ¬StaysAtEnd path) :
    disk.Lays ((disk.origin path).stops (steps path)) (makeAll (FilePath.ancestors path) disk) := by
  by_cases hne : path = []
  · subst hne
    exact ⟨rfl, ⟨fun _ => rfl, fun _ => rfl⟩⟩
  obtain ⟨front, component, hsplit⟩ : ∃ front component,
      Text.splitOn '/' (withoutSlashes path) = front ++ [component] :=
    (List.eq_nil_or_concat' _).resolve_left Text.splitOn_ne_nil
  rw [ancestors_eq]
  cases hway : disk.tree.requireAll ((disk.origin path).stops (front.filter isStep)) with
  | ok _ =>
      obtain ⟨hmissing, hlays⟩ := ensured_lays rooted hne horigin hsplit hway
      rw [makeAll_cons hne hmissing]
      exact hlays
  | error fault =>
      obtain ⟨hmake, hensured⟩ := ensured_of_blocked hne horigin hsplit hway
      by_cases hfault : fault = .missing
      · subst hfault
        rw [makeAll_cons_of_missing hne hmake]
        cases hparent : parent? path with
        | none =>
            have hsteps := steps_of_parent?_eq_none hparent
            rw [steps_of_splitOn hsplit, List.append_eq_nil_iff] at hsteps
            rw [hsteps.1] at hway
            cases hway
        | some parent =>
            have hlonger := length_parent hparent
            have hsame : disk.origin parent = disk.origin path := by
              rw [origin, origin, isAbsolute_parent hparent]
            have ih := makeAll_ancestors_lays parent rooted (hsame ▸ horigin)
              (not_staysAtEnd_parent hparent)
            rw [hsame, ← steps_parent_of_splitOn hparent hstay hsplit] at ih
            exact ih.ensuredBehind rooted hne horigin hsplit
      · rw [makeAll_cons hne (by rw [hmake]; exact fun h => hfault (Except.error.inj h)), hensured]
        have hlay : disk.tree.lay ((disk.origin path).stops (steps path)) = (false, disk.tree) := by
          rw [stops_of_splitOn hsplit, FileTree.lay_append, FileTree.lay_of_fault hway hfault]
        exact .of_error hlay
termination_by path.length

/-! ## The whole path -/

/-- The places at which directories are made for a path. The last one is left out where `.` follows
it: then it would have to be there before. -/
def ways (disk : Disk) (path : Text) : List Place :=
  (disk.origin path).stops (if StaysAtEnd path then (steps path).dropLast else steps path)

theorem ways_nil : disk.ways [] = [] := by
  rw [ways]
  split
  · rfl
  · rfl

theorem placeOf_eq_walk : disk.placeOf path = (disk.origin path).walk (steps path) :=
  Place.walk_filter.symm

/-- All places on a way are directories if those before the last one are, and the last one is. -/
theorem requireAll_stops_iff {components : List Text} (tree : FileTree)
    (hplace : tree.node? place = some .directory) :
    tree.requireAll (place.stops components) = .ok () ↔
      tree.requireAll (place.stops components.dropLast) = .ok () ∧
        tree.node? (place.walk components) = some .directory := by
  rcases List.eq_nil_or_concat' components with rfl | ⟨front, last, rfl⟩
  · exact ⟨fun h => ⟨h, hplace⟩, fun h => h.1⟩
  · rw [List.dropLast_concat, Place.stops_append, Place.walk_concat]
    simp [FileTree.requireAll_eq_ok, Place.stops, or_imp, forall_and]

/-- A path that ends in `.` makes no directory, and a place is missing only where one is on the
way. -/
theorem makeDirectory_of_staysAtEnd (hstay : StaysAtEnd path)
    (horigin : disk.tree.node? (disk.origin path) = some .directory) :
    ∃ fault, disk.makeDirectory path = .error fault ∧
      (fault = .missing →
        disk.tree.requireAll ((disk.origin path).stops (steps path)) = .error .missing) ∧
      (fault ≠ .missing →
        disk.tree.requireAll ((disk.origin path).stops (steps path)) ≠ .error .missing) := by
  obtain ⟨front, hsplit, hfront⟩ := hstay.splitOn
  rw [makeDirectory_eq hstay.ne_nil hsplit, FileTree.tread_eq horigin, hfront]
  cases disk.tree.requireAll ((disk.origin path).stops (steps path)) with
  | ok _ => exact ⟨.occupied, rfl, nofun, nofun⟩
  | error fault =>
      exact ⟨fault, rfl, fun h => h ▸ rfl, fun h heq => h (Except.error.inj heq)⟩

theorem ensured_of_staysAtEnd (hstay : StaysAtEnd path)
    (horigin : disk.tree.node? (disk.origin path) = some .directory) :
    (disk.ensured path).2 = disk ∧ ((disk.ensured path).1 = .ok () ↔
      disk.tree.requireAll ((disk.origin path).stops (steps path).dropLast) = .ok () ∧
        disk.tree.node? ((disk.origin path).walk (steps path)) = some .directory) := by
  obtain ⟨fault, hmake, -⟩ := makeDirectory_of_staysAtEnd hstay horigin
  rw [ensured_of_error hmake, ← requireAll_stops_iff _ horigin,
    ← isDirectory_iff hstay.ne_nil horigin]
  exact ⟨rfl, by simp⟩

/-- The outcome is that of laying directories at these places, if the target is a directory then. -/
structure LaysBefore (disk : Disk) (places : List Place) (target : Place)
    (result : Except FileFault Unit × Disk) : Prop where
  left : result.2 = { disk with tree := (disk.tree.lay places).2 }
  succeeds : result.1 = .ok () ↔ (disk.tree.lay places).1 = true ∧
    (disk.tree.lay places).2.node? target = some .directory

/-- Once the way is laid, a last directory behind which `.` stands is looked for. -/
theorem Lays.ensuredBehind_of_staysAtEnd {result : Except FileFault Unit × Disk}
    (hstay : StaysAtEnd path) (horigin : disk.tree.node? (disk.origin path) = some .directory)
    (h : disk.Lays ((disk.origin path).stops (steps path).dropLast) result) :
    disk.LaysBefore ((disk.origin path).stops (steps path).dropLast)
      ((disk.origin path).walk (steps path)) (Disk.ensuredBehind path result) := by
  obtain ⟨outcome, made⟩ := result
  obtain ⟨rfl, hsucceeds⟩ := h
  cases outcome with
  | error fault =>
      refine ⟨rfl, iff_of_false (fun h => by cases h) fun h => ?_⟩
      cases hsucceeds.mpr h.1
  | ok _ =>
      have hlaid := hsucceeds.mp rfl
      obtain ⟨hleft, hdone⟩ := @ensured_of_staysAtEnd
        { disk with tree := (disk.tree.lay ((disk.origin path).stops (steps path).dropLast)).2 }
        path hstay (FileTree.kept_of_lay horigin)
      have hall := FileTree.requireAll_lay hlaid
      exact ⟨hleft, hdone.trans ((and_iff_right hall).trans (and_iff_right hlaid).symm)⟩

theorem makeAll_ancestors_of_staysAtEnd (rooted : disk.tree.Rooted)
    (horigin : disk.tree.node? (disk.origin path) = some .directory) (hstay : StaysAtEnd path) :
    disk.LaysBefore ((disk.origin path).stops (steps path).dropLast)
      ((disk.origin path).walk (steps path)) (makeAll (FilePath.ancestors path) disk) := by
  have hne := hstay.ne_nil
  obtain ⟨fault, hmake, hmissing, hother⟩ := makeDirectory_of_staysAtEnd hstay horigin
  rw [ancestors_eq]
  by_cases hfault : fault = .missing
  · subst hfault
    rw [makeAll_cons_of_missing hne hmake]
    cases hparent : parent? path with
    | none =>
        have h := hmissing rfl
        rw [steps_of_parent?_eq_none hparent] at h
        cases h
    | some parent =>
        have hsame : disk.origin parent = disk.origin path := by
          rw [origin, origin, isAbsolute_parent hparent]
        have hlays := makeAll_ancestors_lays parent rooted (hsame ▸ horigin)
          (not_staysAtEnd_parent hparent)
        rw [hsame, steps_parent hparent] at hlays
        exact hlays.ensuredBehind_of_staysAtEnd hstay horigin
  · rw [makeAll_cons hne (by rw [hmake]; exact fun h => hfault (Except.error.inj h))]
    obtain ⟨hleft, hsucceeds⟩ := ensured_of_staysAtEnd hstay horigin
    -- what is not missing is not laid
    obtain ⟨hsame, hdone⟩ := FileTree.lay_of_not_missing fun h =>
      hother hfault (FileTree.requireAll_of_dropLast h)
    exact ⟨by rw [hleft, hsame], by rw [hsame, hdone]; exact hsucceeds⟩

/-- Whatever is somewhere lies in a directory, and the working directory is one. -/
structure Sound (disk : Disk) : Prop where
  rooted : disk.tree.Rooted
  workplace : disk.tree.node? disk.workplace = some .directory

theorem Sound.origin (h : disk.Sound) (path : Text) :
    disk.tree.node? (disk.origin path) = some .directory := by
  rw [Disk.origin]
  split
  · rfl
  · exact h.workplace

/-- Making the directories of a path leaves what laying them leaves, and it succeeds exactly when
that does and the path leads to a directory then. -/
theorem makeDirectories_lays (path : Text) (h : disk.Sound) :
    disk.LaysBefore (disk.ways path) (disk.placeOf path) (disk.makeDirectories path) := by
  have horigin := h.origin path
  by_cases hstay : StaysAtEnd path
  · rw [ways, if_pos hstay, placeOf_eq_walk]
    exact makeAll_ancestors_of_staysAtEnd h.rooted horigin hstay
  · rw [ways, if_neg hstay, placeOf_eq_walk]
    obtain ⟨hleft, hsucceeds⟩ := makeAll_ancestors_lays path h.rooted horigin hstay
    refine ⟨hleft, hsucceeds.trans (and_iff_left_of_imp fun hlaid => ?_).symm⟩
    exact FileTree.walk_directory (FileTree.kept_of_lay horigin) (FileTree.requireAll_lay hlaid)

end Disk

end Signpost
