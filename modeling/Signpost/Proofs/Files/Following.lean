import Mathlib.Data.List.DropRight
import Signpost.Files.Tree
import Signpost.Proofs.Outcome
import Signpost.Proofs.Text.Split

/-!
# Following paths

Where the components of a path lead is a matter of the path alone; the tree decides only whether the
way is passable, that is, whether every place on it that another component follows is a directory.
-/

namespace Signpost

/-! ## Where components lead -/

/-- The place that a component names in a directory. -/
def Place.enter (place : Place) (component : Text) : Place :=
  if component = [] ∨ component = ['.'] then place
  else if component = ['.', '.'] then place.dropLast
  else place ++ [component]

/-- Where components lead from a place, whatever is there. -/
def Place.walk (place : Place) (components : List Text) : Place := components.foldl enter place

namespace Place

variable {place : Place} {component : Text} {components : List Text}

theorem walk_concat : place.walk (components ++ [component]) =
    (place.walk components).enter component := List.foldl_concat _ _ _ _

@[simp] theorem enter_nil : place.enter [] = place := if_pos (.inl rfl)

end Place

/-- A component that is a name and not a step in place or upward. -/
structure IsName (component : Text) : Prop where
  nonempty : component ≠ []
  notHere : component ≠ ['.']
  notUp : component ≠ ['.', '.']

/-- A name that is one component of a path. -/
structure IsFileName (name : Text) : Prop extends IsName name where
  unslashed : '/' ∉ name

theorem IsName.enter {name : Text} (h : IsName name) (place : Place) :
    place.enter name = place ++ [name] := by
  rw [Place.enter, if_neg (not_or.mpr ⟨h.nonempty, h.notHere⟩), if_neg h.notUp]

/-! ## Passable ways -/

namespace FileTree

variable {tree : FileTree} {place target : Place} {component : Text} {components rest : List Text}

theorem requireDirectory_eq_ok :
    tree.requireDirectory place = .ok () ↔ tree.node? place = some .directory := by
  rw [requireDirectory]
  split <;> simp_all

theorem follow_nil : tree.follow place [] = .ok place := rfl

theorem follow_cons : tree.follow place (component :: rest) =
    tree.requireDirectory place >>= fun _ => tree.follow (place.enter component) rest := by
  rw [follow, Place.enter]
  congr 1
  funext _
  split
  · rfl
  · split <;> rfl

theorem follow_cons_eq_ok : tree.follow place (component :: rest) = .ok target ↔
    tree.node? place = some .directory ∧
      tree.follow (place.enter component) rest = .ok target := by
  rw [follow_cons, bind_eq_ok, ← requireDirectory_eq_ok]
  exact ⟨fun ⟨_, hplace, hrest⟩ => ⟨hplace, hrest⟩, fun ⟨hplace, hrest⟩ => ⟨_, hplace, hrest⟩⟩

theorem follow_append_eq_ok : tree.follow place (components ++ rest) = .ok target ↔
    ∃ between, tree.follow place components = .ok between ∧
      tree.follow between rest = .ok target := by
  induction components generalizing place with
  | nil => simp [follow]
  | cons component components ih =>
      rw [List.cons_append, follow_cons_eq_ok, ih]
      simp only [follow_cons_eq_ok, and_assoc, exists_and_left]

theorem follow_concat_eq_ok : tree.follow place (components ++ [component]) = .ok target ↔
    ∃ between, tree.follow place components = .ok between ∧
      tree.node? between = some .directory ∧ between.enter component = target := by
  simp only [follow_append_eq_ok, follow_cons_eq_ok, follow_nil, Except.ok.injEq]

/-- A way that is passable leads where its components lead. -/
theorem eq_walk_of_follow (h : tree.follow place components = .ok target) :
    target = place.walk components := by
  induction components generalizing place with
  | nil =>
      rw [follow, Except.ok.injEq] at h
      exact h.symm
  | cons component components ih => exact ih (follow_cons_eq_ok.mp h).2

/-- A way that is passable stays so where no directory is lost. -/
theorem follow_mono {later : FileTree}
    (hkept : ∀ place, tree.node? place = some .directory → later.node? place = some .directory)
    (h : tree.follow place components = .ok target) :
    later.follow place components = .ok target := by
  induction components generalizing place with
  | nil => exact h
  | cons component components ih =>
      rw [follow_cons_eq_ok] at h ⊢
      exact ⟨hkept _ h.1, ih h.2⟩

theorem follow_replicate_nil (h : tree.node? place = some .directory) (k : Nat) :
    tree.follow place (List.replicate k []) = .ok place := by
  induction k with
  | zero => rfl
  | succ k ih =>
      rw [List.replicate_succ, follow_cons_eq_ok, Place.enter_nil]
      exact ⟨h, ih⟩

/-- Whatever is somewhere lies in a directory. -/
def Rooted (tree : FileTree) : Prop :=
  ∀ (place : Place) (name : Text),
    (tree.node? (place ++ [name])).isSome → tree.node? place = some .directory

/-- In a tree whose nodes lie in directories, the way to a directory is passable if it never goes
up. -/
theorem Rooted.follow_descending (rooted : tree.Rooted) (descending : ['.', '.'] ∉ components)
    (h : tree.node? (place.walk components) = some .directory) :
    tree.follow place components = .ok (place.walk components) := by
  induction components using List.reverseRecOn with
  | nil => rfl
  | append_singleton components component ih =>
      rw [List.mem_append, List.mem_singleton, not_or] at descending
      rw [Place.walk_concat] at h ⊢
      -- the component stays at the directory or names something in it
      have hdir : tree.node? (place.walk components) = some .directory := by
        by_cases hstay : component = [] ∨ component = ['.']
        · rwa [Place.enter, if_pos hstay] at h
        · rw [Place.enter, if_neg hstay, if_neg (Ne.symm descending.2)] at h
          exact rooted _ _ (Option.isSome_of_eq_some h)
      exact follow_concat_eq_ok.mpr ⟨_, ih descending.1 hdir, hdir, rfl⟩

end FileTree

/-! ## Components of paths -/

namespace FilePath

variable {name : Text}

theorem isAbsolute_eq_false (h : IsFileName name) : isAbsolute name = false := by
  cases name with
  | nil => rfl
  | cons c rest =>
      have hc : '/' ≠ c := fun heq => h.unslashed (heq ▸ List.mem_cons_self)
      rw [isAbsolute, Text.startsWith, List.isPrefixOf, beq_eq_false_iff_ne.mpr hc, Bool.false_and]

theorem isAbsolute_join (h : IsFileName name) (directory : Text) :
    isAbsolute (join directory name) = isAbsolute directory := by
  rw [join, if_neg (Bool.eq_false_iff.mp (isAbsolute_eq_false h))]
  cases directory with
  | nil => exact isAbsolute_eq_false h
  | cons c rest =>
      split <;> rfl

/-- The components of a path in a directory are those of the directory, perhaps without an empty one
at their end, and the name. -/
theorem splitOn_join (h : IsFileName name) (directory : Text) : ∃ components : List Text,
    Text.splitOn '/' (join directory name) = components ++ [name] ∧
      (Text.splitOn '/' directory = components ∨
        Text.splitOn '/' directory = components ++ [[]]) := by
  rw [join, if_neg (Bool.eq_false_iff.mp (isAbsolute_eq_false h))]
  split
  next hend =>
    rcases Bool.or_eq_true_iff.mp hend with hempty | hslash
    · rw [List.isEmpty_iff] at hempty
      subst hempty
      exact ⟨[], Text.splitOn_eq_singleton h.unslashed, .inr rfl⟩
    · obtain ⟨front, rfl⟩ := List.isSuffixOf_iff_suffix.mp hslash
      refine ⟨Text.splitOn '/' front, ?_, .inr Text.splitOn_append_cons⟩
      rw [List.append_assoc, List.singleton_append, Text.splitOn_append_cons,
        Text.splitOn_eq_singleton h.unslashed]
  next =>
    refine ⟨_, ?_, .inl rfl⟩
    rw [Text.splitOn_append_cons, Text.splitOn_eq_singleton h.unslashed]

end FilePath

/-! ## What a path leads to -/

namespace Disk

/-- The place that a path leads to, whatever is on the way. -/
def placeOf (disk : Disk) (path : Text) : Place :=
  (disk.origin path).walk (Text.splitOn '/' path)

/-- Every component of the path that another one follows is a directory. -/
def Passable (disk : Disk) (path : Text) : Prop :=
  disk.tree.follow (disk.origin path) (Text.splitOn '/' path) = .ok (disk.placeOf path)

variable {disk : Disk} {path directory name : Text} {place : Place} {node : FileNode}
  {components : List Text}

theorem origin_join (h : IsFileName name) :
    disk.origin (FilePath.join directory name) = disk.origin directory := by
  rw [origin, origin, FilePath.isAbsolute_join h]

theorem passable_of_follow
    (h : disk.tree.follow (disk.origin path) (Text.splitOn '/' path) = .ok place) :
    disk.Passable path ∧ place = disk.placeOf path := by
  have hplace : place = disk.placeOf path := FileTree.eq_walk_of_follow h
  rw [Passable, ← hplace]
  exact ⟨h, rfl⟩

theorem passable_iff_of_splitOn (h : Text.splitOn '/' path = components ++ [name]) :
    disk.Passable path ↔ ∃ parent, disk.tree.follow (disk.origin path) components = .ok parent ∧
      disk.tree.node? parent = some .directory := by
  constructor
  · intro hpassable
    rw [Passable, h, FileTree.follow_concat_eq_ok] at hpassable
    obtain ⟨parent, hfollow, hdir, -⟩ := hpassable
    exact ⟨parent, hfollow, hdir⟩
  · rintro ⟨parent, hfollow, hdir⟩
    have hway : disk.tree.follow (disk.origin path) (components ++ [name]) =
        .ok (parent.enter name) :=
      FileTree.follow_concat_eq_ok.mpr ⟨parent, hfollow, hdir, rfl⟩
    exact (passable_of_follow (h ▸ hway)).1

theorem placeOf_of_splitOn (h : Text.splitOn '/' path = components ++ [name])
    (hfollow : disk.tree.follow (disk.origin path) components = .ok place) :
    disk.placeOf path = place.enter name := by
  rw [placeOf, h, Place.walk_concat, FileTree.eq_walk_of_follow hfollow]

theorem locate_eq_ok : disk.locate path = .ok (place, node) ↔
    path ≠ [] ∧ disk.Passable path ∧ place = disk.placeOf path ∧
      disk.tree.node? place = some node := by
  rw [locate]
  split
  next hempty => simp [List.isEmpty_iff.mp hempty]
  next hempty =>
    rw [List.isEmpty_iff] at hempty
    rw [bind_eq_ok]
    constructor
    · rintro ⟨found, hfollow, h⟩
      cases hnode : disk.tree.node? found with
      | none => simp [hnode] at h
      | some there =>
          simp only [hnode, Except.ok.injEq, Prod.mk.injEq] at h
          obtain ⟨rfl, rfl⟩ := h
          have hpassable := passable_of_follow hfollow
          exact ⟨hempty, hpassable.1, hpassable.2, hnode⟩
    · rintro ⟨-, hpassable, rfl, hnode⟩
      exact ⟨_, hpassable, by simp only [hnode]⟩

theorem origin_congr {later : Disk} (h : later.workplace = disk.workplace) :
    later.origin path = disk.origin path := by
  rw [origin, origin, h]

theorem placeOf_congr {later : Disk} (h : later.workplace = disk.workplace) :
    later.placeOf path = disk.placeOf path := by
  rw [placeOf, placeOf, origin_congr h]

theorem Passable.mono {later : Disk} (hwork : later.workplace = disk.workplace)
    (hkept : ∀ place,
      disk.tree.node? place = some .directory → later.tree.node? place = some .directory)
    (h : disk.Passable path) : later.Passable path := by
  rw [Passable, origin_congr hwork, placeOf_congr hwork]
  exact FileTree.follow_mono hkept h

theorem exists?_eq_true : disk.exists? path = true ↔
    path ≠ [] ∧ disk.Passable path ∧ ∃ node, disk.tree.node? (disk.placeOf path) = some node := by
  have h : disk.exists? path = true ↔ ∃ place node, disk.locate path = .ok (place, node) := by
    rw [exists?]
    cases disk.locate path with
    | error fault => simp
    | ok found => exact ⟨fun _ => ⟨found.1, found.2, rfl⟩, fun _ => rfl⟩
  simp only [h, locate_eq_ok]
  constructor
  · rintro ⟨_, node, hne, hpassable, rfl, hnode⟩
    exact ⟨hne, hpassable, node, hnode⟩
  · rintro ⟨hne, hpassable, node, hnode⟩
    exact ⟨_, node, hne, hpassable, rfl, hnode⟩

theorem isDirectory_eq_true : disk.isDirectory path = true ↔
    path ≠ [] ∧ disk.Passable path ∧ disk.tree.node? (disk.placeOf path) = some .directory := by
  have h : disk.isDirectory path = true ↔ ∃ place, disk.locate path = .ok (place, .directory) := by
    rw [isDirectory]
    split <;> simp_all
  simp only [h, locate_eq_ok]
  constructor
  · rintro ⟨_, hne, hpassable, rfl, hnode⟩
    exact ⟨hne, hpassable, hnode⟩
  · rintro ⟨hne, hpassable, hnode⟩
    exact ⟨_, hne, hpassable, rfl, hnode⟩

/-- The way into a directory is passable. -/
theorem passable_join (hname : IsFileName name) (h : disk.isDirectory directory = true) :
    disk.Passable (FilePath.join directory name) := by
  obtain ⟨-, hpassable, hdir⟩ := isDirectory_eq_true.mp h
  obtain ⟨components, hjoin, hcomponents⟩ := FilePath.splitOn_join hname directory
  rw [passable_iff_of_splitOn hjoin, origin_join hname]
  rcases hcomponents with hsplit | hsplit
  · rw [Passable, hsplit] at hpassable
    exact ⟨_, hpassable, hdir⟩
  · exact (passable_iff_of_splitOn hsplit).mp hpassable

end Disk

end Signpost
