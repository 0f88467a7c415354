import Signpost.Proofs.Files.Following
import Signpost.Proofs.Text.Trim

/-!
# Disks that grow

Making directories only adds directories: `Disk.makeDirectories_grown` is by induction over the
ancestors of a path, from what one directory adds. Writing a file changes one place.
-/

namespace Signpost

/-! ## One node put into a tree -/

namespace FileTree

variable {place target : Place} {node : FileNode}

theorem lookup_cons {nodes : List (Place × FileNode)} :
    ((place, node) :: nodes).lookup target =
      if target = place then some node else nodes.lookup target := by
  rw [List.lookup_cons]
  by_cases h : target = place
  · simp [h]
  · simp [h, beq_eq_false_iff_ne.mpr h]

theorem lookup_putAmong {nodes : List (Place × FileNode)} :
    (putAmong place node nodes).lookup target =
      if target = place then some node else nodes.lookup target := by
  induction nodes with
  | nil => exact lookup_cons
  | cons entry nodes ih =>
      obtain ⟨p, n⟩ := entry
      rw [putAmong]
      split
      next heq =>
        subst heq
        rw [lookup_cons, lookup_cons]
        split <;> rfl
      next hne =>
        rw [lookup_cons, lookup_cons, ih]
        by_cases htarget : target = p
        · rw [if_pos htarget, if_pos htarget, if_neg (htarget ▸ hne)]
        · rw [if_neg htarget, if_neg htarget]

theorem node?_put {tree : FileTree} (h : place ≠ []) :
    (tree.put place node).node? target =
      if target = place then some node else tree.node? target := by
  rw [node?, node?, put, lookup_putAmong]
  cases target with
  | nil => simp [h.symm]
  | cons name rest => simp

end FileTree

/-! ## Growth -/

/-- A later disk of which everything there before is as it was, and everything new is a directory. -/
structure Disk.Grown (old new : Disk) : Prop where
  workplace : new.workplace = old.workplace
  kept : ∀ {place : Place} {node : FileNode},
    old.tree.node? place = some node → new.tree.node? place = some node
  added : ∀ {place : Place} {node : FileNode}, new.tree.node? place = some node →
    old.tree.node? place = some node ∨ node = .directory

namespace Disk.Grown

variable {a b c old new : Disk} {place target : Place} {path : Text} {bytes : List Nat}

theorem refl : Grown a a := ⟨rfl, id, .inl⟩

theorem trans (first : Grown a b) (second : Grown b c) : Grown a c where
  workplace := second.workplace.trans first.workplace
  kept h := second.kept (first.kept h)
  added h := by
    rcases second.added h with hthere | hdir
    · exact first.added hthere
    · exact .inr hdir

theorem put (hnone : a.tree.node? place = none) :
    Grown a { a with tree := a.tree.put place .directory } := by
  have hplace : place ≠ [] := by
    rintro rfl
    cases hnone
  refine ⟨rfl, fun {target} {_} h => ?_, fun {target} {_} h => ?_⟩
  · rw [FileTree.node?_put hplace, if_neg (by rintro rfl; simp [h] at hnone)]
    exact h
  · rw [FileTree.node?_put hplace] at h
    split at h
    · exact .inr (Option.some.inj h).symm
    · exact .inl h

theorem placeOf (h : Grown old new) : new.placeOf path = old.placeOf path :=
  placeOf_congr h.workplace

/-- What a path leads to is there later as well. -/
theorem locate (h : Grown old new) {node : FileNode} (hold : old.locate path = .ok (place, node)) :
    new.locate path = .ok (place, node) := by
  obtain ⟨hne, hpassable, rfl, hnode⟩ := locate_eq_ok.mp hold
  refine locate_eq_ok.mpr ⟨hne, ?_, h.placeOf.symm, h.kept hnode⟩
  exact hpassable.mono h.workplace fun _ => h.kept

/-- What was there and has become a directory was one. -/
theorem isDirectory_of_exists (h : Grown old new) (hold : old.exists? path = true)
    (hnew : new.isDirectory path = true) : old.isDirectory path = true := by
  obtain ⟨hne, hpassable, node, hnode⟩ := exists?_eq_true.mp hold
  obtain ⟨-, -, hdir⟩ := isDirectory_eq_true.mp hnew
  rw [h.placeOf, h.kept hnode] at hdir
  exact isDirectory_eq_true.mpr ⟨hne, hpassable, hdir ▸ hnode⟩

end Disk.Grown

/-! ## The place that a path names -/

namespace Disk

variable {disk made written : Disk} {path directory name : Text} {components : List Text}
  {parent : Place} {bytes : List Nat}

theorem splitOn_withoutSlashes (path : Text) : ∃ k : Nat,
    Text.splitOn '/' path = Text.splitOn '/' (withoutSlashes path) ++ List.replicate k [] := by
  induction path using List.reverseRecOn with
  | nil => exact ⟨0, rfl⟩
  | append_singleton front c ih =>
      rw [withoutSlashes, Text.trimEndBy_eq_rdropWhile, List.rdropWhile_concat]
      split
      next hslash =>
        obtain ⟨k, hk⟩ := ih
        rw [eq_of_beq hslash, Text.splitOn_append_cons, hk]
        exact ⟨k + 1, by rw [List.append_assoc, List.replicate_succ']; rfl⟩
      next => exact ⟨0, (List.append_nil _).symm⟩

theorem endsWith_slash (h : Text.splitOn '/' path = components ++ [name]) (hname : name ≠ []) :
    Text.endsWith ['/'] path = false := by
  by_contra hslash
  rw [Bool.not_eq_false, Text.endsWith, List.isSuffixOf_iff_suffix] at hslash
  obtain ⟨front, rfl⟩ := hslash
  rw [Text.splitOn_append_cons] at h
  exact hname (List.append_singleton_inj.mp h).2.symm

theorem ne_nil_of_splitOn (h : Text.splitOn '/' path = components ++ [name]) (hname : name ≠ []) :
    path ≠ [] := by
  rintro rfl
  have hnil : [] ++ [[]] = components ++ [name] := h
  exact hname (List.append_singleton_inj.mp hnil).2.symm

theorem withoutSlashes_eq_self (h : Text.endsWith ['/'] path = false) :
    withoutSlashes path = path := by
  rw [withoutSlashes, Text.trimEndBy_eq_rdropWhile, List.rdropWhile_eq_self_iff]
  intro hne hlast
  have hsuffix : ['/'] <:+ path := by
    rw [← eq_of_beq hlast]
    exact ⟨path.dropLast, List.dropLast_append_getLast hne⟩
  rw [Text.endsWith, List.isSuffixOf_iff_suffix.mpr hsuffix] at h
  cases h

theorem locateParent_eq_ok : disk.locateParent path = .ok (parent, some name) ↔
    path ≠ [] ∧ IsName name ∧ ∃ components : List Text,
      Text.splitOn '/' (withoutSlashes path) = components ++ [name] ∧
        disk.tree.follow (disk.origin path) components = .ok parent ∧
          disk.tree.node? parent = some .directory := by
  obtain ⟨components, last, hlast⟩ : ∃ components last,
      Text.splitOn '/' (withoutSlashes path) = components ++ [last] := by
    rcases List.eq_nil_or_concat' (Text.splitOn '/' (withoutSlashes path)) with hnil | h
    · exact absurd hnil Text.splitOn_ne_nil
    · exact h
  rw [locateParent]
  split
  next hempty => simp [List.isEmpty_iff.mp hempty]
  next hempty =>
    rw [List.isEmpty_iff] at hempty
    simp only [hlast, List.dropLast_concat, List.getLast?_concat, bind_eq_ok]
    constructor
    · rintro ⟨place, hfollow, _, hdir, h⟩
      obtain ⟨rfl, hname⟩ := Prod.mk.inj (Except.ok.inj h)
      rw [Option.filter_eq_some_iff, Option.some.injEq, decide_eq_true_eq] at hname
      obtain ⟨rfl, hne, hhere, hup⟩ := hname
      exact ⟨hempty, ⟨hne, hhere, hup⟩, components, rfl, hfollow,
        FileTree.requireDirectory_eq_ok.mp hdir⟩
    · rintro ⟨-, hname, _, hlast', hfollow, hdir⟩
      obtain ⟨rfl, rfl⟩ := List.append_singleton_inj.mp hlast'
      refine ⟨parent, hfollow, (), FileTree.requireDirectory_eq_ok.mpr hdir, ?_⟩
      rw [Option.filter_some_pos (by
        exact decide_eq_true ⟨hname.nonempty, hname.notHere, hname.notUp⟩)]
      rfl

theorem makeDirectory_eq_ok : disk.makeDirectory path = .ok made ↔
    ∃ (parent : Place) (name : Text), disk.locateParent path = .ok (parent, some name) ∧
      disk.tree.node? (parent ++ [name]) = none ∧
        made = { disk with tree := disk.tree.put (parent ++ [name]) .directory } := by
  rw [makeDirectory, bind_eq_ok]
  constructor
  · rintro ⟨⟨parent, name?⟩, hparent, h⟩
    cases name? with
    | none => cases h
    | some name =>
        cases hnode : disk.tree.node? (parent ++ [name]) with
        | none =>
            simp only [hnode] at h
            exact ⟨parent, name, hparent, hnode, (Except.ok.inj h).symm⟩
        | some node => simp [hnode] at h
  · rintro ⟨parent, name, hparent, hnode, rfl⟩
    exact ⟨_, hparent, by simp only [hnode]; rfl⟩

theorem write_eq_ok : disk.write path bytes = .ok written ↔
    ∃ (parent : Place) (name : Text), disk.locateParent path = .ok (parent, some name) ∧
      Text.endsWith ['/'] path = false ∧
        disk.tree.node? (parent ++ [name]) ≠ some .directory ∧
          written = { disk with tree := disk.tree.put (parent ++ [name]) (.file bytes) } := by
  rw [write, bind_eq_ok]
  constructor
  · rintro ⟨⟨parent, name?⟩, hparent, h⟩
    cases name? with
    | none => cases h
    | some name =>
        simp only at h
        split at h
        · cases h
        next hslash =>
          split at h
          · cases h
          next hnode =>
            exact ⟨parent, name, hparent, Bool.eq_false_iff.mpr hslash, hnode,
              (Except.ok.inj h).symm⟩
  · rintro ⟨parent, name, hparent, hslash, hnode, rfl⟩
    refine ⟨_, hparent, ?_⟩
    simp only [hslash, Bool.false_eq_true, if_false]
    rfl

/-! ## Making directories -/

theorem makeDirectory_grown (h : disk.makeDirectory path = .ok made) : Grown disk made := by
  obtain ⟨parent, name, -, hnone, rfl⟩ := makeDirectory_eq_ok.mp h
  exact .put hnone

/-- A directory that is made is where its path leads then, and all else is as it was. -/
theorem makeDirectory_locate (h : disk.makeDirectory path = .ok made) : ∃ place : Place,
    made.locate path = .ok (place, .directory) ∧ ∀ target : Place,
      made.tree.node? target =
        if target = place then some .directory else disk.tree.node? target := by
  have grown := makeDirectory_grown h
  obtain ⟨parent, name, hparent, -, hmade⟩ := makeDirectory_eq_ok.mp h
  obtain ⟨hne, hname, components, hsplit, hfollow, hdir⟩ := locateParent_eq_ok.mp hparent
  have hput (target : Place) : made.tree.node? target =
      if target = parent ++ [name] then some .directory else disk.tree.node? target := by
    rw [hmade]
    exact FileTree.node?_put (by simp)
  have hnode : made.tree.node? (parent ++ [name]) = some .directory := by
    rw [hput, if_pos rfl]
  have hway : made.tree.follow (made.origin path) (components ++ [name]) =
      .ok (parent ++ [name]) := by
    rw [origin_congr grown.workplace]
    have hfollow := FileTree.follow_mono (fun _ => grown.kept) hfollow
    exact FileTree.follow_concat_eq_ok.mpr ⟨parent, hfollow, grown.kept hdir, hname.enter parent⟩
  obtain ⟨k, hk⟩ := splitOn_withoutSlashes path
  have hpath : made.tree.follow (made.origin path) (Text.splitOn '/' path) =
      .ok (parent ++ [name]) := by
    rw [hk, hsplit]
    exact FileTree.follow_append_eq_ok.mpr ⟨_, hway, FileTree.follow_replicate_nil hnode k⟩
  obtain ⟨hpassable, hplace⟩ := passable_of_follow hpath
  exact ⟨_, locate_eq_ok.mpr ⟨hne, hpassable, hplace, hnode⟩, hput⟩

theorem makeDirectory_isDirectory (h : disk.makeDirectory path = .ok made) :
    made.isDirectory path = true := by
  obtain ⟨place, hlocate, -⟩ := makeDirectory_locate h
  rw [isDirectory, hlocate]

theorem ensureDirectory_grown (h : disk.ensureDirectory path = .ok made) : Grown disk made := by
  rw [ensureDirectory] at h
  split at h
  next hmake =>
    cases h
    exact makeDirectory_grown hmake
  next =>
    split at h
    · cases h
      exact .refl
    · cases h

theorem ensureDirectory_isDirectory (h : disk.ensureDirectory path = .ok made) :
    made.isDirectory path = true := by
  rw [ensureDirectory] at h
  split at h
  next hmake =>
    cases h
    exact makeDirectory_isDirectory hmake
  next =>
    split at h
    next hdir =>
      cases h
      exact hdir
    next => cases h

theorem makeAll_grown {paths : List Text} : Grown disk (makeAll paths disk).2 := by
  fun_induction makeAll paths disk with
  | case1 disk => exact .refl
  | case2 path ancestors disk hempty => exact .refl
  | case3 path ancestors disk hempty made hmake => exact makeDirectory_grown hmake
  | case4 path ancestors disk hempty hmissing fault above habove ih =>
      rw [habove] at ih
      exact ih
  | case5 path ancestors disk hempty hmissing above habove made hmake ih =>
      rw [habove] at ih
      exact ih.trans (ensureDirectory_grown hmake)
  | case6 path ancestors disk hempty hmissing above habove fault hmake ih =>
      rw [habove] at ih
      exact ih
  | case7 path ancestors disk hempty fault hother hmake hdir => exact .refl
  | case8 path ancestors disk hempty fault hother hmake hdir => exact .refl

theorem makeAll_isDirectory {paths : List Text} (h : (makeAll paths disk).1 = .ok ())
    (hpath : paths.head? = some path) (hne : path ≠ []) :
    (makeAll paths disk).2.isDirectory path = true := by
  revert h hpath
  fun_cases makeAll paths disk with
  | case1 => nofun
  | case2 first ancestors disk hempty =>
      rintro - ⟨⟩
      exact absurd (List.isEmpty_iff.mp hempty) hne
  | case3 first ancestors disk hempty made hmake =>
      rintro - ⟨⟩
      exact makeDirectory_isDirectory hmake
  | case4 => nofun
  | case5 first ancestors disk hempty hmissing above habove made hmake =>
      rintro - ⟨⟩
      exact ensureDirectory_isDirectory hmake
  | case6 => nofun
  | case7 first ancestors disk hempty fault hother hmake hdir =>
      rintro - ⟨⟩
      exact hdir
  | case8 => nofun

theorem makeDirectories_grown {result : Except FileFault Unit}
    (h : disk.makeDirectories path = (result, made)) : Grown disk made := by
  have grown : Grown disk (disk.makeDirectories path).2 := makeAll_grown
  rwa [h] at grown

/-- Directories that are made without a fault are there afterwards. -/
theorem makeDirectories_isDirectory (h : disk.makeDirectories path = (.ok (), made))
    (hne : path ≠ []) : made.isDirectory path = true := by
  have hhead : (FilePath.ancestors path).head? = some path := by
    rw [FilePath.ancestors]
    cases path.length with
    | zero => rfl
    | succ n => rfl
  have hok : (disk.makeDirectories path).1 = .ok () := by rw [h]
  have hdir : (disk.makeDirectories path).2.isDirectory path = true :=
    makeAll_isDirectory hok hhead hne
  rwa [h] at hdir

/-! ## Where directories are made -/

/-- Whatever is new in a later disk is a directory that one of the paths leads to. -/
def NewAt (paths : List Text) (old new : Disk) : Prop :=
  ∀ (place : Place) (node : FileNode), new.tree.node? place = some node →
    old.tree.node? place = some node ∨
      ∃ path ∈ paths, new.locate path = .ok (place, .directory)

namespace NewAt

variable {a b c : Disk} {paths more : List Text}

theorem refl : NewAt paths a a := fun _ _ => .inl

theorem mono (h : NewAt paths a b) (hsubset : paths ⊆ more) : NewAt more a b := by
  intro place node hnode
  refine (h place node hnode).imp_right ?_
  rintro ⟨path, hpath, hlocate⟩
  exact ⟨path, hsubset hpath, hlocate⟩

theorem trans (first : NewAt paths a b) (second : NewAt paths b c) (grown : Grown b c) :
    NewAt paths a c := by
  intro place node hnode
  rcases second place node hnode with hthere | hnew
  · refine (first place node hthere).imp_right ?_
    rintro ⟨path, hpath, hlocate⟩
    exact ⟨path, hpath, grown.locate hlocate⟩
  · exact .inr hnew

end NewAt

theorem makeDirectory_newAt (h : disk.makeDirectory path = .ok made) :
    NewAt [path] disk made := by
  obtain ⟨there, hlocate, hmade⟩ := makeDirectory_locate h
  intro place node hnode
  rw [hmade] at hnode
  split at hnode
  next hplace => exact .inr ⟨path, List.mem_cons_self, hplace ▸ hlocate⟩
  next => exact .inl hnode

theorem ensureDirectory_newAt (h : disk.ensureDirectory path = .ok made) :
    NewAt [path] disk made := by
  rw [ensureDirectory] at h
  split at h
  next hmake =>
    cases h
    exact makeDirectory_newAt hmake
  next =>
    split at h
    · cases h
      exact .refl
    · cases h

theorem makeAll_newAt {paths : List Text} : NewAt paths disk (makeAll paths disk).2 := by
  fun_induction makeAll paths disk with
  | case1 disk => exact .refl
  | case2 path ancestors disk hempty => exact .refl
  | case3 path ancestors disk hempty made hmake =>
      exact (makeDirectory_newAt hmake).mono (by simp)
  | case4 path ancestors disk hempty hmissing fault above habove ih =>
      rw [habove] at ih
      exact ih.mono (List.subset_cons_self _ _)
  | case5 path ancestors disk hempty hmissing above habove made hmake ih =>
      rw [habove] at ih
      have hlast : NewAt (path :: ancestors) above made :=
        (ensureDirectory_newAt hmake).mono (by simp)
      exact (ih.mono (List.subset_cons_self _ _)).trans hlast (ensureDirectory_grown hmake)
  | case6 path ancestors disk hempty hmissing above habove fault hmake ih =>
      rw [habove] at ih
      exact ih.mono (List.subset_cons_self _ _)
  | case7 path ancestors disk hempty fault hother hmake hdir => exact .refl
  | case8 path ancestors disk hempty fault hother hmake hdir => exact .refl

/-- The directories that are made are those of the path and of what is above it. -/
theorem makeDirectories_newAt {result : Except FileFault Unit}
    (h : disk.makeDirectories path = (result, made)) :
    NewAt (FilePath.ancestors path) disk made := by
  have hnew : NewAt (FilePath.ancestors path) disk (disk.makeDirectories path).2 := makeAll_newAt
  rwa [h] at hnew

/-! ## Writing a file -/

/-- Writing under a name in a directory puts the file where the path leads, if the way there is
passable and no directory is there. -/
theorem write_join_eq_ok (hname : IsFileName name) :
    disk.write (FilePath.join directory name) bytes = .ok written ↔
      disk.Passable (FilePath.join directory name) ∧
        disk.tree.node? (disk.placeOf (FilePath.join directory name)) ≠ some .directory ∧
          written = { disk with
            tree := disk.tree.put (disk.placeOf (FilePath.join directory name)) (.file bytes) } := by
  obtain ⟨components, hsplit, -⟩ := FilePath.splitOn_join hname directory
  have hend := endsWith_slash hsplit hname.nonempty
  have hne := ne_nil_of_splitOn hsplit hname.nonempty
  rw [write_eq_ok, passable_iff_of_splitOn hsplit]
  simp only [locateParent_eq_ok, withoutSlashes_eq_self hend, hsplit]
  constructor
  · rintro ⟨parent, _, ⟨-, -, _, hlast, hfollow, hdir⟩, -, hnode, rfl⟩
    obtain ⟨rfl, rfl⟩ := List.append_singleton_inj.mp hlast
    have hplace := placeOf_of_splitOn hsplit hfollow
    rw [hname.enter] at hplace
    rw [hplace]
    exact ⟨⟨parent, hfollow, hdir⟩, hnode, rfl⟩
  · rintro ⟨⟨parent, hfollow, hdir⟩, hnode, rfl⟩
    have hplace := placeOf_of_splitOn hsplit hfollow
    rw [hname.enter] at hplace
    rw [hplace] at hnode ⊢
    exact ⟨parent, name, ⟨hne, hname.toIsName, components, rfl, hfollow, hdir⟩, hend, hnode, rfl⟩

/-- What is written is the one file that the path leads to. The way there is passable, and no
directory is in its place. -/
theorem write_eq_put (h : disk.write path bytes = .ok written) :
    path ≠ [] ∧ disk.Passable path ∧ disk.tree.node? (disk.placeOf path) ≠ some .directory ∧
      written = { disk with tree := disk.tree.put (disk.placeOf path) (.file bytes) } := by
  obtain ⟨parent, name, hparent, hend, hnode, rfl⟩ := write_eq_ok.mp h
  obtain ⟨hne, hname, components, hsplit, hfollow, hdir⟩ := locateParent_eq_ok.mp hparent
  rw [withoutSlashes_eq_self hend] at hsplit
  rw [placeOf_of_splitOn hsplit hfollow, hname.enter]
  exact ⟨hne, (passable_iff_of_splitOn hsplit).mpr ⟨parent, hfollow, hdir⟩, hnode, rfl⟩

theorem node?_write (h : disk.write path bytes = .ok written) {place : Place} :
    written.tree.node? place =
      if place = disk.placeOf path then some (.file bytes) else disk.tree.node? place := by
  obtain ⟨-, -, hnode, rfl⟩ := write_eq_put h
  refine FileTree.node?_put fun hroot => ?_
  rw [hroot] at hnode
  exact hnode rfl

theorem write_workplace (h : disk.write path bytes = .ok written) :
    written.workplace = disk.workplace := by
  obtain ⟨-, -, -, rfl⟩ := write_eq_put h
  rfl

/-- No directory is lost by writing a file. -/
theorem write_keeps_directory (h : disk.write path bytes = .ok written) {place : Place}
    (hdir : disk.tree.node? place = some .directory) :
    written.tree.node? place = some .directory := by
  obtain ⟨-, -, hnode, -⟩ := write_eq_put h
  rw [node?_write h, if_neg]
  · exact hdir
  · rintro rfl
    exact hnode hdir

/-- What is written is found by its path. -/
theorem write_locate (h : disk.write path bytes = .ok written) :
    written.locate path = .ok (disk.placeOf path, .file bytes) := by
  obtain ⟨hne, hpassable, -, -⟩ := write_eq_put h
  have hwork := write_workplace h
  refine locate_eq_ok.mpr ⟨hne, ?_, (placeOf_congr hwork).symm, ?_⟩
  · exact hpassable.mono hwork fun _ => write_keeps_directory h
  · rw [node?_write h, if_pos rfl]

/-- A directory is found by its path when a file was written as it was before. -/
theorem locate_directory_write (h : disk.write path bytes = .ok written) {place : Place}
    (hdir : disk.locate directory = .ok (place, .directory)) :
    written.locate directory = .ok (place, .directory) := by
  obtain ⟨hne, hpassable, rfl, hnode⟩ := locate_eq_ok.mp hdir
  have hwork := write_workplace h
  refine locate_eq_ok.mpr ⟨hne, ?_, (placeOf_congr hwork).symm, write_keeps_directory h hnode⟩
  exact hpassable.mono hwork fun _ => write_keeps_directory h

end Disk

end Signpost
