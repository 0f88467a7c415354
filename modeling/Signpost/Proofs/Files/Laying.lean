import Signpost.Proofs.Files.Ancestors

/-!
# Laying directories

The places on a way are laid one after the other: where nothing is, a directory is made, and a file
ends it. What was laid before the file stays. Nothing at all is made where the first place that is
no directory is a file.
-/

namespace Signpost

open FilePath

/-! ## The places on a way -/

/-- The places that components lead through, the last one included. -/
def Place.stops : Place → List Text → List Place
  | _, [] => []
  | place, component :: rest => place.enter component :: (place.enter component).stops rest

namespace Place

variable {place : Place} {component : Text} {components rest : List Text}

theorem enter_of_not_isStep (h : isStep component = false) : place.enter component = place := by
  refine if_pos ?_
  simpa [isStep, ← or_iff_not_imp_left] using h

theorem stops_append :
    place.stops (components ++ rest) =
      place.stops components ++ (place.walk components).stops rest := by
  induction components generalizing place with
  | nil => rfl
  | cons component components ih => exact congrArg _ ih

theorem walk_filter : place.walk (components.filter isStep) = place.walk components := by
  induction components generalizing place with
  | nil => rfl
  | cons component components ih =>
      cases hstep : isStep component with
      | true =>
          rw [List.filter_cons_of_pos hstep]
          exact ih
      | false =>
          rw [List.filter_cons_of_neg (by simp [hstep]), ih]
          exact congrArg (·.walk components) (enter_of_not_isStep hstep).symm

theorem walk_mem_stops (place : Place) (components : List Text) :
    place.walk components ∈ place :: place.stops components := by
  induction components generalizing place with
  | nil => exact List.mem_cons_self
  | cons component components ih => exact List.mem_cons_of_mem _ (ih _)

theorem stops_eq_append {front back : List Place} {gap : Place}
    (h : place.stops components = front ++ gap :: back) :
    ∃ before behind, components = before ++ behind ∧ gap = place.walk before ∧
      back = gap.stops behind := by
  induction front generalizing place components with
  | nil =>
      cases components with
      | nil => cases h
      | cons component components =>
          obtain ⟨rfl, rfl⟩ := List.cons.inj h
          exact ⟨[component], components, rfl, rfl, rfl⟩
  | cons first front ih =>
      cases components with
      | nil => cases h
      | cons component components =>
          obtain ⟨-, hrest⟩ := List.cons.inj h
          obtain ⟨before, behind, rfl, hgap, hback⟩ := ih hrest
          exact ⟨component :: before, behind, rfl, hgap, hback⟩

/-- Names only lead further down. -/
theorem walk_names (h : ∀ component ∈ components, IsName component) :
    place.walk components = place ++ components := by
  induction components generalizing place with
  | nil => exact (List.append_nil place).symm
  | cons component components ih =>
      obtain ⟨hname, hrest⟩ := List.forall_mem_cons.mp h
      rw [walk, List.foldl_cons, hname.enter]
      exact (ih hrest).trans (List.append_assoc _ _ _)

theorem mem_stops_names {target : Place} (h : ∀ component ∈ components, IsName component)
    (hmem : target ∈ place.stops components) :
    place <+: target ∧ target <+: place ++ components := by
  obtain ⟨front, back, hstops⟩ := List.append_of_mem hmem
  obtain ⟨before, behind, rfl, rfl, -⟩ := stops_eq_append hstops
  rw [walk_names fun c hc => h c (List.mem_append_left _ hc)]
  exact ⟨List.prefix_append _ _, ⟨behind, List.append_assoc _ _ _⟩⟩

end Place

/-! ## Ways that are passable to their end -/

namespace FileTree

variable {tree : FileTree} {place target : Place} {components : List Text}
  {places more : List Place} {fault : FileFault}

/-- All of these places are directories, or what is in the stead of the first that is not. -/
def requireAll (tree : FileTree) (places : List Place) : Except FileFault Unit :=
  places.forM tree.requireDirectory

/-- Follows components to a directory. -/
def tread (tree : FileTree) (place : Place) (components : List Text) : Except FileFault Place := do
  let target ← tree.follow place components
  tree.requireDirectory target
  return target

theorem requireAll_cons : tree.requireAll (place :: places) =
    tree.requireDirectory place >>= fun _ => tree.requireAll places := List.forM_cons

theorem requireAll_eq_ok :
    tree.requireAll places = .ok () ↔ ∀ place ∈ places, tree.node? place = some .directory := by
  induction places with
  | nil => simp [requireAll]; rfl
  | cons place places ih =>
      rw [requireAll_cons, bind_eq_ok, List.forall_mem_cons, ← ih, ← requireDirectory_eq_ok]
      exact ⟨fun ⟨_, hplace, hplaces⟩ => ⟨hplace, hplaces⟩,
        fun ⟨hplace, hplaces⟩ => ⟨_, hplace, hplaces⟩⟩

theorem requireDirectory_eq_missing :
    tree.requireDirectory place = .error .missing ↔ tree.node? place = none := by
  rw [requireDirectory]
  split <;> simp_all

theorem requireAll_eq_missing : tree.requireAll places = .error .missing ↔
    ∃ front gap back, places = front ++ gap :: back ∧
      (∀ place ∈ front, tree.node? place = some .directory) ∧ tree.node? gap = none := by
  induction places with
  | nil => exact ⟨nofun, fun ⟨front, gap, back, h, _⟩ => by simp at h⟩
  | cons place places ih =>
      rw [requireAll_cons]
      cases hplace : tree.requireDirectory place with
      | ok _ =>
          have hdir := requireDirectory_eq_ok.mp hplace
          refine Iff.trans ih ⟨?_, ?_⟩
          · rintro ⟨front, gap, back, rfl, hfront, hgap⟩
            exact ⟨place :: front, gap, back, rfl, List.forall_mem_cons.mpr ⟨hdir, hfront⟩, hgap⟩
          · rintro ⟨front, gap, back, h, hfront, hgap⟩
            cases front with
            | nil =>
                obtain ⟨rfl, -⟩ := List.cons.inj h
                cases hgap.symm.trans hdir
            | cons first front =>
                exact ⟨front, gap, back, (List.cons.inj h).2, (List.forall_mem_cons.mp hfront).2,
                  hgap⟩
      | error fault =>
          constructor
          · intro h
            obtain rfl : fault = .missing := Except.error.inj h
            exact ⟨[], place, places, rfl, nofun, requireDirectory_eq_missing.mp hplace⟩
          · rintro ⟨front, gap, back, h, hfront, hgap⟩
            cases front with
            | nil =>
                obtain ⟨rfl, -⟩ := List.cons.inj h
                exact hplace.symm.trans (requireDirectory_eq_missing.mpr hgap)
            | cons first front =>
                obtain ⟨rfl, -⟩ := List.cons.inj h
                have hdir := (List.forall_mem_cons.mp hfront).1
                cases hplace.symm.trans (requireDirectory_eq_ok.mpr hdir)

theorem node?_of_missing (h : tree.requireAll [place] = .error .missing) :
    tree.node? place = none := by
  rw [requireAll_cons, requireDirectory] at h
  cases hnode : tree.node? place with
  | none => rfl
  | some node =>
      rw [hnode] at h
      cases node <;> cases h

theorem requireAll_append : tree.requireAll (places ++ more) =
    tree.requireAll places >>= fun _ => tree.requireAll more := List.forM_append

theorem tread_of_error (h : tree.requireDirectory place = .error fault) :
    tree.tread place components = .error fault := by
  rw [tread]
  cases components with
  | nil => rw [follow_nil]; simp only [bind, Except.bind, h]
  | cons component rest => rw [follow_cons, h]; rfl

theorem walk_directory (hplace : tree.node? place = some .directory)
    (hway : tree.requireAll (place.stops components) = .ok ()) :
    tree.node? (place.walk components) = some .directory := by
  rcases List.mem_cons.mp (place.walk_mem_stops components) with heq | hmem
  · rw [heq]
    exact hplace
  · exact requireAll_eq_ok.mp hway _ hmem

theorem requireAll_of_dropLast
    (h : tree.requireAll (place.stops components.dropLast) = .error fault) :
    tree.requireAll (place.stops components) = .error fault := by
  rcases List.eq_nil_or_concat' components with rfl | ⟨front, last, rfl⟩
  · exact h
  · rw [List.dropLast_concat] at h
    rw [Place.stops_append, requireAll_append, h]
    rfl

/-- Components that stay where they are do not matter on a way to a directory. -/
theorem tread_eq (h : tree.node? place = some .directory) : tree.tread place components =
    tree.requireAll (place.stops (components.filter isStep)) >>= fun _ =>
      .ok (place.walk components) := by
  induction components generalizing place with
  | nil =>
      rw [tread, follow_nil]
      simp only [bind, Except.bind, requireDirectory_eq_ok.mpr h]
      rfl
  | cons component rest ih =>
      have hcons : tree.tread place (component :: rest) =
          tree.tread (place.enter component) rest := by
        rw [tread, follow_cons, requireDirectory_eq_ok.mpr h]
        rfl
      rw [hcons]
      cases hstep : isStep component with
      | false =>
          rw [List.filter_cons_of_neg (by simp [hstep]), Place.walk, List.foldl_cons,
            Place.enter_of_not_isStep hstep]
          exact ih h
      | true =>
          rw [List.filter_cons_of_pos hstep, Place.stops, requireAll_cons]
          cases hdir : tree.requireDirectory (place.enter component) with
          | error fault => exact tread_of_error hdir
          | ok _ => exact ih (requireDirectory_eq_ok.mp hdir)

/-! ## Laying directories -/

/-- Makes the missing ones of these places directories, one after the other, up to a file. -/
def lay : List Place → FileTree → Bool × FileTree
  | [], tree => (true, tree)
  | place :: rest, tree =>
    match tree.node? place with
    | some .directory => lay rest tree
    | some (.file _) => (false, tree)
    | none => lay rest (tree.put place .directory)

theorem lay_append : lay (places ++ more) tree =
    match lay places tree with
    | (true, laid) => lay more laid
    | (false, laid) => (false, laid) := by
  fun_induction lay places tree with
  | case1 tree => rfl
  | case2 place rest tree hdir ih => rw [List.cons_append, lay, hdir]; exact ih
  | case3 place rest tree bytes hfile => rw [List.cons_append, lay, hfile]
  | case4 place rest tree hnone ih => rw [List.cons_append, lay, hnone]; exact ih

theorem lay_append_of_true (more : List Place) (h : (lay places tree).1 = true) :
    lay (places ++ more) tree = lay more (lay places tree).2 := by
  rw [lay_append]
  rcases hlay : lay places tree with ⟨done, laid⟩
  rw [hlay] at h
  cases h
  rfl

theorem lay_append_of_false (more : List Place) (h : (lay places tree).1 = false) :
    lay (places ++ more) tree = lay places tree := by
  rw [lay_append]
  rcases hlay : lay places tree with ⟨done, laid⟩
  rw [hlay] at h
  cases h
  rfl

theorem lay_of_requireAll (h : tree.requireAll places = .ok ()) :
    lay places tree = (true, tree) := by
  rw [requireAll_eq_ok] at h
  induction places with
  | nil => rfl
  | cons place places ih =>
      obtain ⟨hdir, hrest⟩ := List.forall_mem_cons.mp h
      rw [lay, hdir]
      exact ih hrest

/-- Nothing is made where the first place that is no directory is a file. -/
theorem lay_of_fault (h : tree.requireAll places = .error fault) (hfault : fault ≠ .missing) :
    lay places tree = (false, tree) := by
  induction places with
  | nil => cases h
  | cons place places ih =>
      rw [requireAll_cons, requireDirectory] at h
      rw [lay]
      cases hnode : tree.node? place with
      | none =>
          rw [hnode] at h
          cases h
          exact absurd rfl hfault
      | some node =>
          rw [hnode] at h
          cases node with
          | file bytes => rfl
          | directory => exact ih h

/-- Nothing is made where nothing is missing before a file. -/
theorem lay_of_not_missing (h : tree.requireAll places ≠ .error .missing) :
    (lay places tree).2 = tree ∧
      ((lay places tree).1 = true ↔ tree.requireAll places = .ok ()) := by
  cases hall : tree.requireAll places with
  | ok _ =>
      rw [lay_of_requireAll hall]
      exact ⟨rfl, fun _ => rfl, fun _ => rfl⟩
  | error fault =>
      rw [lay_of_fault hall fun heq => h (heq ▸ hall)]
      exact ⟨rfl, nofun, nofun⟩

theorem kept_of_lay {node : FileNode} (h : tree.node? target = some node) :
    (lay places tree).2.node? target = some node := by
  fun_induction lay places tree with
  | case1 tree => exact h
  | case2 place rest tree hdir ih => exact ih h
  | case3 place rest tree bytes hfile => exact h
  | case4 place rest tree hnone ih =>
      refine ih ?_
      rw [node?_put (by rintro rfl; cases hnone), if_neg (by rintro rfl; simp [h] at hnone)]
      exact h

/-- What is there when all places are laid: directories at these, and else what was there. -/
theorem node?_lay (h : (lay places tree).1 = true) : (lay places tree).2.node? target =
    if target ∈ places then some .directory else tree.node? target := by
  fun_induction lay places tree with
  | case1 tree => simp
  | case2 place rest tree hdir ih =>
      rw [ih h]
      by_cases heq : target = place
      · simp [heq, hdir]
      · simp [heq]
  | case3 place rest tree bytes hfile => cases h
  | case4 place rest tree hnone ih =>
      rw [ih h, node?_put (by rintro rfl; cases hnone)]
      by_cases heq : target = place
      · simp [heq]
      · simp [heq]

theorem requireAll_lay (h : (lay places tree).1 = true) :
    (lay places tree).2.requireAll places = .ok () :=
  requireAll_eq_ok.mpr fun _ hmem => (node?_lay h).trans (if_pos hmem)

/-- Laying what is laid already changes nothing. -/
theorem lay_lay (more : List Place) (h : (lay places tree).1 = true) :
    lay (places ++ more) (lay places tree).2 = lay (places ++ more) tree := by
  rw [lay_append, lay_of_requireAll (requireAll_lay h), lay_append_of_true more h]

theorem lay_fst : (lay places tree).1 = true ↔
    ∀ place ∈ places, ∀ bytes, tree.node? place ≠ some (.file bytes) := by
  fun_induction lay places tree with
  | case1 tree => simp
  | case2 place rest tree hdir ih => simp [ih, hdir]
  | case3 place rest tree bytes hfile => simp [hfile]
  | case4 place rest tree hnone ih =>
      rw [ih, List.forall_mem_cons]
      have hput (target : Place) (bytes : List Nat) :
          (tree.put place .directory).node? target = some (.file bytes) ↔
            tree.node? target = some (.file bytes) := by
        rw [node?_put (by rintro rfl; cases hnone)]
        split
        next heq => simp [heq, hnone]
        next => rfl
      simp [hput, hnone]

/-- Something is made exactly where the first place that is no directory is missing. -/
theorem lay_ne_iff : (lay places tree).2 ≠ tree ↔ tree.requireAll places = .error .missing := by
  constructor
  · intro hchanged
    by_contra h
    exact hchanged (lay_of_not_missing h).1
  · intro h heq
    obtain ⟨front, gap, back, rfl, hfront, hgap⟩ := requireAll_eq_missing.mp h
    have hway := lay_of_requireAll (requireAll_eq_ok.mpr hfront)
    have hput : (lay (front ++ gap :: back) tree).2.node? gap = some .directory := by
      rw [lay_append, hway]
      simp only [lay, hgap]
      refine kept_of_lay ?_
      rw [node?_put (by rintro rfl; cases hgap), if_pos rfl]
    rw [heq, hgap] at hput
    cases hput

/-! ## Trees whose nodes lie in directories -/

theorem Rooted.dropLast (rooted : tree.Rooted) (h : tree.node? place = some .directory) :
    tree.node? place.dropLast = some .directory := by
  rcases List.eq_nil_or_concat' place with rfl | ⟨front, name, rfl⟩
  · exact h
  · rw [List.dropLast_concat]
    exact rooted front name (Option.isSome_of_eq_some h)

/-- Nothing lies below what is not there. -/
theorem Rooted.none_below (rooted : tree.Rooted) (h : tree.node? place = none)
    (hbelow : place <+: target) : tree.node? target = none := by
  obtain ⟨rest, rfl⟩ := hbelow
  induction rest using List.reverseRecOn with
  | nil => rwa [List.append_nil]
  | append_singleton rest name ih =>
      rw [← List.append_assoc]
      by_contra hsome
      have hdir := rooted _ _ (Option.isSome_iff_ne_none.mpr hsome)
      rw [ih] at hdir
      cases hdir

/-- From a directory, only a name leads to what is not there. -/
theorem Rooted.isName_of_missing {component : Text} (rooted : tree.Rooted)
    (h : tree.node? place = some .directory) (hnone : tree.node? (place.enter component) = none) :
    IsName component := by
  rw [Place.enter] at hnone
  split at hnone
  next =>
    rw [h] at hnone
    cases hnone
  next hstay =>
    split at hnone
    next =>
      rw [rooted.dropLast h] at hnone
      cases hnone
    next hup =>
      rw [not_or] at hstay
      exact ⟨hstay.1, hstay.2, hup⟩

theorem Rooted.put {name : Text} (rooted : tree.Rooted) (h : tree.node? place = some .directory) :
    (tree.put (place ++ [name]) .directory).Rooted := by
  intro target last hsome
  rw [node?_put (by simp)] at hsome ⊢
  split
  next => rfl
  next hne =>
    split at hsome
    next heq =>
      obtain ⟨rfl, -⟩ := List.append_singleton_inj.mp heq
      exact h
    next => exact rooted target last hsome

/-- Directories that are laid in turn lie in directories. -/
theorem Rooted.lay (rooted : tree.Rooted) (h : tree.node? place = some .directory) :
    (lay (place.stops components) tree).2.Rooted := by
  induction components generalizing place tree with
  | nil => exact rooted
  | cons component rest ih =>
      rw [Place.stops, FileTree.lay]
      cases hnode : tree.node? (place.enter component) with
      | none =>
          have hname := rooted.isName_of_missing h hnode
          rw [hname.enter]
          exact ih (rooted.put h) ((node?_put (by simp)).trans (if_pos rfl))
      | some node =>
          cases node with
          | file bytes => exact rooted
          | directory => exact ih rooted hnode

end FileTree

end Signpost
