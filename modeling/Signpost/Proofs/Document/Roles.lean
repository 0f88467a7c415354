import Signpost.FieldPath
import Signpost.Proofs.Document.Trees

/-!
# Unknown members

Which members of a tree are unknown depends on what its values are read as. A role says this for a
value: it names the fields of a record and the roles of their values. An unknown member counts
once, by its own path, and nothing inside it counts. Putting one more unknown member into a tree
adds its path to the unknown ones, at its place in source order.
-/

namespace Signpost.Document

/-- What a value is read as. -/
inductive Role where
  /-- No member is unknown. -/
  | whole
  /-- A list of values of one role. -/
  | list (element : Role)
  /-- A table of values of one role, whatever their keys. One such value may stand in its place. -/
  | entries (value : Role)
  /-- A table of fields, or the list of their values. -/
  | record (fields : List (Text × Role))

/-- The role of the member with a name, unless the name is unknown. -/
def Role.member? : Role → Text → Option Role
  | .record fields, name => fields.lookup name
  | .entries value, _ => some value
  | _, _ => some .whole

/-- The role of the element at a position. -/
def Role.element : Role → Nat → Role
  | .whole, _ => .whole
  | .list element, _ => element
  | .entries value, i => value.element i
  | .record fields, i => (fields[i]?).elim .whole Prod.snd

/-- The role of a member's value. What stands behind an unknown name or an unreadable one is not
looked into. -/
def Role.inner (role : Role) : Option Text → Role
  | none => .whole
  | some name => (role.member? name).getD .whole

namespace Tree

mutual

/-- The paths of the unknown members of a tree, in source order. -/
def unknown (role : Role) (path : FieldPath) : Tree → List FieldPath
  | .list trees => unknownItems role path 0 trees
  | .table pairs => unknownMembers role path pairs
  | _ => []

/-- The paths of the unknown members in the elements from position `i` on. -/
def unknownItems (role : Role) (path : FieldPath) : Nat → List Tree → List FieldPath
  | _, [] => []
  | i, tree :: rest =>
    tree.unknown (role.element i) (path.push (.index i)) ++ unknownItems role path (i + 1) rest

/-- The paths of the unknown members among the members and inside them. -/
def unknownMembers (role : Role) (path : FieldPath) : List (Option Text × Tree) → List FieldPath
  | [] => []
  | (none, _) :: rest => unknownMembers role path rest
  | (some name, tree) :: rest =>
    (match role.member? name with
      | none => [path.push (FieldPath.keyStep name)]
      | some inner => tree.unknown inner (path.push (FieldPath.keyStep name))) ++
    unknownMembers role path rest

end

/-- The second tree is the first one with one more member, which is unknown; `p` is its path. -/
inductive Inserted : Role → FieldPath → Tree → FieldPath → Tree → Prop where
  | here {role : Role} {path : FieldPath} {front back : List (Option Text × Tree)} {name : Text}
      {value : Tree} (h : role.member? name = none) :
      Inserted role path (.table (front ++ back)) (path.push (FieldPath.keyStep name))
        (.table (front ++ (some name, value) :: back))
  | member {role inner : Role} {path p : FieldPath} {front back : List (Option Text × Tree)}
      {name : Text} {tree tree' : Tree} (h : role.member? name = some inner)
      (inside : Inserted inner (path.push (FieldPath.keyStep name)) tree p tree') :
      Inserted role path (.table (front ++ (some name, tree) :: back)) p
        (.table (front ++ (some name, tree') :: back))
  | element {role : Role} {path p : FieldPath} {front back : List Tree} {tree tree' : Tree}
      (inside : Inserted (role.element front.length) (path.push (.index front.length)) tree p tree') :
      Inserted role path (.list (front ++ tree :: back)) p (.list (front ++ tree' :: back))

/-! ## Where the path of an unknown member stands -/

section Unknown

variable {role : Role} {path : FieldPath}

theorem unknownItems_append (i : Nat) (front back : List Tree) :
    unknownItems role path i (front ++ back) =
      unknownItems role path i front ++ unknownItems role path (i + front.length) back := by
  induction front generalizing i with
  | nil => rfl
  | cons tree front ih =>
      rw [List.cons_append, unknownItems, unknownItems, ih, List.append_assoc, List.length_cons,
        Nat.add_right_comm, Nat.add_assoc]

theorem unknownMembers_append (front back : List (Option Text × Tree)) :
    unknownMembers role path (front ++ back) =
      unknownMembers role path front ++ unknownMembers role path back := by
  induction front with
  | nil => rfl
  | cons m front ih =>
      obtain ⟨_ | name, tree⟩ := m
      · rw [List.cons_append, unknownMembers, unknownMembers, ih]
      · rw [List.cons_append, unknownMembers, unknownMembers, ih, List.append_assoc]

/-- One more unknown member adds its path to the unknown ones, once and at its place. -/
theorem Inserted.unknown {tree tree' : Tree} {p : FieldPath}
    (h : Inserted role path tree p tree') :
    ∃ before after, tree.unknown role path = before ++ after ∧
      tree'.unknown role path = before ++ p :: after := by
  induction h with
  | @here role path front back name value h =>
      refine ⟨unknownMembers role path front, unknownMembers role path back,
        unknownMembers_append front back, ?_⟩
      rw [Tree.unknown, unknownMembers_append, unknownMembers, h]
      rfl
  | @member role inner path p front back name tree tree' h _ ih =>
      obtain ⟨before, after, htree, htree'⟩ := ih
      refine ⟨unknownMembers role path front ++ before, after ++ unknownMembers role path back,
        ?_, ?_⟩
      · rw [Tree.unknown, unknownMembers_append, unknownMembers, h]
        simp only [htree, List.append_assoc]
      · rw [Tree.unknown, unknownMembers_append, unknownMembers, h]
        simp only [htree', List.append_assoc, List.cons_append]
  | @element role path p front back tree tree' _ ih =>
      obtain ⟨before, after, htree, htree'⟩ := ih
      refine ⟨unknownItems role path 0 front ++ before,
        after ++ unknownItems role path (0 + front.length + 1) back, ?_, ?_⟩
      · rw [Tree.unknown, unknownItems_append, unknownItems, Nat.zero_add, htree]
        simp only [List.append_assoc]
      · rw [Tree.unknown, unknownItems_append, unknownItems, Nat.zero_add, htree']
        simp only [List.append_assoc, List.cons_append]

end Unknown

mutual

/-- Where a path is unknown, its member was put in. -/
theorem exists_inserted (role : Role) (path : FieldPath) : ∀ tree : Tree,
    tree.unknown role path ≠ [] → ∃ tree₀ p, Inserted role path tree₀ p tree
  | .list trees, h => by
      obtain ⟨front, tree, tree₀, p, back, rfl, inside⟩ :=
        exists_inserted_items role path 0 trees h
      rw [Nat.zero_add] at inside
      exact ⟨_, _, .element inside⟩
  | .table pairs, h => by
      obtain ⟨front, name, tree, back, rfl, hnone | ⟨inner, tree₀, p, hsome, inside⟩⟩ :=
        exists_inserted_members role path pairs h
      · exact ⟨_, _, .here hnone⟩
      · exact ⟨_, _, .member hsome inside⟩

theorem exists_inserted_items (role : Role) (path : FieldPath) : ∀ (i : Nat) (trees : List Tree),
    unknownItems role path i trees ≠ [] → ∃ front tree tree₀ p back,
      trees = front ++ tree :: back ∧
        Inserted (role.element (i + front.length)) (path.push (.index (i + front.length)))
          tree₀ p tree
  | i, tree :: rest, h => by
      by_cases hfirst : tree.unknown (role.element i) (path.push (.index i)) = []
      · rw [unknownItems, hfirst, List.nil_append] at h
        obtain ⟨front, found, tree₀, p, back, rfl, inside⟩ :=
          exists_inserted_items role path (i + 1) rest h
        rw [Nat.add_assoc, Nat.add_comm 1] at inside
        exact ⟨tree :: front, found, tree₀, p, back, rfl, inside⟩
      · obtain ⟨tree₀, p, inside⟩ := exists_inserted _ _ tree hfirst
        exact ⟨[], tree, tree₀, p, rest, rfl, inside⟩

theorem exists_inserted_members (role : Role) (path : FieldPath) :
    ∀ pairs : List (Option Text × Tree), unknownMembers role path pairs ≠ [] →
      ∃ front name tree back, pairs = front ++ (some name, tree) :: back ∧
        (role.member? name = none ∨ ∃ inner tree₀ p, role.member? name = some inner ∧
          Inserted inner (path.push (FieldPath.keyStep name)) tree₀ p tree)
  | (none, tree) :: rest, h => by
      rw [unknownMembers] at h
      obtain ⟨front, name, found, back, rfl, inside⟩ := exists_inserted_members role path rest h
      exact ⟨(none, tree) :: front, name, found, back, rfl, inside⟩
  | (some name, tree) :: rest, h => by
      cases hname : role.member? name with
      | none => exact ⟨[], name, tree, rest, rfl, .inl hname⟩
      | some inner =>
          by_cases hfirst : tree.unknown inner (path.push (FieldPath.keyStep name)) = []
          · rw [unknownMembers, hname] at h
            simp only [hfirst, List.nil_append] at h
            obtain ⟨front, name', found, back, rfl, inside⟩ :=
              exists_inserted_members role path rest h
            exact ⟨(some name, tree) :: front, name', found, back, rfl, inside⟩
          · obtain ⟨tree₀, p, inside⟩ := exists_inserted _ _ tree hfirst
            exact ⟨[], name, tree, rest, rfl, .inr ⟨inner, tree₀, p, hname, inside⟩⟩

end

/-- No path is unknown exactly when no unknown member was put in. -/
theorem unknown_eq_nil {role : Role} {path : FieldPath} {tree : Tree} :
    tree.unknown role path = [] ↔ ¬∃ tree₀ p, Inserted role path tree₀ p tree := by
  refine ⟨?_, fun h => Classical.byContradiction fun hne => h (exists_inserted role path tree hne)⟩
  rintro h ⟨tree₀, p, inside⟩
  obtain ⟨before, after, -, htree⟩ := inside.unknown
  rw [h] at htree
  exact absurd htree (by simp)

/-! ## Trees that agree on what is known -/

mutual

/-- The second tree is the first one with more members, all of them unknown. -/
inductive Extends : Role → Tree → Tree → Prop where
  | null (role : Role) : Extends role .null .null
  | flag (role : Role) (b : Bool) : Extends role (.flag b) (.flag b)
  | number (role : Role) (spelling : Text) : Extends role (.number spelling) (.number spelling)
  | text (role : Role) (content : Option Text) : Extends role (.text content) (.text content)
  | list {role : Role} {trees trees' : List Tree} (inside : ExtendsItems role 0 trees trees') :
      Extends role (.list trees) (.list trees')
  | table {role : Role} {pairs pairs' : List (Option Text × Tree)}
      (inside : ExtendsMembers role pairs pairs') : Extends role (.table pairs) (.table pairs')

/-- The elements from a position on extend each other one by one. -/
inductive ExtendsItems : Role → Nat → List Tree → List Tree → Prop where
  | nil (role : Role) (i : Nat) : ExtendsItems role i [] []
  | cons {role : Role} {i : Nat} {tree tree' : Tree} {trees trees' : List Tree}
      (first : Extends (role.element i) tree tree') (others : ExtendsItems role (i + 1) trees trees') :
      ExtendsItems role i (tree :: trees) (tree' :: trees')

/-- The second members are the first ones, extended, and unknown ones between them. -/
inductive ExtendsMembers :
    Role → List (Option Text × Tree) → List (Option Text × Tree) → Prop where
  | nil (role : Role) : ExtendsMembers role [] []
  | member {role : Role} {name : Option Text} {tree tree' : Tree}
      {pairs pairs' : List (Option Text × Tree)} (first : Extends (role.inner name) tree tree')
      (others : ExtendsMembers role pairs pairs') :
      ExtendsMembers role ((name, tree) :: pairs) ((name, tree') :: pairs')
  | extra {role : Role} {name : Text} (tree : Tree) {pairs pairs' : List (Option Text × Tree)}
      (h : role.member? name = none) (others : ExtendsMembers role pairs pairs') :
      ExtendsMembers role pairs ((some name, tree) :: pairs')

end

mutual

theorem Extends.refl (role : Role) : ∀ tree : Tree, Extends role tree tree
  | .null => .null role
  | .flag b => .flag role b
  | .number spelling => .number role spelling
  | .text content => .text role content
  | .list trees => .list (ExtendsItems.refl role 0 trees)
  | .table pairs => .table (ExtendsMembers.refl role pairs)

theorem ExtendsItems.refl (role : Role) : ∀ (i : Nat) (trees : List Tree),
    ExtendsItems role i trees trees
  | i, [] => .nil role i
  | i, tree :: trees => .cons (Extends.refl _ tree) (ExtendsItems.refl role (i + 1) trees)

theorem ExtendsMembers.refl (role : Role) : ∀ pairs : List (Option Text × Tree),
    ExtendsMembers role pairs pairs
  | [] => .nil role
  | (_, tree) :: pairs => .member (Extends.refl _ tree) (ExtendsMembers.refl role pairs)

end

theorem ExtendsItems.front {role : Role} {back back' : List Tree} (front : List Tree) {i : Nat}
    (h : ExtendsItems role (i + front.length) back back') :
    ExtendsItems role i (front ++ back) (front ++ back') := by
  induction front generalizing i with
  | nil => exact h
  | cons tree front ih =>
      rw [List.length_cons, Nat.add_comm front.length, ← Nat.add_assoc] at h
      exact .cons (.refl _ tree) (ih h)

theorem ExtendsMembers.front {role : Role} {back back' : List (Option Text × Tree)}
    (front : List (Option Text × Tree)) (h : ExtendsMembers role back back') :
    ExtendsMembers role (front ++ back) (front ++ back') := by
  induction front with
  | nil => exact h
  | cons m front ih => exact .member (.refl _ m.2) ih

theorem Inserted.extends {role : Role} {path p : FieldPath} {tree tree' : Tree}
    (h : Inserted role path tree p tree') : Extends role tree tree' := by
  induction h with
  | here h => exact .table (.front _ (.extra _ h (.refl _ _)))
  | @member role inner path p front back name tree tree' h _ ih =>
      refine .table (.front _ (.member ?_ (.refl _ _)))
      rwa [Role.inner, h]
  | @element role path p front back tree tree' _ ih =>
      refine .list (.front _ (.cons ?_ (.refl _ _ _)))
      rwa [Nat.zero_add]

end Tree

end Signpost.Document
