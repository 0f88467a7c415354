import Signpost.Proofs.Document.Inside

/-!
# Exactly what is taken in

A decoder is exact for a relation between trees and values when it takes in the trees of the
relation as their values, wherever they are found, and takes in nothing else and passes nothing
over. How each way to build a decoder is exact is said here once. A record that refuses unknown
members is taken in exactly when its members are fields, none of them repeated, and each of them is
taken in by itself.

A record with another value in one of its members differs in the field of that member only.
-/

namespace Signpost.Document

/-- What mirrors a tree is taken in as a value exactly when the relation holds, and nothing is
passed over. -/
structure Decoder.Exact {α : Type} (decoder : Decoder α) (Means : Tree → α → Prop) : Prop where
  eq_ok : ∀ {path : FieldPath} {node : Node} {tree : Tree}, node.Mirrors tree →
    ∀ {r : α × List FieldPath}, decoder path node = Except.ok r ↔ ∃ a, Means tree a ∧ r = (a, [])

/-- The tree is null, or it says a value. -/
inductive Tree.OrNull {α : Type} (Means : Tree → α → Prop) : Tree → Option α → Prop where
  | null : OrNull Means .null none
  | value {tree : Tree} {a : α} (h : Means tree a) : OrNull Means tree (some a)

/-- What the members of a table say of a field: it is blank when no member has its name. -/
inductive Tree.Field {α : Type} (Means : Tree → α → Prop) (blank : α) (name : Text)
    (pairs : List (Option Text × Tree)) : α → Prop where
  | absent (h : some name ∉ pairs.map Prod.fst) : Field Means blank name pairs blank
  | written {tree : Tree} {a : α} (h : (some name, tree) ∈ pairs) (hmeans : Means tree a) :
      Field Means blank name pairs a

/-- Where no name is repeated, a member with the name of a field is the one that is meant. -/
theorem Tree.Field.of_mem {α : Type} {Means : Tree → α → Prop} {blank a : α} {name : Text}
    {pairs : List (Option Text × Tree)} {tree : Tree} (h : Tree.Field Means blank name pairs a)
    (hdistinct : (pairs.map Prod.fst).Nodup) (hmem : (some name, tree) ∈ pairs) : Means tree a := by
  cases h with
  | absent habsent => exact absurd (List.mem_map_of_mem hmem) habsent
  | written hwritten hmeans =>
      obtain ⟨-, rfl⟩ := Prod.mk.inj (List.inj_on_of_nodup_map hdistinct hmem hwritten rfl)
      exact hmeans

namespace Decoder

variable {α β : Type} {value : Decoder α} {Means : Tree → α → Prop} {path : FieldPath}

theorem Exact.bind_eq_ok (h : value.Exact Means) {node : Node} {tree : Tree}
    (hnode : node.Mirrors tree) {f : α → Decoded β} {r : β × List FieldPath} :
    (value path node >>= f) = Except.ok r ↔ ∃ a, Means tree a ∧ f a = Except.ok r := by
  obtain ⟨b, ignored⟩ := r
  rw [Decoded.bind_eq_ok]
  constructor
  · intro hok
    obtain ⟨a, first, second, hfirst, hsecond, rfl⟩ := hok
    obtain ⟨a', hmeans, heq⟩ := (h.eq_ok hnode).mp hfirst
    obtain ⟨rfl, rfl⟩ := Prod.mk.inj heq
    exact ⟨a, hmeans, hsecond⟩
  · intro hsome
    obtain ⟨a, hmeans, hsecond⟩ := hsome
    exact ⟨a, [], ignored, (h.eq_ok hnode).mpr ⟨a, hmeans, rfl⟩, hsecond, rfl⟩

theorem key_bind_eq_ok {k : Key} {name : Option Text} (hk : k.Names name) {f : Text → Decoded β}
    {r : β × List FieldPath} :
    (Decoder.key k >>= f) = Except.ok r ↔ ∃ t, name = some t ∧ f t = Except.ok r := by
  cases hk with
  | readable t after =>
      rw [Decoder.key, Decoded.pure_bind]
      simp only [Option.some.injEq, exists_eq_left']
  | unreadable fault after =>
      constructor
      · intro hok
        cases hok
      · intro hsome
        obtain ⟨t, hname, -⟩ := hsome
        cases hname

theorem exact_text : Decoder.text.Exact fun tree t => tree = .text (some t) where
  eq_ok {path node tree} hnode {r} := by
    cases hnode with
    | text t after =>
        constructor
        · intro hok
          cases hok
          exact ⟨t, rfl, rfl⟩
        · intro hsome
          obtain ⟨_, htree, rfl⟩ := hsome
          cases htree
          rfl
    | _ =>
        constructor
        · intro hok
          cases hok
        · intro hsome
          obtain ⟨_, htree, -⟩ := hsome
          cases htree

theorem Exact.optional (h : value.Exact Means) (hnull : ∀ a, ¬Means .null a) :
    (Decoder.optional value).Exact (Tree.OrNull Means) where
  eq_ok {path node tree} hnode {r} := by
    by_cases htree : tree = .null
    · subst htree
      cases hnode
      constructor
      · intro hok
        cases hok
        exact ⟨none, .null, rfl⟩
      · intro hsome
        obtain ⟨a, hmeans, rfl⟩ := hsome
        cases hmeans with
        | null => rfl
        | value hmeans => exact absurd hmeans (hnull _)
    · rw [optional_of_mirrors hnode htree, h.bind_eq_ok hnode]
      constructor
      · intro hsome
        obtain ⟨a, hmeans, hok⟩ := hsome
        exact ⟨some a, .value hmeans, (Except.ok.inj hok).symm⟩
      · intro hsome
        obtain ⟨a, hmeans, rfl⟩ := hsome
        cases hmeans with
        | null => exact absurd rfl htree
        | value hmeans => exact ⟨_, hmeans, rfl⟩

/-! ## Lists and tables of values -/

theorem Exact.items_eq_ok (h : value.Exact Means) {i : Nat} {items : Items} {trees : List Tree}
    (hitems : items.Mirrors trees) {r : List α × List FieldPath} :
    Decoder.items value path i items = Except.ok r ↔
      ∃ as, List.Forall₂ Means trees as ∧ r = (as, []) := by
  induction trees generalizing i items r with
  | nil =>
      cases hitems
      simp only [List.forall₂_nil_left_iff, exists_eq_left]
      exact ⟨fun hok => (Except.ok.inj hok).symm, fun heq => congrArg _ heq.symm⟩
  | cons tree trees ih =>
      obtain _ | ⟨hnode, hrest, -⟩ := hitems
      rw [Decoder.items, h.bind_eq_ok hnode]
      obtain ⟨as, ignored⟩ := r
      simp only [Decoded.map_eq_ok, ih hrest, List.forall₂_cons_left_iff]
      constructor
      · intro hsome
        obtain ⟨a, hmeans, as', ⟨_, hothers, heq⟩, rfl⟩ := hsome
        obtain ⟨rfl, rfl⟩ := Prod.mk.inj heq
        exact ⟨_, ⟨a, as', hmeans, hothers, rfl⟩, rfl⟩
      · intro hsome
        obtain ⟨_, ⟨a, as', hmeans, hothers, rfl⟩, heq⟩ := hsome
        obtain ⟨rfl, rfl⟩ := Prod.mk.inj heq
        exact ⟨a, hmeans, as', ⟨as', hothers, rfl⟩, rfl⟩

theorem Exact.list (h : value.Exact Means) : (Decoder.list value).Exact fun tree as =>
    ∃ trees, tree = .list trees ∧ List.Forall₂ Means trees as where
  eq_ok {path node tree} hnode {r} := by
    cases hnode with
    | list opening inside =>
        rw [Decoder.list, h.items_eq_ok inside]
        simp only [Tree.list.injEq, exists_eq_left']
    | _ =>
        constructor
        · intro hok
          cases hok
        · intro hsome
          obtain ⟨_, ⟨_, htree, -⟩, -⟩ := hsome
          cases htree

theorem Exact.members_eq_ok (h : value.Exact Means) {members : Members}
    {pairs : List (Option Text × Tree)} (hmembers : members.Mirrors pairs)
    {r : List (Text × α) × List FieldPath} :
    Decoder.members value path members = Except.ok r ↔
      ∃ entries, List.Forall₂ (fun pair entry => pair.1 = some entry.1 ∧ Means pair.2 entry.2)
        pairs entries ∧ r = (entries, []) := by
  induction pairs generalizing members r with
  | nil =>
      cases hmembers
      simp only [List.forall₂_nil_left_iff, exists_eq_left]
      exact ⟨fun hok => (Except.ok.inj hok).symm, fun heq => congrArg _ heq.symm⟩
  | cons pair pairs ih =>
      obtain _ | ⟨hkey, hnode, hrest⟩ := hmembers
      rw [Decoder.members, key_bind_eq_ok hkey]
      obtain ⟨entries, ignored⟩ := r
      simp only [h.bind_eq_ok hnode, Decoded.map_eq_ok, ih hrest, List.forall₂_cons_left_iff]
      constructor
      · intro hsome
        obtain ⟨name, hname, a, hmeans, entries', ⟨_, hothers, heq⟩, rfl⟩ := hsome
        obtain ⟨rfl, rfl⟩ := Prod.mk.inj heq
        exact ⟨_, ⟨(name, a), entries', ⟨hname, hmeans⟩, hothers, rfl⟩, rfl⟩
      · intro hsome
        obtain ⟨_, ⟨⟨name, a⟩, entries', ⟨hname, hmeans⟩, hothers, rfl⟩, heq⟩ := hsome
        obtain ⟨rfl, rfl⟩ := Prod.mk.inj heq
        exact ⟨name, hname, a, hmeans, entries', ⟨entries', hothers, rfl⟩, rfl⟩

theorem Exact.entries (h : value.Exact Means) : (Decoder.entries value).Exact fun tree entries =>
    ∃ pairs, tree = .table pairs ∧
      List.Forall₂ (fun pair entry => pair.1 = some entry.1 ∧ Means pair.2 entry.2) pairs entries where
  eq_ok {path node tree} hnode {r} := by
    cases hnode with
    | table opening inside =>
        rw [Decoder.entries, h.members_eq_ok inside]
        simp only [Tree.table.injEq, exists_eq_left']
    | _ =>
        constructor
        · intro hok
          cases hok
        · intro hsome
          obtain ⟨_, ⟨_, htree, -⟩, -⟩ := hsome
          cases htree

end Decoder

/-! ## Records without unknown members -/

theorem Members.Mirrors.has {members : Members} {pairs : List (Option Text × Tree)}
    (h : members.Mirrors pairs) {name : Text} {tree : Tree} (hmem : (some name, tree) ∈ pairs) :
    ∃ node, members.Has name node ∧ node.Mirrors tree := by
  induction pairs generalizing members with
  | nil => cases hmem
  | cons pair pairs ih =>
      obtain _ | ⟨hkey, hnode, hrest⟩ := h
      cases hmem with
      | head =>
          cases hkey
          exact ⟨_, .here, hnode⟩
      | tail _ hmem =>
          obtain ⟨node, hhas, hmirrors⟩ := ih hrest hmem
          exact ⟨node, .later hhas, hmirrors⟩

/-- The field takes in whatever mirrors the tree, and passes nothing over. -/
def Slot.Admits {ρ : Type} (slot : Slot ρ) (tree : Tree) : Prop :=
  ∀ path node, node.Mirrors tree → ∃ set, slot.read path node = Except.ok (set, [])

theorem Slot.admits_of {ρ α : Type} {name : String} {value : Decoder α} {set : α → ρ → ρ}
    {Means : Tree → α → Prop} (h : value.Exact Means) {tree : Tree} {a : α} (hmeans : Means tree a) :
    (Slot.of name value set).Admits tree := by
  intro path node hnode
  exact ⟨set a, (h.bind_eq_ok hnode).mpr ⟨a, hmeans, rfl⟩⟩

namespace Shape

variable {ρ α : Type} {shape : Shape ρ} {name : Text} {value : Decoder α} {get : ρ → α}
  {path : FieldPath} {seen : List Text} {record result : ρ} {members : Members}
  {pairs : List (Option Text × Tree)} {ignored : List FieldPath}

/-- What no member has the name of is left as it was. -/
theorem ofMembers_absent (h : shape.Holds name value get) (hmembers : members.Mirrors pairs)
    (habsent : some name ∉ pairs.map Prod.fst)
    (hok : shape.ofMembers path seen record members = Except.ok (result, ignored)) :
    get result = get record := by
  induction pairs generalizing seen record members ignored with
  | nil =>
      cases hmembers
      obtain ⟨rfl, -⟩ := Prod.mk.inj (Except.ok.inj hok)
      rfl
  | cons pair pairs ih =>
      obtain _ | ⟨hkey, hnode, hrest⟩ := hmembers
      obtain ⟨hne, hothers⟩ := List.ne_and_not_mem_of_not_mem_cons habsent
      obtain ⟨other, more, hname, ⟨-, -, -, hmore, -⟩ |
        ⟨slot, set, first, hfield, -, hread, hmore, -⟩⟩ := ofMembers_member_eq_ok.mp hok
      · exact ih hrest hothers hmore
      · obtain rfl := Decoder.name_of_key hkey hname
        obtain ⟨hmem, hslot⟩ := mem_of_field? hfield
        have hother : slot.name ≠ name := by
          intro heq
          exact hne (congrArg some (heq.symm.trans hslot))
        rw [ih hrest hothers hmore, h.keeps slot hmem hother _ _ _ _ hread]

/-- A field of a record is what the members mean as it. -/
theorem Holds.field_iff (h : shape.Holds name value get) {Means : Tree → α → Prop}
    (hvalue : value.Exact Means) (hmembers : members.Mirrors pairs)
    (hok : shape.ofMembers path seen record members = Except.ok (result, ignored)) {a : α} :
    Tree.Field Means (get record) name pairs a ↔ get result = a := by
  constructor
  · intro hfield
    cases hfield with
    | absent habsent => exact ofMembers_absent h hmembers habsent hok
    | written hmem hmeans =>
        obtain ⟨node, hhas, hnode⟩ := hmembers.has hmem
        obtain ⟨listed, htaken, -⟩ := ofMembers_has h hok hhas
        exact congrArg Prod.fst
          (Except.ok.inj (htaken.symm.trans ((hvalue.eq_ok hnode).mpr ⟨a, hmeans, rfl⟩)))
  · intro heq
    subst heq
    by_cases hwritten : some name ∈ pairs.map Prod.fst
    · obtain ⟨⟨_, tree⟩, hmem, rfl⟩ := List.mem_map.mp hwritten
      obtain ⟨node, hhas, hnode⟩ := hmembers.has hmem
      obtain ⟨listed, htaken, -⟩ := ofMembers_has h hok hhas
      obtain ⟨a, hmeans, heq⟩ := (hvalue.eq_ok hnode).mp htaken
      obtain ⟨rfl, -⟩ := Prod.mk.inj heq
      exact .written hmem hmeans
    · rw [ofMembers_absent h hmembers hwritten hok]
      exact .absent hwritten

/-- A record that refuses unknown members has fields only, and none of them twice. -/
theorem ofMembers_names (hstrict : shape.strict = true) (hmembers : members.Mirrors pairs)
    (hok : shape.ofMembers path seen record members = Except.ok (result, ignored)) :
    (pairs.map Prod.fst).Nodup ∧ ∀ key ∈ pairs.map Prod.fst,
      ∃ name ∈ shape.fields.map Slot.name, key = some name ∧ name ∉ seen := by
  induction pairs generalizing seen record members ignored with
  | nil => exact ⟨.nil, List.forall_mem_nil _⟩
  | cons pair pairs ih =>
      obtain _ | ⟨hkey, hnode, hrest⟩ := hmembers
      obtain ⟨name, more, hname, ⟨-, hloose, -⟩ |
        ⟨slot, set, first, hfield, hfresh, -, hmore, -⟩⟩ := ofMembers_member_eq_ok.mp hok
      · exact absurd (hstrict.symm.trans hloose) (by decide)
      · obtain rfl := Decoder.name_of_key hkey hname
        obtain ⟨hmem, hslot⟩ := mem_of_field? hfield
        obtain ⟨hdistinct, hknown⟩ := ih hrest hmore
        refine ⟨List.nodup_cons.mpr ⟨?_, hdistinct⟩, List.forall_mem_cons.mpr ⟨?_, ?_⟩⟩
        · intro hagain
          obtain ⟨other, -, heq, hnew⟩ := hknown _ hagain
          exact hnew (Option.some.inj heq ▸ List.mem_cons_self)
        · exact ⟨name, hslot ▸ List.mem_map_of_mem hmem, rfl, hfresh⟩
        · intro key hmem
          obtain ⟨other, hother, heq, hnew⟩ := hknown key hmem
          exact ⟨other, hother, heq, fun hseen => hnew (List.mem_cons_of_mem _ hseen)⟩

/-- Fields of different names are taken in when each of them is. -/
theorem exists_ofMembers_eq_ok (hmembers : members.Mirrors pairs)
    (hdistinct : (pairs.map Prod.fst).Nodup)
    (hadmits : ∀ pair ∈ pairs, ∃ name slot, pair.1 = some name ∧ name ∉ seen ∧
      shape.field? name = some slot ∧ slot.Admits pair.2) :
    ∃ result, shape.ofMembers path seen record members = Except.ok (result, []) := by
  induction pairs generalizing seen record members with
  | nil =>
      cases hmembers
      exact ⟨record, rfl⟩
  | cons pair pairs ih =>
      obtain _ | ⟨hkey, hnode, hrest⟩ := hmembers
      obtain ⟨hnew, hothers⟩ := List.nodup_cons.mp hdistinct
      obtain ⟨⟨name, slot, rfl, hfresh, hfield, hslot⟩, hmore⟩ := List.forall_mem_cons.mp hadmits
      obtain ⟨set, hread⟩ := hslot (path.push (FieldPath.keyStep name)) _ hnode
      have hbehind : ∀ pair ∈ pairs, ∃ other slot, pair.1 = some other ∧ other ∉ name :: seen ∧
          shape.field? other = some slot ∧ slot.Admits pair.2 := by
        intro pair hmem
        obtain ⟨other, slot, hother, hunseen, hslot⟩ := hmore pair hmem
        refine ⟨other, slot, hother, List.not_mem_cons_of_ne_of_not_mem ?_ hunseen, hslot⟩
        rintro rfl
        exact hnew (List.mem_map.mpr ⟨pair, hmem, hother⟩)
      obtain ⟨result, hok⟩ := @ih (name :: seen) (set record) _ hrest hothers hbehind
      exact ⟨result, ofMembers_member_eq_ok.mpr ⟨name, [], Decoder.key_of_name hkey,
        .inr ⟨slot, set, [], hfield, hfresh, hread, hok, rfl⟩⟩⟩

end Shape

/-! ## Another value in a member -/

/-- The members with others in front of them. -/
def Members.behind : List (Key × Node) → Members → Members
  | [], rest => rest
  | (key, node) :: front, rest => .member key node (rest.behind front)

/-- Another value may stand where one member does. -/
theorem Members.Mirrors.exists_behind {members : Members} (front : List (Option Text × Tree))
    {name : Option Text} {tree : Tree} {back : List (Option Text × Tree)}
    (h : members.Mirrors (front ++ (name, tree) :: back)) :
    ∃ (before : List (Key × Node)) (key : Key) (node : Node) (rest : Members),
      members = (Members.member key node rest).behind before ∧ key.Names name ∧ node.Mirrors tree ∧
        ∀ {node' : Node} {tree' : Tree}, node'.Mirrors tree' →
          ((Members.member key node' rest).behind before).Mirrors
            (front ++ (name, tree') :: back) := by
  induction front generalizing members with
  | nil =>
      obtain _ | ⟨hkey, hnode, hrest⟩ := h
      exact ⟨[], _, _, _, rfl, hkey, hnode, fun hnode' => .member hkey hnode' hrest⟩
  | cons pair front ih =>
      obtain _ | ⟨hkey, hnode, hrest⟩ := h
      obtain ⟨before, key, node, rest, rfl, hname, hfound, hmirrors⟩ := ih hrest
      exact ⟨(_, _) :: before, key, node, rest, rfl, hname, hfound,
        fun hnode' => .member hkey hnode (hmirrors hnode')⟩

theorem Members.has_behind {key : Key} {name : Text} {node : Node} {rest : Members}
    (hkey : key.Names (some name)) (front : List (Key × Node)) :
    ((Members.member key node rest).behind front).Has name node := by
  induction front with
  | nil =>
      cases hkey
      exact .here
  | cons member front ih => exact .later ih

/-- What the field does to a record does not depend on the update. -/
def Slot.Passes {ρ : Type} (slot : Slot ρ) (update : ρ → ρ) : Prop :=
  ∀ path node set listed, slot.read path node = Except.ok (set, listed) →
    ∀ record, set (update record) = update (set record)

theorem Slot.passes_of {ρ α : Type} {name : String} {value : Decoder α} {set : α → ρ → ρ}
    {update : ρ → ρ} (h : ∀ a record, set a (update record) = update (set a record)) :
    (Slot.of name value set).Passes update := by
  intro path node f listed hread
  obtain ⟨a, -, rfl⟩ := Decoded.map_eq_ok.mp hread
  exact h a

namespace Shape

variable {ρ : Type} {shape : Shape ρ} {name : Text} {update : ρ → ρ} {path : FieldPath}

/-- Behind the member of a field, an update of that field goes through to the end. -/
theorem ofMembers_update (hpasses : ∀ slot ∈ shape.fields, slot.name ≠ name → slot.Passes update)
    {seen : List Text} {record result : ρ} {members : Members} {ignored : List FieldPath}
    (hseen : name ∈ seen)
    (hok : shape.ofMembers path seen record members = Except.ok (result, ignored)) :
    shape.ofMembers path seen (update record) members = Except.ok (update result, ignored) := by
  match members with
  | .close _ =>
      obtain ⟨rfl, rfl⟩ := Prod.mk.inj (Except.ok.inj hok)
      rfl
  | .cut _ _ => cases hok
  | .member k node rest =>
      obtain ⟨other, more, hkey, ⟨hfield, hloose, hpass, hmore, rfl⟩ |
        ⟨slot, set, first, hfield, hfresh, hread, hmore, rfl⟩⟩ := ofMembers_member_eq_ok.mp hok
      · exact ofMembers_member_eq_ok.mpr ⟨other, more, hkey,
          .inl ⟨hfield, hloose, hpass, ofMembers_update hpasses hseen hmore, rfl⟩⟩
      · obtain ⟨hmem, rfl⟩ := mem_of_field? hfield
        have hother : slot.name ≠ name := fun heq => hfresh (heq ▸ hseen)
        have hbehind := ofMembers_update hpasses (List.mem_cons_of_mem slot.name hseen) hmore
        rw [← hpasses slot hmem hother _ _ _ _ hread] at hbehind
        exact ofMembers_member_eq_ok.mpr ⟨_, more, hkey,
          .inr ⟨slot, set, first, hfield, hfresh, hread, hbehind, rfl⟩⟩

/-- With another value in the member of a field, the record differs by the update of the field. -/
theorem ofMembers_replace
    (hpasses : ∀ slot ∈ shape.fields, slot.name ≠ name → slot.Passes update)
    {slot : Slot ρ} (hfield : shape.field? name = some slot) {set set' : ρ → ρ} {node node' : Node}
    (hread : slot.read (path.push (FieldPath.keyStep name)) node = Except.ok (set, []))
    (hread' : slot.read (path.push (FieldPath.keyStep name)) node' = Except.ok (set', []))
    (hset : ∀ record, set' record = update (set record)) {key : Key} (hkey : key.Names (some name))
    {rest : Members} (front : List (Key × Node)) {seen : List Text} {record result : ρ}
    {ignored : List FieldPath}
    (hok : shape.ofMembers path seen record ((Members.member key node rest).behind front) =
      Except.ok (result, ignored)) :
    shape.ofMembers path seen record ((Members.member key node' rest).behind front) =
      Except.ok (update result, ignored) := by
  induction front generalizing seen record ignored with
  | nil =>
      obtain ⟨other, more, hother, hcases⟩ := ofMembers_member_eq_ok.mp hok
      obtain rfl := Option.some.inj (Decoder.name_of_key hkey hother)
      obtain ⟨hnone, -⟩ | ⟨slot', first, listed, hsome, hfresh, htaken, hmore, rfl⟩ := hcases
      · exact absurd (hnone.symm.trans hfield) nofun
      · obtain rfl := Option.some.inj (hfield.symm.trans hsome)
        obtain ⟨rfl, rfl⟩ := Prod.mk.inj (Except.ok.inj (hread.symm.trans htaken))
        have hbehind := ofMembers_update hpasses List.mem_cons_self hmore
        rw [← hset] at hbehind
        exact ofMembers_member_eq_ok.mpr ⟨_, more, hother,
          .inr ⟨slot, set', [], hfield, hfresh, hread', hbehind, rfl⟩⟩
  | cons member front ih =>
      obtain ⟨other, more, hother, ⟨hnone, hloose, hpass, hmore, rfl⟩ |
        ⟨slot', first, listed, hsome, hfresh, htaken, hmore, rfl⟩⟩ :=
          ofMembers_member_eq_ok.mp hok
      · exact ofMembers_member_eq_ok.mpr ⟨other, more, hother,
          .inl ⟨hnone, hloose, hpass, ih hmore, rfl⟩⟩
      · exact ofMembers_member_eq_ok.mpr ⟨other, more, hother,
          .inr ⟨slot', first, listed, hsome, hfresh, htaken, ih hmore, rfl⟩⟩

end Shape

end Signpost.Document
