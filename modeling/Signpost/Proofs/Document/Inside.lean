import Mathlib.Data.List.Nodup
import Signpost.Proofs.Document.Passing

/-!
# What is taken from inside a value

A decoder takes a value in by taking in the values inside it, each at the path of the value extended
by one step. What it makes of a list, a table or a record shows what it took from inside, and the
paths it lists include those listed inside. An unknown member of a record is listed at its own path.
-/

namespace Signpost.Document

/-! ## Values inside values -/

/-- The element at a position. -/
def Items.get? : Items → Nat → Option Node
  | .item node _ _, 0 => some node
  | .item _ _ rest, i + 1 => rest.get? i
  | _, _ => none

/-- A member has the name and the value. -/
inductive Members.Has : Members → Text → Node → Prop where
  | here {name : Text} {after : Spot} {node : Node} {rest : Members} :
      Members.Has (.member ⟨.ok name, after⟩ node rest) name node
  | later {key : Key} {name : Text} {other node : Node} {rest : Members}
      (h : Members.Has rest name node) : Members.Has (.member key other rest) name node

/-- The value of a field of a record and the step that leads to it: the name in a table, and the
position of the field in a list. -/
inductive Shape.FieldIn {ρ : Type} (shape : Shape ρ) (name : Text) : Node → Step → Node → Prop where
  | named {opening : Spot} {members : Members} {node : Node} (h : members.Has name node) :
      FieldIn shape name (.table opening members) (FieldPath.keyStep name) node
  | listed {opening : Spot} {items : Items} {i : Nat} {node : Node}
      (hfield : (shape.fields.map Slot.name)[i]? = some name) (h : items.get? i = some node) :
      FieldIn shape name (.list opening items) (.index i) node

theorem Shape.FieldIn.ne_null {ρ : Type} {shape : Shape ρ} {name : Text} {node inner : Node}
    {step : Step} (h : shape.FieldIn name node step inner) (after : Spot) : node ≠ .null after := by
  rintro rfl
  cases h

/-- At the path the decoder takes the found value as `a`, and what it lists is among `ignored`. -/
def Decoder.TakesAt {α : Type} (decoder : Decoder α) (path : FieldPath) (node : Node)
    (ignored : List FieldPath) (a : α) : Prop :=
  ∃ listed, decoder path node = Except.ok (a, listed) ∧ listed ⊆ ignored

namespace Decoder

variable {α : Type} {value : Decoder α} {path : FieldPath}

theorem TakesAt.mono {node : Node} {ignored more : List FieldPath} {a : α}
    (h : value.TakesAt path node ignored a) (hsub : ignored ⊆ more) :
    value.TakesAt path node more a := by
  obtain ⟨listed, hok, hlisted⟩ := h
  exact ⟨listed, hok, List.Subset.trans hlisted hsub⟩

/-- Only null is taken as nothing. -/
theorem TakesAt.of_optional {node : Node} {ignored : List FieldPath} {a : Option α}
    (hnull : ∀ after, node ≠ .null after)
    (h : (Decoder.optional value).TakesAt path node ignored a) :
    ∃ b, a = some b ∧ value.TakesAt path node ignored b := by
  obtain ⟨listed, hok, hlisted⟩ := h
  have hmap : (value path node >>= fun b => pure (some b)) = Except.ok (a, listed) := by
    cases node with
    | null after => exact absurd rfl (hnull after)
    | _ => exact hok
  obtain ⟨b, hvalue, rfl⟩ := Decoded.map_eq_ok.mp hmap
  exact ⟨b, rfl, listed, hvalue, hlisted⟩

/-! ## Lists and tables of values -/

theorem items_get? {i j : Nat} {items : Items} {as : List α} {node : Node}
    {ignored : List FieldPath}
    (hok : Decoder.items value path i items = Except.ok (as, ignored))
    (hj : items.get? j = some node) :
    ∃ a, as[j]? = some a ∧ value.TakesAt (path.push (.index (i + j))) node ignored a := by
  match items with
  | .close _ => cases hj
  | .cut _ _ => cases hok
  | .item first _ rest =>
      rw [Decoder.items] at hok
      obtain ⟨a, listed, more, hfirst, hmore, rfl⟩ := Decoded.bind_eq_ok.mp hok
      obtain ⟨as, hothers, rfl⟩ := Decoded.map_eq_ok.mp hmore
      cases j with
      | zero =>
          obtain rfl := Option.some.inj hj
          exact ⟨a, rfl, listed, hfirst, List.subset_append_left _ _⟩
      | succ j =>
          obtain ⟨b, hb, htaken⟩ := items_get? hothers hj
          rw [Nat.add_assoc, Nat.add_comm 1] at htaken
          exact ⟨b, hb, htaken.mono (List.subset_append_right _ _)⟩

/-- The elements of a list are taken in one by one, each at its position. -/
theorem TakesAt.element {opening : Spot} {items : Items} {as : List α} {i : Nat} {node : Node}
    {ignored : List FieldPath}
    (h : (Decoder.list value).TakesAt path (.list opening items) ignored as)
    (hi : items.get? i = some node) :
    ∃ a, as[i]? = some a ∧ value.TakesAt (path.push (.index i)) node ignored a := by
  obtain ⟨listed, hok, hlisted⟩ := h
  obtain ⟨a, ha, htaken⟩ := items_get? hok hi
  rw [Nat.zero_add] at htaken
  exact ⟨a, ha, htaken.mono hlisted⟩

theorem members_has {members : Members} {entries : List (Text × α)} {name : Text} {node : Node}
    {ignored : List FieldPath}
    (hok : Decoder.members value path members = Except.ok (entries, ignored))
    (hmember : members.Has name node) :
    ∃ a, (name, a) ∈ entries ∧
      value.TakesAt (path.push (FieldPath.keyStep name)) node ignored a := by
  induction hmember generalizing entries ignored with
  | here =>
      rw [Decoder.members] at hok
      obtain ⟨_, _, more, hkey, hmore, rfl⟩ := Decoded.bind_eq_ok.mp hok
      obtain ⟨rfl, rfl⟩ := Prod.mk.inj (Except.ok.inj hkey)
      obtain ⟨a, listed, others, hfirst, hothers, rfl⟩ := Decoded.bind_eq_ok.mp hmore
      obtain ⟨as, -, rfl⟩ := Decoded.map_eq_ok.mp hothers
      exact ⟨a, List.mem_cons_self, listed, hfirst, List.subset_append_left _ _⟩
  | later _ ih =>
      rw [Decoder.members] at hok
      obtain ⟨_, _, more, -, hmore, rfl⟩ := Decoded.bind_eq_ok.mp hok
      obtain ⟨_, _, others, -, hlast, rfl⟩ := Decoded.bind_eq_ok.mp hmore
      obtain ⟨as, hothers, rfl⟩ := Decoded.map_eq_ok.mp hlast
      obtain ⟨a, ha, htaken⟩ := ih hothers
      refine ⟨a, List.mem_cons_of_mem _ ha, htaken.mono ?_⟩
      exact List.Subset.trans (List.subset_append_right _ _) (List.subset_append_right _ _)

/-- The members of a table are taken in one by one, each at its key. -/
theorem TakesAt.member {opening : Spot} {members : Members} {entries : List (Text × α)}
    {name : Text} {node : Node} {ignored : List FieldPath}
    (h : (Decoder.entries value).TakesAt path (.table opening members) ignored entries)
    (hmember : members.Has name node) :
    ∃ a, (name, a) ∈ entries ∧
      value.TakesAt (path.push (FieldPath.keyStep name)) node ignored a := by
  obtain ⟨listed, hok, hlisted⟩ := h
  obtain ⟨a, ha, htaken⟩ := members_has hok hmember
  exact ⟨a, ha, htaken.mono hlisted⟩

end Decoder

/-! ## Records -/

namespace Slot

variable {ρ α : Type}

/-- The field makes what `get` shows of a record what the decoder takes in. -/
def Sets (slot : Slot ρ) (value : Decoder α) (get : ρ → α) : Prop :=
  ∀ path node set listed, slot.read path node = Except.ok (set, listed) →
    ∃ a, value path node = Except.ok (a, listed) ∧ ∀ record, get (set record) = a

/-- The field leaves what `get` shows of a record. -/
def Keeps (slot : Slot ρ) (get : ρ → α) : Prop :=
  ∀ path node set listed, slot.read path node = Except.ok (set, listed) →
    ∀ record, get (set record) = get record

theorem sets_of {name : String} {value : Decoder α} {set : α → ρ → ρ} {get : ρ → α}
    (h : ∀ a record, get (set a record) = a) : (Slot.of name value set).Sets value get := by
  intro path node f listed hread
  obtain ⟨a, hvalue, rfl⟩ := Decoded.map_eq_ok.mp hread
  exact ⟨a, hvalue, h a⟩

theorem keeps_of {β : Type} {name : String} {value : Decoder β} {set : β → ρ → ρ} {get : ρ → α}
    (h : ∀ b record, get (set b record) = get record) : (Slot.of name value set).Keeps get := by
  intro path node f listed hread
  obtain ⟨b, -, rfl⟩ := Decoded.map_eq_ok.mp hread
  exact h b

end Slot

namespace Shape

variable {ρ α : Type} {shape : Shape ρ} {name : Text} {value : Decoder α} {get : ρ → α}
  {path : FieldPath}

/-- What `get` shows of a record is what the decoder takes in as the field with the name. -/
structure Holds (shape : Shape ρ) (name : Text) (value : Decoder α) (get : ρ → α) : Prop where
  distinct : (shape.fields.map Slot.name).Nodup
  sets : ∃ slot ∈ shape.fields, slot.name = name ∧ slot.Sets value get
  keeps : ∀ slot ∈ shape.fields, slot.name ≠ name → slot.Keeps get

/-- One field sets what `get` shows, and those in front of it and behind it do not. -/
theorem holds_of (front back : List (Slot ρ)) {slot : Slot ρ}
    (hdistinct : (shape.fields.map Slot.name).Nodup)
    (hfields : shape.fields = front ++ slot :: back) (hname : slot.name = name)
    (hsets : slot.Sets value get) (hkeeps : ∀ other ∈ front ++ back, other.Keeps get) :
    shape.Holds name value get where
  distinct := hdistinct
  sets := ⟨slot, hfields ▸ List.mem_append_right _ List.mem_cons_self, hname, hsets⟩
  keeps other hmem hne := by
    rw [hfields, List.mem_append, List.mem_cons] at hmem
    refine hkeeps other (List.mem_append.mpr (hmem.imp_right (Or.resolve_left · ?_)))
    rintro rfl
    exact hne hname

theorem Holds.sets_of_name (h : shape.Holds name value get) {slot : Slot ρ}
    (hmem : slot ∈ shape.fields) (hname : slot.name = name) : slot.Sets value get := by
  obtain ⟨other, hother, rfl, hsets⟩ := h.sets
  exact List.inj_on_of_nodup_map h.distinct hmem hother hname ▸ hsets

theorem Holds.field?_ne_none (h : shape.Holds name value get) : shape.field? name ≠ none := by
  obtain ⟨slot, hmem, hname, -⟩ := h.sets
  intro hnone
  exact List.find?_eq_none.mp hnone slot hmem (beq_iff_eq.mpr hname)

/-- A field that was met is not set again. -/
theorem ofMembers_keeps (h : shape.Holds name value get) {seen : List Text} {record result : ρ}
    {ignored : List FieldPath} {members : Members} (hseen : name ∈ seen)
    (hok : shape.ofMembers path seen record members = Except.ok (result, ignored)) :
    get result = get record := by
  match members with
  | .close _ =>
      obtain ⟨rfl, -⟩ := Prod.mk.inj (Except.ok.inj hok)
      rfl
  | .cut _ _ => cases hok
  | .member k node rest =>
      obtain ⟨other, more, -, ⟨-, -, -, hrest, -⟩ |
        ⟨slot, set, first, hfield, hfresh, hread, hrest, -⟩⟩ := ofMembers_member_eq_ok.mp hok
      · exact ofMembers_keeps h hseen hrest
      · obtain ⟨hmem, rfl⟩ := mem_of_field? hfield
        have hne : slot.name ≠ name := fun heq => hfresh (heq ▸ hseen)
        rw [ofMembers_keeps h (List.mem_cons_of_mem _ hseen) hrest]
        exact h.keeps slot hmem hne _ _ _ _ hread record

theorem ofMembers_has (h : shape.Holds name value get) {seen : List Text} {record result : ρ}
    {ignored : List FieldPath} {members : Members} {node : Node}
    (hok : shape.ofMembers path seen record members = Except.ok (result, ignored))
    (hmember : members.Has name node) :
    value.TakesAt (path.push (FieldPath.keyStep name)) node ignored (get result) := by
  induction hmember generalizing seen record ignored with
  | here =>
      obtain ⟨other, more, hkey, hcases⟩ := ofMembers_member_eq_ok.mp hok
      obtain ⟨rfl, -⟩ := Prod.mk.inj (Except.ok.inj hkey)
      obtain ⟨hfield, -⟩ | ⟨slot, set, first, hfield, -, hread, hrest, rfl⟩ := hcases
      · exact absurd hfield h.field?_ne_none
      · obtain ⟨hmem, hname⟩ := mem_of_field? hfield
        obtain ⟨a, hvalue, hset⟩ := h.sets_of_name hmem hname _ _ _ _ hread
        rw [ofMembers_keeps h List.mem_cons_self hrest, hset]
        exact ⟨first, hvalue, List.subset_append_left _ _⟩
  | later _ ih =>
      obtain ⟨other, more, -, ⟨-, -, -, hrest, rfl⟩ |
        ⟨slot, set, first, -, -, -, hrest, rfl⟩⟩ := ofMembers_member_eq_ok.mp hok
      · exact (ih h hrest).mono (List.subset_cons_self _ _)
      · exact (ih h hrest).mono (List.subset_append_right _ _)

theorem ofItems_keeps {slots : List (Slot ρ)} (hkeeps : ∀ slot ∈ slots, slot.Keeps get) {i : Nat}
    {surplus : Option Fault} {record result : ρ} {items : Items} {ignored : List FieldPath}
    (hok : ofItems path slots i surplus record items = Except.ok (result, ignored)) :
    get result = get record := by
  match slots, surplus, items with
  | [], some fault, .cut _ _ => cases hok
  | [], some fault, .item _ _ _ => cases hok
  | _ :: _, _, .cut _ _ => cases hok
  | [], none, .close _ | [], none, .cut _ _ | [], none, .item _ _ _ | [], some _, .close _
  | _ :: _, _, .close _ =>
      obtain ⟨rfl, -⟩ := Prod.mk.inj (Except.ok.inj hok)
      rfl
  | slot :: slots, _, .item node follow rest =>
      rw [ofItems] at hok
      obtain ⟨set, _, _, hread, hrest, -⟩ := Decoded.bind_eq_ok.mp hok
      obtain ⟨hslot, hslots⟩ := List.forall_mem_cons.mp hkeeps
      rw [ofItems_keeps hslots hrest]
      exact hslot _ _ _ _ hread record

theorem ofItems_get? {slots : List (Slot ρ)} (hdistinct : (slots.map Slot.name).Nodup)
    (hsets : ∀ slot ∈ slots, slot.name = name → slot.Sets value get)
    (hkeeps : ∀ slot ∈ slots, slot.name ≠ name → slot.Keeps get) {i j : Nat}
    {surplus : Option Fault} {record result : ρ} {items : Items} {node : Node}
    {ignored : List FieldPath}
    (hok : ofItems path slots i surplus record items = Except.ok (result, ignored))
    (hfield : (slots.map Slot.name)[j]? = some name) (hj : items.get? j = some node) :
    value.TakesAt (path.push (.index (i + j))) node ignored (get result) := by
  match slots, items with
  | [], _ => cases hfield
  | _ :: _, .close _ => cases hj
  | _ :: _, .cut _ _ => cases hok
  | slot :: slots, .item first follow rest =>
      rw [ofItems] at hok
      obtain ⟨set, listed, more, hread, hrest, rfl⟩ := Decoded.bind_eq_ok.mp hok
      obtain ⟨hsets, hsets'⟩ := List.forall_mem_cons.mp hsets
      obtain ⟨-, hkeeps'⟩ := List.forall_mem_cons.mp hkeeps
      obtain ⟨hnew, hdistinct'⟩ := List.nodup_cons.mp hdistinct
      cases j with
      | zero =>
          obtain rfl := Option.some.inj hfield
          obtain rfl := Option.some.inj hj
          obtain ⟨a, hvalue, hset⟩ := hsets rfl _ _ _ _ hread
          -- the fields behind have other names
          have hbehind : ∀ other ∈ slots, other.Keeps get := fun other hmem =>
            hkeeps' other hmem fun heq => hnew (heq ▸ List.mem_map_of_mem hmem)
          rw [ofItems_keeps hbehind hrest, hset]
          exact ⟨listed, hvalue, List.subset_append_left _ _⟩
      | succ j =>
          have htaken := ofItems_get? hdistinct' hsets' hkeeps' hrest hfield hj
          rw [Nat.add_assoc, Nat.add_comm 1] at htaken
          exact htaken.mono (List.subset_append_right _ _)

/-- The field of a record is what was taken in from its value. -/
theorem Holds.takesAt (h : shape.Holds name value get) {node inner : Node} {step : Step}
    {ignored : List FieldPath} {record : ρ}
    (htaken : shape.decode.TakesAt path node ignored record)
    (hfield : shape.FieldIn name node step inner) :
    value.TakesAt (path.push step) inner ignored (get record) := by
  obtain ⟨listed, hok, hlisted⟩ := htaken
  cases hfield with
  | named hmember => exact (ofMembers_has h hok hmember).mono hlisted
  | listed hname hget =>
      have htaken := ofItems_get? h.distinct (fun _ => h.sets_of_name) h.keeps hok hname hget
      rw [Nat.zero_add] at htaken
      exact htaken.mono hlisted

/-- A field that is not null is there. -/
theorem Holds.some_takesAt {get : ρ → Option α} (h : shape.Holds name (Decoder.optional value) get)
    {node inner : Node} {step : Step} {ignored : List FieldPath} {record : ρ}
    (htaken : shape.decode.TakesAt path node ignored record)
    (hfield : shape.FieldIn name node step inner) (hnull : ∀ after, inner ≠ .null after) :
    ∃ a, get record = some a ∧ value.TakesAt (path.push step) inner ignored a :=
  (h.takesAt htaken hfield).of_optional hnull

theorem ofMembers_unknown {seen : List Text} {record result : ρ} {members : Members} {node : Node}
    {ignored : List FieldPath}
    (hok : shape.ofMembers path seen record members = Except.ok (result, ignored))
    (hmember : members.Has name node) (hunknown : shape.field? name = none) :
    path.push (FieldPath.keyStep name) ∈ ignored := by
  induction hmember generalizing seen record ignored with
  | here =>
      obtain ⟨other, more, hkey, hcases⟩ := ofMembers_member_eq_ok.mp hok
      obtain ⟨rfl, -⟩ := Prod.mk.inj (Except.ok.inj hkey)
      obtain ⟨-, -, -, -, rfl⟩ | ⟨slot, set, first, hfield, -⟩ := hcases
      · exact List.mem_cons_self
      · exact absurd (hunknown.symm.trans hfield) nofun
  | later _ ih =>
      obtain ⟨other, more, -, ⟨-, -, -, hrest, rfl⟩ |
        ⟨slot, set, first, -, -, -, hrest, rfl⟩⟩ := ofMembers_member_eq_ok.mp hok
      · exact List.mem_cons_of_mem _ (ih hrest hunknown)
      · exact List.mem_append_right _ (ih hrest hunknown)

/-- Every unknown member of a table that was taken in as a record is listed. -/
theorem unknown_mem_ignored {opening : Spot} {members : Members} {record : ρ} {node : Node}
    {ignored : List FieldPath}
    (htaken : shape.decode.TakesAt path (.table opening members) ignored record)
    (hmember : members.Has name node) (hunknown : name ∉ shape.fields.map Slot.name) :
    path.push (FieldPath.keyStep name) ∈ ignored := by
  obtain ⟨listed, hok, hlisted⟩ := htaken
  refine hlisted (ofMembers_unknown hok hmember (List.find?_eq_none.mpr fun slot hmem hname => ?_))
  exact hunknown (beq_iff_eq.mp hname ▸ List.mem_map_of_mem hmem)

end Shape

end Signpost.Document
