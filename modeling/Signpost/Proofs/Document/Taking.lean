import Mathlib.Data.List.Pairwise
import Signpost.Document.Decode
import Signpost.Document.Value
import Signpost.Proofs.Document.Trees

/-!
# Taking back what was written

A found value shows a written value when it is that value with places added. A decoder takes a
value as something when it does so from every found value that shows it, and lists nothing as
passed over. How each way to build a decoder takes values is said here once, so a format only has to
prove that what it reads shows what it wrote.

The members of a record may be written in any order, provided that setting two of its fields in
either order gives the same record.
-/

namespace Signpost.Document

theorem Decoded.pure_bind {α β : Type} (a : α) (f : α → Decoded β) : (pure a >>= f) = f a := by
  show Decoded.andThen (Except.ok (a, [])) f = f a
  rw [Decoded.andThen]
  cases h : f a with
  | error failure => rfl
  | ok decoded => rfl

/-- What a decoding that lists nothing hands over. -/
theorem Decoded.bind_pure_eq_pure {α β : Type} {d : Decoded α} {g : α → β} {b : β}
    (h : (d >>= fun a => pure (g a)) = pure b) : ∃ a, g a = b := by
  change Decoded.andThen d (fun a => Except.ok (g a, [])) = Except.ok (b, []) at h
  cases d with
  | error failure => exact nomatch h
  | ok decoded => exact ⟨decoded.1, congrArg Prod.fst (Except.ok.inj h)⟩

/-! ## What a found value shows -/

mutual

/-- The found value is the written one with places added. -/
inductive Node.Shows : Node → Value → Prop where
  | null (after : Spot) : Node.Shows (.null after) .null
  | flag (b : Bool) (after : Spot) : Node.Shows (.flag b after) (.flag b)
  | text (t : Text) (after : Spot) : Node.Shows (.text t after) (.text t)
  | list (opening : Spot) {items : Items} {values : List Value} (inside : Items.Shows items values) :
      Node.Shows (.list opening items) (.list values)
  | table (opening : Spot) {members : Members} {pairs : List (Text × Value)}
      (inside : Members.Shows members pairs) : Node.Shows (.table opening members) (.table pairs)

/-- The found elements are the written ones. -/
inductive Items.Shows : Items → List Value → Prop where
  | close (after : Spot) : Items.Shows (.close after) []
  | item (follow : Follow) {node : Node} {v : Value} {rest : Items} {values : List Value}
      (first : Node.Shows node v) (others : Items.Shows rest values) :
      Items.Shows (.item node follow rest) (v :: values)

/-- The found members are the written ones. -/
inductive Members.Shows : Members → List (Text × Value) → Prop where
  | close (after : Spot) : Members.Shows (.close after) []
  | member (key : Text) (after : Spot) {node : Node} {v : Value} {rest : Members}
      {pairs : List (Text × Value)} (first : Node.Shows node v)
      (others : Members.Shows rest pairs) :
      Members.Shows (.member ⟨.ok key, after⟩ node rest) ((key, v) :: pairs)

end

mutual

/-- Every value is shown by some found value. -/
theorem Value.exists_shows : ∀ v : Value, ∃ node, Node.Shows node v
  | .null => ⟨_, .null .nowhere⟩
  | .flag b => ⟨_, .flag b .nowhere⟩
  | .text t => ⟨_, .text t .nowhere⟩
  | .list values => (Value.exists_shows_items values).imp' _ fun _ h => .list .nowhere h
  | .table pairs => (Value.exists_shows_members pairs).imp' _ fun _ h => .table .nowhere h

theorem Value.exists_shows_items : ∀ values : List Value, ∃ items, Items.Shows items values
  | [] => ⟨_, .close .nowhere⟩
  | v :: values =>
      have ⟨_, first⟩ := Value.exists_shows v
      have ⟨_, others⟩ := Value.exists_shows_items values
      ⟨_, .item ⟨.nowhere, none⟩ first others⟩

theorem Value.exists_shows_members :
    ∀ pairs : List (Text × Value), ∃ members, Members.Shows members pairs
  | [] => ⟨_, .close .nowhere⟩
  | (key, v) :: pairs =>
      have ⟨_, first⟩ := Value.exists_shows v
      have ⟨_, others⟩ := Value.exists_shows_members pairs
      ⟨_, .member key .nowhere first others⟩

end

mutual

/-- A found value shows one written value. -/
theorem Node.Shows.unique {node : Node} {v v' : Value} (h : Node.Shows node v)
    (h' : Node.Shows node v') : v = v' := by
  match h, h' with
  | .null _, .null _ => rfl
  | .flag _ _, .flag _ _ => rfl
  | .text _ _, .text _ _ => rfl
  | .list _ inside, .list _ inside' => rw [inside.unique inside']
  | .table _ inside, .table _ inside' => rw [inside.unique inside']

theorem Items.Shows.unique {items : Items} {values values' : List Value}
    (h : Items.Shows items values) (h' : Items.Shows items values') : values = values' := by
  match h, h' with
  | .close _, .close _ => rfl
  | .item _ first others, .item _ first' others' =>
      rw [first.unique first', others.unique others']

theorem Members.Shows.unique {members : Members} {pairs pairs' : List (Text × Value)}
    (h : Members.Shows members pairs) (h' : Members.Shows members pairs') : pairs = pairs' := by
  match h, h' with
  | .close _, .close _ => rfl
  | .member key _ first others, .member _ _ first' others' =>
      rw [first.unique first', others.unique others']

end

mutual

/-- The tree that a value is written as. -/
def Value.tree : Value → Tree
  | .null => .null
  | .flag b => .flag b
  | .text t => .text (some t)
  | .list values => .list (Value.trees values)
  | .table pairs => .table (Value.namedTrees pairs)

def Value.trees : List Value → List Tree
  | [] => []
  | v :: values => v.tree :: Value.trees values

def Value.namedTrees : List (Text × Value) → List (Option Text × Tree)
  | [] => []
  | (key, v) :: pairs => (some key, v.tree) :: Value.namedTrees pairs

end

mutual

/-- What mirrors the tree of a value shows the value. -/
theorem Value.shows_of_mirrors : ∀ (v : Value) {node : Node}, node.Mirrors v.tree → node.Shows v
  | .null, _, .null after => .null after
  | .flag _, _, .flag b after => .flag b after
  | .text _, _, .text t after => .text t after
  | .list values, _, .list opening inside =>
      .list opening (Value.shows_items_of_mirrors values inside)
  | .table pairs, _, .table opening inside =>
      .table opening (Value.shows_members_of_mirrors pairs inside)

theorem Value.shows_items_of_mirrors : ∀ (values : List Value) {items : Items},
    items.Mirrors (Value.trees values) → items.Shows values
  | [], _, .close after => .close after
  | v :: values, _, .item first others _ =>
      .item _ (Value.shows_of_mirrors v first) (Value.shows_items_of_mirrors values others)

theorem Value.shows_members_of_mirrors : ∀ (pairs : List (Text × Value)) {members : Members},
    members.Mirrors (Value.namedTrees pairs) → members.Shows pairs
  | [], _, .close after => .close after
  | (_, v) :: pairs, _, .member (.readable key after) first others =>
      .member key after (Value.shows_of_mirrors v first)
        (Value.shows_members_of_mirrors pairs others)

end

/-! ## How decoders take values -/

/-- The decoder takes the value, which is not null, as `a`. -/
structure Decoder.Takes {α : Type} (decoder : Decoder α) (v : Value) (a : α) : Prop where
  present : v ≠ .null
  reads : ∀ path node, Node.Shows node v → decoder path node = pure a

namespace Decoder

variable {α : Type} {value : Decoder α}

theorem takes_text (t : Text) : Decoder.text.Takes (.text t) t where
  present := nofun
  reads path node h := by
    cases h
    rfl

theorem takes_flag (b : Bool) : Decoder.flag.Takes (.flag b) b where
  present := nofun
  reads path node h := by
    cases h
    rfl

theorem takes_optional {v : Value} {a : α} (h : value.Takes v a) :
    (Decoder.optional value).Takes v (some a) where
  present := h.present
  reads path node hs := by
    have hread := h.reads path node hs
    cases hs with
    | null after => exact absurd rfl h.present
    | _ =>
        rw [Decoder.optional, hread, Decoded.pure_bind]
        exact nofun

theorem items_eq_pure {values : List Value} {as : List α} (h : List.Forall₂ value.Takes values as)
    (path : FieldPath) (i : Nat) {found : Items} (hs : Items.Shows found values) :
    Decoder.items value path i found = pure as := by
  induction h generalizing i found with
  | nil =>
      cases hs
      rfl
  | cons first _ ih =>
      cases hs with
      | item follow hnode hrest =>
        rw [Decoder.items, first.reads _ _ hnode, Decoded.pure_bind, ih (i + 1) hrest,
          Decoded.pure_bind]

theorem takes_list {values : List Value} {as : List α} (h : List.Forall₂ value.Takes values as) :
    (Decoder.list value).Takes (.list values) as where
  present := nofun
  reads path node hs := by
    cases hs with
    | list opening inside => exact items_eq_pure h path 0 inside

theorem members_eq_pure {pairs : List (Text × Value)} {entries : List (Text × α)}
    (h : List.Forall₂ (fun m e => m.1 = e.1 ∧ value.Takes m.2 e.2) pairs entries)
    (path : FieldPath) {found : Members} (hs : Members.Shows found pairs) :
    Decoder.members value path found = pure entries := by
  induction h generalizing found with
  | nil =>
      cases hs
      rfl
  | cons first _ ih =>
      obtain ⟨hkey, hvalue⟩ := first
      cases hs with
      | member key after hnode hrest =>
        obtain rfl := hkey
        rw [Decoder.members, Decoder.key, Decoded.pure_bind, hvalue.reads _ _ hnode,
          Decoded.pure_bind, ih hrest, Decoded.pure_bind]

theorem takes_entries {pairs : List (Text × Value)} {entries : List (Text × α)}
    (h : List.Forall₂ (fun m e => m.1 = e.1 ∧ value.Takes m.2 e.2) pairs entries) :
    (Decoder.entries value).Takes (.table pairs) entries where
  present := nofun
  reads path node hs := by
    cases hs with
    | table opening inside => exact members_eq_pure h path inside

end Decoder

/-! ## Records -/

theorem Slot.takes_of {ρ α : Type} {name : String} {value : Decoder α} {set : α → ρ → ρ} {v : Value}
    {a : α} (h : value.Takes v a) : (Slot.of name value set).read.Takes v (set a) where
  present := h.present
  reads path node hs := by
    show (value path node >>= fun a => pure (set a)) = pure (set a)
    rw [h.reads path node hs, Decoded.pure_bind]

/-- Setting two fields in either order gives the same record. -/
def Slot.Commutes {ρ : Type} (s t : Slot ρ) : Prop :=
  ∀ v w f g, s.read.Takes v f → t.read.Takes w g → ∀ record, f (g record) = g (f record)

instance {ρ : Type} : Std.Symm (@Slot.Commutes ρ) where
  symm _ _ h v w f g hf hg record := (h w v g f hg hf record).symm

theorem Slot.commutes_of {ρ α β : Type} {name name' : String} {value : Decoder α}
    {value' : Decoder β} {set : α → ρ → ρ} {set' : β → ρ → ρ}
    (h : ∀ a b record, set a (set' b record) = set' b (set a record)) :
    (Slot.of name value set).Commutes (Slot.of name' value' set') := by
  intro v w f g hf hg record
  obtain ⟨node, hv⟩ := Value.exists_shows v
  obtain ⟨node', hw⟩ := Value.exists_shows w
  obtain ⟨a, rfl⟩ := Decoded.bind_pure_eq_pure (hf.reads [] node hv)
  obtain ⟨b, rfl⟩ := Decoded.bind_pure_eq_pure (hg.reads [] node' hw)
  exact h a b record

namespace Shape

variable {ρ : Type} {shape : Shape ρ}

/-- The members turn the first record into the second; `seen` are the fields written before. -/
inductive Fills (shape : Shape ρ) : List Text → ρ → List (Text × Value) → ρ → Prop where
  | nil {seen : List Text} {record : ρ} : Fills shape seen record [] record
  | cons {seen : List Text} {record record' : ρ} {key : Text} {v : Value}
      {pairs : List (Text × Value)} {slot : Slot ρ} {f : ρ → ρ} (known : shape.field? key = some slot)
      (fresh : key ∉ seen) (taken : slot.read.Takes v f)
      (rest : Fills shape (key :: seen) (f record) pairs record') :
      Fills shape seen record ((key, v) :: pairs) record'

theorem Fills.mono {seen seen' : List Text} {record record' : ρ} {pairs : List (Text × Value)}
    (h : shape.Fills seen record pairs record') (hsub : seen' ⊆ seen) :
    shape.Fills seen' record pairs record' := by
  induction h generalizing seen' with
  | nil => exact .nil
  | cons known fresh taken _ ih =>
      exact .cons known (fun h => fresh (hsub h)) taken (ih (List.cons_subset_cons _ hsub))

theorem Fills.fresh {seen : List Text} {record record' : ρ} {pairs : List (Text × Value)}
    (h : shape.Fills seen record pairs record') : ∀ m ∈ pairs, m.1 ∉ seen := by
  induction h with
  | nil => exact List.forall_mem_nil _
  | cons known fresh taken _ ih =>
      exact List.forall_mem_cons.mpr
        ⟨fresh, fun m hmem h => ih m hmem (List.mem_cons_of_mem _ h)⟩

theorem Fills.nodup {seen : List Text} {record record' : ρ} {pairs : List (Text × Value)}
    (h : shape.Fills seen record pairs record') : (pairs.map Prod.fst).Nodup := by
  induction h with
  | nil => exact .nil
  | cons known fresh taken rest ih =>
      refine List.nodup_cons.mpr ⟨fun h => ?_, ih⟩
      obtain ⟨m, hmem, rfl⟩ := List.mem_map.mp h
      exact rest.fresh m hmem List.mem_cons_self

theorem Fills.ofMembers {seen : List Text} {record record' : ρ} {pairs : List (Text × Value)}
    (h : shape.Fills seen record pairs record') (path : FieldPath) {found : Members}
    (hs : Members.Shows found pairs) : shape.ofMembers path seen record found = pure record' := by
  induction h generalizing found with
  | nil =>
      cases hs
      rfl
  | cons known fresh taken _ ih =>
      cases hs with
      | member key after hnode hrest =>
        rw [Shape.ofMembers, Decoder.key, Decoded.pure_bind, known]
        dsimp only
        rw [if_neg (by simpa using fresh), taken.reads _ _ hnode, Decoded.pure_bind, ih hrest]

theorem Fills.takes {record : ρ} {pairs : List (Text × Value)}
    (h : shape.Fills [] shape.blank pairs record) : shape.decode.Takes (.table pairs) record where
  present := nofun
  reads path node hs := by
    cases hs with
    | table opening inside => exact h.ofMembers path inside

theorem mem_of_field? {key : Text} {slot : Slot ρ} (h : shape.field? key = some slot) :
    slot ∈ shape.fields ∧ slot.name = key := by
  refine ⟨List.mem_of_find?_eq_some h, ?_⟩
  have hname := List.find?_some h
  rwa [beq_iff_eq] at hname

theorem commutes_of_known (hcomm : shape.fields.Pairwise Slot.Commutes) {key key' : Text}
    {slot slot' : Slot ρ} (known : shape.field? key = some slot)
    (known' : shape.field? key' = some slot') (hne : key ≠ key') : slot.Commutes slot' := by
  obtain ⟨hmem, rfl⟩ := mem_of_field? known
  obtain ⟨hmem', rfl⟩ := mem_of_field? known'
  refine hcomm.forall hmem hmem' ?_
  rintro rfl
  exact hne rfl

/-- The order of the members does not matter. -/
theorem Fills.perm (hcomm : shape.fields.Pairwise Slot.Commutes) {seen : List Text}
    {record record' : ρ} {pairs pairs' : List (Text × Value)} (hperm : pairs.Perm pairs')
    (h : shape.Fills seen record pairs record') : shape.Fills seen record pairs' record' := by
  induction hperm generalizing seen record with
  | nil => exact h
  | cons m _ ih =>
      cases h with
      | cons known fresh taken rest => exact .cons known fresh taken (ih rest)
  | swap m m' rest =>
      cases h with
      | cons known fresh taken rest =>
        cases rest with
        | cons known' fresh' taken' rest =>
          obtain ⟨hne, hnew⟩ := List.ne_and_not_mem_of_not_mem_cons fresh'
          refine .cons known' hnew taken' (.cons known ?_ taken ?_)
          · exact List.not_mem_cons_of_ne_of_not_mem (Ne.symm hne) fresh
          · rw [commutes_of_known hcomm known known' hne.symm _ _ _ _ taken taken']
            exact rest.mono (List.Perm.swap ..).subset
  | trans _ _ ih ih' => exact ih' (ih h)

end Shape

end Signpost.Document
