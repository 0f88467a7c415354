import Signpost.Proofs.Document.Passing
import Signpost.Proofs.FieldPath.Descents

/-!
# Where the listed paths lie

A decoder lists the paths of the members that it passes over. All of them lie below the path that
the decoder is given, each reached by members and elements on the way. How each way to build a
decoder keeps to this is said here once.
-/

namespace Signpost.Document

/-! ## What a decoding lists -/

/-- All that is listed has the property. -/
def Decoded.Lists {α : Type} (d : Decoded α) (P : FieldPath → Prop) : Prop :=
  ∀ (a : α) (ignored : List FieldPath), d = Except.ok (a, ignored) → ∀ p ∈ ignored, P p

namespace Decoded

variable {α β : Type} {d : Decoded α} {P Q : FieldPath → Prop}

theorem lists_pure (a : α) : (pure a : Decoded α).Lists P := by
  intro _ _ hok
  obtain ⟨-, rfl⟩ := Prod.mk.inj (Except.ok.inj hok)
  exact List.forall_mem_nil _

theorem lists_fail (failure : Failure) : (fail failure : Decoded α).Lists P := by
  intro _ _ hok
  cases hok

theorem Lists.bind {f : α → Decoded β} (h : d.Lists P) (hf : ∀ a, (f a).Lists P) :
    (d >>= f).Lists P := by
  intro _ _ hok
  obtain ⟨a, first, second, hfirst, hsecond, rfl⟩ := bind_eq_ok.mp hok
  exact List.forall_mem_append.mpr ⟨h _ _ hfirst, hf a _ _ hsecond⟩

theorem Lists.map (h : d.Lists P) (f : α → β) : (d >>= fun a => pure (f a)).Lists P :=
  h.bind fun a => lists_pure (f a)

theorem Lists.mono (h : d.Lists P) (hPQ : ∀ p, P p → Q p) : d.Lists Q :=
  fun a ignored hok p hp => hPQ p (h a ignored hok p hp)

end Decoded

open Decoded

/-- What the decoder lists lies below the path that it is given. -/
def Decoder.ListsBelow {α : Type} (decoder : Decoder α) : Prop :=
  ∀ (path : FieldPath) (node : Node), (decoder path node).Lists path.IsBelow

namespace Decoder

variable {α : Type} {value : Decoder α}

theorem listsBelow_text : Decoder.text.ListsBelow := by
  intro path node
  cases node with
  | text t _ => exact lists_pure t
  | _ => exact lists_fail _

theorem listsBelow_flag : Decoder.flag.ListsBelow := by
  intro path node
  cases node with
  | flag b _ => exact lists_pure b
  | _ => exact lists_fail _

theorem ListsBelow.optional (h : value.ListsBelow) : (Decoder.optional value).ListsBelow := by
  intro path node
  cases node with
  | null => exact lists_pure none
  | _ => exact (h path _).map some

theorem ListsBelow.at_element (h : value.ListsBelow) (path : FieldPath) (i : Nat) (node : Node) :
    (value (path.push (.index i)) node).Lists path.IsBelow :=
  (h _ node).mono fun _ => FieldPath.IsBelow.of_element

theorem ListsBelow.at_member (h : value.ListsBelow) (path : FieldPath) (name : Text) (node : Node) :
    (value (path.push (FieldPath.keyStep name)) node).Lists path.IsBelow :=
  (h _ node).mono fun _ => FieldPath.IsBelow.of_member

theorem ListsBelow.items (h : value.ListsBelow) (path : FieldPath) (i : Nat) (items : Items) :
    (Decoder.items value path i items).Lists path.IsBelow := by
  match items with
  | .close _ => exact lists_pure []
  | .cut _ _ => exact lists_fail _
  | .item node _ rest =>
      rw [Decoder.items]
      exact (h.at_element path i node).bind fun a => (h.items path (i + 1) rest).map (a :: ·)

theorem ListsBelow.list (h : value.ListsBelow) : (Decoder.list value).ListsBelow := by
  intro path node
  cases node with
  | list _ items => exact h.items path 0 items
  | _ => exact lists_fail _

theorem lists_key (k : Key) {P : FieldPath → Prop} : (Decoder.key k).Lists P := by
  intro _ _ hok
  rw [key_ignored hok]
  exact List.forall_mem_nil _

theorem ListsBelow.members (h : value.ListsBelow) (path : FieldPath) (members : Members) :
    (Decoder.members value path members).Lists path.IsBelow := by
  match members with
  | .close _ => exact lists_pure []
  | .cut _ _ => exact lists_fail _
  | .member k node rest =>
      rw [Decoder.members]
      refine (lists_key k).bind fun name => ?_
      exact (h.at_member path name node).bind fun a => (h.members path rest).map ((name, a) :: ·)

theorem ListsBelow.entries (h : value.ListsBelow) : (Decoder.entries value).ListsBelow := by
  intro path node
  cases node with
  | table _ members => exact h.members path members
  | _ => exact lists_fail _

/-- What is passed over is listed by its own path. -/
theorem lists_skip (path : FieldPath) (node : Node) :
    (Decoder.skip path node).Lists path.IsBelow := by
  intro _ _ hok
  obtain ⟨-, rfl⟩ := Decoder.skip_eq_ok.mp hok
  exact List.forall_mem_singleton.mpr (.refl path)

end Decoder

/-! ## Records -/

theorem Slot.listsBelow_of {ρ α : Type} {name : String} {value : Decoder α} {set : α → ρ → ρ}
    (h : value.ListsBelow) : (Slot.of name value set).read.ListsBelow :=
  fun path node => (h path node).map set

namespace Shape

variable {ρ : Type} {shape : Shape ρ}

theorem lists_ofMembers (h : ∀ slot ∈ shape.fields, slot.read.ListsBelow) (path : FieldPath)
    (seen : List Text) (record : ρ) (members : Members) :
    (shape.ofMembers path seen record members).Lists path.IsBelow := by
  match members with
  | .close _ => exact lists_pure record
  | .cut _ _ => exact lists_fail _
  | .member k node rest =>
      intro _ _ hok
      obtain ⟨name, more, -, ⟨-, -, -, hrest, rfl⟩ | ⟨slot, set, first, hfield, -, hread, hrest,
        rfl⟩⟩ := ofMembers_member_eq_ok.mp hok
      · have hbehind := lists_ofMembers h path _ _ rest _ _ hrest
        exact List.forall_mem_cons.mpr ⟨.of_member (.refl _), hbehind⟩
      · have hbehind := lists_ofMembers h path _ _ rest _ _ hrest
        have hslot := h slot (mem_of_field? hfield).1
        exact List.forall_mem_append.mpr ⟨hslot.at_member path name node _ _ hread, hbehind⟩

theorem lists_ofItems {slots : List (Slot ρ)} (h : ∀ slot ∈ slots, slot.read.ListsBelow)
    (path : FieldPath) (i : Nat) (surplus : Option Fault) (record : ρ) (items : Items) :
    (ofItems path slots i surplus record items).Lists path.IsBelow := by
  induction slots generalizing i surplus record items with
  | nil =>
      cases surplus with
      | none => cases items <;> exact lists_pure record
      | some fault =>
          cases items with
          | close _ => exact lists_pure record
          | _ => exact lists_fail _
  | cons slot slots ih =>
      obtain ⟨hslot, hslots⟩ := List.forall_mem_cons.mp h
      cases items with
      | close _ => exact lists_pure record
      | cut _ _ => exact lists_fail _
      | item node follow rest =>
          rw [ofItems]
          exact (hslot.at_element path i node).bind fun set => ih hslots _ _ _ rest

/-- A record lists what its fields list and its unknown members. -/
theorem listsBelow (h : ∀ slot ∈ shape.fields, slot.read.ListsBelow) : shape.decode.ListsBelow := by
  intro path node
  cases node with
  | table _ members => exact lists_ofMembers h path [] shape.blank members
  | list _ items => exact lists_ofItems h path 0 none shape.blank items
  | _ => exact lists_fail _

end Shape

end Signpost.Document
