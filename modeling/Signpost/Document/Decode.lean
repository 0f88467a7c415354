import Signpost.Document.Node
import Signpost.FieldPath

/-!
# Taking values in

A decoder turns a found value into a value of the domain, or says why it does not fit. It also
lists the paths of the table members that its shape does not know, in source order.

A record is written as a table of its fields, or as a list of their values in the order in which
the fields are declared; fields that are not written keep their defaults.
-/

namespace Signpost.Document

/-- The kind of a found value, with the value itself for scalars. -/
inductive Found where
  | null
  | flag (value : Bool)
  | integer (value : Int)
  | float (value : Binary64)
  | text (value : Text)
  | list
  | table
deriving DecidableEq, Repr

/-- Why a value does not fit its place. -/
inductive Misfit where
  | wrongType (found : Found) (wanted : Text)
  | wrongLength (length : Nat) (wanted : Text)
  | unknownField (name : Text) (known : List Text)
  | repeatedField (name : Text)
  | unknownVariant (name : Text) (known : List Text)
deriving DecidableEq, Repr

/-- Why nothing could be taken in: the text is broken, or a value does not fit. -/
inductive Failure where
  | broken (fault : Fault)
  | misfit (cause : Misfit) (spot : Spot)
deriving DecidableEq, Repr

/-- What taking in a value gives: the value and the paths of the members passed over, or the first
failure. -/
def Decoded (α : Type) : Type := Except Failure (α × List FieldPath)

namespace Decoded

def fail {α : Type} (failure : Failure) : Decoded α := Except.error failure

def ignore (path : FieldPath) : Decoded Unit := Except.ok ((), [path])

/-- One decoding after another; the paths are listed in that order. -/
def andThen {α β : Type} (first : Decoded α) (second : α → Decoded β) : Decoded β :=
  match first with
  | Except.error failure => Except.error failure
  | Except.ok (a, ignored) =>
    match second a with
    | Except.error failure => Except.error failure
    | Except.ok (b, more) => Except.ok (b, ignored ++ more)

instance : Monad Decoded where
  pure a := Except.ok (a, [])
  bind := andThen

end Decoded

abbrev Decoder (α : Type) := FieldPath → Node → Decoded α

/-- The failure of a value that is not of the wanted kind. -/
def Node.refuse (wanted : Text) : Node → Failure
  | .null after => .misfit (.wrongType .null wanted) after
  | .flag b after => .misfit (.wrongType (.flag b) wanted) after
  | .integer n after => .misfit (.wrongType (.integer n) wanted) after
  | .float x after => .misfit (.wrongType (.float x) wanted) after
  | .text t after => .misfit (.wrongType (.text t) wanted) after
  | .list opening _ => .misfit (.wrongType .list wanted) opening
  | .table opening _ => .misfit (.wrongType .table wanted) opening
  | .unreadable fault => .broken fault
  | .cut fault _ => .broken fault

namespace Decoder

def text : Decoder Text
  | _, .text t _ => pure t
  | _, node => .fail (node.refuse "a string".toList)

def flag : Decoder Bool
  | _, .flag b _ => pure b
  | _, node => .fail (node.refuse "a boolean".toList)

/-- A value that may be written as null. -/
def optional {α : Type} (value : Decoder α) : Decoder (Option α)
  | _, .null _ => pure none
  | path, node => do
    let a ← value path node
    return some a

/-- The elements of a list from position `i` on. -/
def items {α : Type} (value : Decoder α) (path : FieldPath) : Nat → Items → Decoded (List α)
  | _, .close _ => pure []
  | _, .cut fault _ => .fail (.broken fault)
  | i, .item node _ rest => do
    let a ← value (path.push (.index i)) node
    let as ← items value path (i + 1) rest
    return a :: as

def list {α : Type} (value : Decoder α) : Decoder (List α)
  | path, .list _ found => items value path 0 found
  | _, node => .fail (node.refuse "a sequence".toList)

def key (k : Key) : Decoded Text :=
  match k.text with
  | .ok t => pure t
  | .error fault => .fail (.broken fault)

/-- The members of a table, order and repetitions kept. -/
def members {α : Type} (value : Decoder α) (path : FieldPath) : Members → Decoded (List (Text × α))
  | .close _ => pure []
  | .cut fault _ => .fail (.broken fault)
  | .member k node rest => do
    let name ← key k
    let a ← value (path.push (FieldPath.keyStep name)) node
    let as ← members value path rest
    return (name, a) :: as

def entries {α : Type} (value : Decoder α) : Decoder (List (Text × α))
  | path, .table _ found => members value path found
  | _, node => .fail (node.refuse "a map".toList)

/-- Passes over a value that has no place at `path`. -/
def skip (path : FieldPath) (node : Node) : Decoded Unit :=
  match node.passing with
  | some fault => .fail (.broken fault)
  | none => .ignore path

end Decoder

/-- A field of a record: its name, and how its value changes the record. -/
structure Slot (ρ : Type) where
  name : Text
  read : Decoder (ρ → ρ)

/-- A field that takes a value of type `α` by `set`. -/
def Slot.of {ρ α : Type} (name : String) (value : Decoder α) (set : α → ρ → ρ) : Slot ρ where
  name := name.toList
  read path node := do
    let a ← value path node
    return set a

/-- The shape of a record: how it is called in messages, its fields, whether unknown fields are
refused, and the record of which no field is written. -/
structure Shape (ρ : Type) where
  wanted : Text
  fields : List (Slot ρ)
  strict : Bool
  blank : ρ

namespace Shape

variable {ρ : Type}

def field? (shape : Shape ρ) (name : Text) : Option (Slot ρ) :=
  shape.fields.find? (·.name == name)

/-- The record written as the members of a table; `seen` are the fields met before. -/
def ofMembers (shape : Shape ρ) (path : FieldPath) :
    (seen : List Text) → ρ → Members → Decoded ρ
  | _, record, .close _ => pure record
  | _, _, .cut fault _ => .fail (.broken fault)
  | seen, record, .member k node rest => do
    let name ← Decoder.key k
    match shape.field? name with
    | none =>
      if shape.strict then
        .fail (.misfit (.unknownField name (shape.fields.map (·.name))) k.after)
      else
        Decoder.skip (path.push (FieldPath.keyStep name)) node
        ofMembers shape path seen record rest
    | some field =>
      if seen.contains name then .fail (.misfit (.repeatedField name) k.after)
      else
        let set ← field.read (path.push (FieldPath.keyStep name)) node
        ofMembers shape path (name :: seen) (set record) rest

/-- The record written as the elements of a list from position `i` on; `surplus` is the fault of
elements beyond the last field. -/
def ofItems (path : FieldPath) :
    List (Slot ρ) → (i : Nat) → (surplus : Option Fault) → ρ → Items → Decoded ρ
  | [], _, _, record, .close _ => pure record
  | [], _, some fault, _, _ => .fail (.broken fault)
  | [], _, none, record, _ => pure record
  | _ :: _, _, _, record, .close _ => pure record
  | _ :: _, _, _, _, .cut fault _ => .fail (.broken fault)
  | field :: fields, i, _, record, .item node follow rest => do
    let set ← field.read (path.push (.index i)) node
    ofItems path fields (i + 1) follow.surplus (set record) rest

def decode (shape : Shape ρ) : Decoder ρ
  | path, .table _ found => shape.ofMembers path [] shape.blank found
  | path, .list _ found => ofItems path shape.fields 0 none shape.blank found
  | _, node => .fail (node.refuse shape.wanted)

end Shape

end Signpost.Document
