import Signpost.Text.Basic
import Signpost.Numeral.Binary64

/-!
# What a reader finds in a config text

A config text is read into a tree of values as deep as the text can be followed. Two readers walk
such a tree: one takes values in, the other only passes over them, and a text may be good enough
for the second but not for the first. Where the text breaks off, the tree holds the fault that
each of the two meets, so the first fault in source order always wins, be it one of the text or
one of the value's type.

Places are kept as the text still ahead. A reader that does not report places leaves them empty.
-/

namespace Signpost.Document

/-- A place in the source: `bytes` bytes beyond the point at which `ahead` is still to come. -/
structure Spot where
  ahead : Text
  bytes : Nat
deriving DecidableEq, Repr

def Spot.nowhere : Spot := ⟨[], 0⟩

/-- The ways in which a text breaks off. -/
inductive Breach where
  | endInList
  | endInTable
  | endInText
  | endInValue
  | expectedColon
  | expectedCommaOrListEnd
  | expectedCommaOrTableEnd
  | expectedWord
  | expectedValue
  | badEscape
  | badNumber
  | numberTooLarge
  | controlInText
  | keyNotText
  | loneSurrogate
  | surrogateNotFollowed
  | trailingComma
  | trailingCharacters
deriving DecidableEq, Repr

/-- A breach and its place. -/
structure Fault where
  breach : Breach
  spot : Spot
deriving DecidableEq, Repr

/-- What comes after an element: the place at which its list would report a fault of its own, and
the fault of ending the list here although more follows. -/
structure Follow where
  after : Spot
  surplus : Option Fault
deriving DecidableEq, Repr

/-- A key, or the fault of reading it, and the place behind it. -/
structure Key where
  text : Except Fault Text
  after : Spot

mutual

/-- A value as it was found. -/
inductive Node where
  | null (after : Spot)
  | flag (value : Bool) (after : Spot)
  | integer (value : Int) (after : Spot)
  | float (value : Binary64) (after : Spot)
  | text (value : Text) (after : Spot)
  | list (opening : Spot) (items : Items)
  | table (opening : Spot) (members : Members)
  /-- A scalar that can be passed over but not taken in. -/
  | unreadable (fault : Fault)
  /-- The text breaks off here, for one who takes values in and for one who passes over them. -/
  | cut (reading passing : Fault)

/-- The elements of a list. -/
inductive Items where
  | close (after : Spot)
  | cut (reading passing : Fault)
  | item (value : Node) (follow : Follow) (rest : Items)

/-- The members of a table, in source order and with repetitions. -/
inductive Members where
  | close (after : Spot)
  | cut (reading passing : Fault)
  | member (key : Key) (value : Node) (rest : Members)

end

mutual

/-- The fault met by passing over a value, if there is one. -/
def Node.passing : Node → Option Fault
  | .cut _ fault => some fault
  | .list _ items => items.passing
  | .table _ members => members.passing
  | _ => none

def Items.passing : Items → Option Fault
  | .close _ => none
  | .cut _ fault => some fault
  | .item value _ rest => value.passing.or rest.passing

def Members.passing : Members → Option Fault
  | .close _ => none
  | .cut _ fault => some fault
  | .member _ value rest => value.passing.or rest.passing

end

end Signpost.Document
