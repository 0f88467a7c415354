import Signpost.Document.Node

/-!
# Lines and columns

A place in a text as a line, counted from one, and a column: the number of bytes between the start
of the line and the place.
-/

namespace Signpost.Json

/-- A line, counted from one, and a column in bytes. -/
structure Position where
  line : Nat
  column : Nat
deriving DecidableEq, Repr

namespace Position

/-- The position `bytes` bytes further on than the start of `t`, which is at the given position. -/
def advance : Text → Nat → Position → Position
  | [], _, p => p
  | c :: t, bytes, p =>
    if bytes < c.utf8Size then ⟨p.line, p.column + bytes⟩
    else if c = '\n' then advance t (bytes - 1) ⟨p.line + 1, 0⟩
    else advance t (bytes - c.utf8Size) ⟨p.line, p.column + c.utf8Size⟩

def ofSpot (whole : Text) (spot : Document.Spot) : Position :=
  advance whole (Text.byteLength whole - Text.byteLength spot.ahead + spot.bytes) ⟨1, 0⟩

def render (p : Position) : Text :=
  " at line ".toList ++ Text.ofNat p.line ++ " column ".toList ++ Text.ofNat p.column

end Position

end Signpost.Json
