import Signpost.Text.Basic

/-!
# Tables of character ranges

A property of characters is given by the ranges of numbers that have it, in ascending order and
apart from each other, and a range may carry a value. A table is written as text,
`300-36F 483-489 591` or `591:AL 5BE:R`, in hexadecimal.
-/

namespace Signpost

/-- The number with these hexadecimal digits; other characters count as zero. -/
def hexNumber (digits : Text) : Nat :=
  digits.foldl (fun n c => n * 16 + (Text.hexValue? c).getD 0) 0

/-- A range of character numbers, both ends included, and its value. -/
structure CharRange (α : Type) where
  first : Nat
  last : Nat
  value : α
deriving Repr

abbrev RangeMap (α : Type) := Array (CharRange α)

namespace RangeMap

variable {α : Type}

/-- One entry of a table: a range, or a number that stands alone, and a value behind a colon. -/
def entry (value : Text → α) (word : Text) : CharRange α :=
  let range := word.takeWhile (· != ':')
  let rest := (word.dropWhile (· != ':')).drop 1
  match Text.splitOn '-' range with
  | [a, b] => ⟨hexNumber a, hexNumber b, value rest⟩
  | _ => ⟨hexNumber range, hexNumber range, value rest⟩

/-- The table written by a text, its entries separated by blanks. -/
def parse (value : Text → α) (s : String) : RangeMap α :=
  ((Text.words s.toList).map (entry value)).toArray

/-- Looks for `n` among the entries from `lo` up to but not including `hi`, by halving. -/
def search (t : RangeMap α) (n : Nat) : Nat → Nat → Nat → Option (CharRange α)
  | 0, _, _ => none
  | fuel + 1, lo, hi =>
    if lo < hi then
      match t[(lo + hi) / 2]? with
      | none => none
      | some r =>
        if n < r.first then search t n fuel lo ((lo + hi) / 2)
        else if r.last < n then search t n fuel ((lo + hi) / 2 + 1) hi
        else some r
    else none

def find? (t : RangeMap α) (n : Nat) : Option (CharRange α) := search t n (t.size + 1) 0 t.size

def value? (t : RangeMap α) (n : Nat) : Option α := (t.find? n).map (·.value)

end RangeMap

/-- Ascending, disjoint ranges without values. -/
abbrev RangeTable := RangeMap Unit

namespace RangeTable

def parse (s : String) : RangeTable := RangeMap.parse (fun _ => ()) s

def contains (t : RangeTable) (n : Nat) : Bool := (t.find? n).isSome

end RangeTable

end Signpost
