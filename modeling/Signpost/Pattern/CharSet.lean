import Signpost.Text.Ranges

/-!
# Sets of characters

A set of characters is a list of ranges of their numbers. The operations here give ascending ranges
that are apart from each other, and so does every set built by them.
-/

namespace Signpost.Pattern

/-- A set of characters, as ranges of numbers with both ends included. -/
structure CharSet where
  ranges : List (Nat × Nat)
deriving DecidableEq, Repr

namespace CharSet

def greatest : Nat := 0x10FFFF

/-- The set without characters. -/
def empty : CharSet := ⟨[]⟩

def all : CharSet := ⟨[(0, greatest)]⟩

/-- The ASCII characters. -/
def ascii : CharSet := ⟨[(0, 0x7F)]⟩

def single (c : Char) : CharSet := ⟨[(c.toNat, c.toNat)]⟩

def between (a b : Char) : CharSet := ⟨[(a.toNat, b.toNat)]⟩

def contains (set : CharSet) (c : Char) : Bool :=
  set.ranges.any fun (a, b) => a ≤ c.toNat && c.toNat ≤ b

/-- Joins the range from `a` to `b` with those of the following, sorted ranges that it touches. -/
def coalesce : (a b : Nat) → List (Nat × Nat) → List (Nat × Nat)
  | a, b, [] => [(a, b)]
  | a, b, (c, d) :: rest =>
    if c ≤ b + 1 then coalesce a (max b d) rest else (a, b) :: coalesce c d rest

def ofRanges (ranges : List (Nat × Nat)) : CharSet :=
  match ranges.mergeSort fun r s => r.1 ≤ s.1 with
  | [] => empty
  | (a, b) :: rest => ⟨coalesce a b rest⟩

def parse (s : String) : CharSet :=
  ofRanges ((RangeTable.parse s).toList.map fun r => (r.first, r.last))

def union (s t : CharSet) : CharSet := ofRanges (s.ranges ++ t.ranges)

/-- The ranges between ascending ranges, from `n` on. -/
def gaps : (n : Nat) → List (Nat × Nat) → List (Nat × Nat)
  | n, [] => if n ≤ greatest then [(n, greatest)] else []
  | n, (a, b) :: rest => if n < a then (n, a - 1) :: gaps (b + 1) rest else gaps (b + 1) rest

def complement (s : CharSet) : CharSet := ⟨gaps 0 s.ranges⟩

def intersection (s t : CharSet) : CharSet := (s.complement.union t.complement).complement

def difference (s t : CharSet) : CharSet := s.intersection t.complement

def symmetricDifference (s t : CharSet) : CharSet := (s.difference t).union (t.difference s)

def only? (s : CharSet) : Option Char :=
  match s.ranges with
  | [(a, b)] => if a = b then some (Char.ofNat a) else none
  | _ => none

/-- Whether all characters of the set are ASCII. -/
def isAscii (s : CharSet) : Bool := s.ranges.all fun (_, b) => b ≤ 0x7F

end CharSet

end Signpost.Pattern
