import Signpost.Pattern

/-!
# The size of patterns

An estimate of the bytes that the automaton of a pattern takes. The program tests patterns by it. It
is not exact for large ones; what is proved of sites holds for every size test.
-/

namespace Signpost.Pattern

namespace Expr

/-- Whether the expression matches nothing but the empty text. -/
def isEmptyOnly : Expr → Bool
  | empty => true
  | chars _ => false
  | look _ => true
  | seq a b => a.isEmptyOnly && b.isEmptyOnly
  | alt a b => a.isEmptyOnly && b.isEmptyOnly
  | repetition a _ most => a.isEmptyOnly || most = some 0

/-- An estimate of the bytes that a set of characters takes in an automaton over the bytes of
UTF-8 text. -/
def setSize (set : CharSet) : Nat :=
  match set.only? with
  | some c => 32 * c.utf8Size
  | none =>
    if set.isAscii then 32 + 8 * set.ranges.length else 256 + 64 * set.ranges.length

/-- An estimate of the bytes that the expression takes as an automaton. Repetitions of the empty
text count once. -/
def size : Expr → Nat
  | empty => 32
  | chars set => setSize set
  | look _ => 32
  | seq a b => a.size + b.size
  | alt a b => a.size + b.size + 72
  | repetition a least most =>
    let cap (n : Nat) : Nat := if a.isEmptyOnly then min n 1 else n
    match most with
    | none => max 1 (cap least) * a.size + 72
    | some most => cap most * a.size + (cap most - cap least) * 40

theorem setSize_of_only? {set : CharSet} {c : Char} (h : set.only? = some c) :
    setSize set = 32 * c.utf8Size := by
  simp only [setSize, h]

/-- No part of a row takes more than a character of four bytes. -/
theorem size_le_of_row? {expr : Expr} {n : Nat} (h : expr.row? = some n) :
    expr.size ≤ 128 * n := by
  induction expr generalizing n with
  | empty =>
      cases h
      decide
  | chars set =>
      obtain ⟨c, honly, rfl⟩ := Option.map_eq_some_iff.mp h
      have hbytes := c.utf8Size_le_four
      rw [size, setSize_of_only? honly]
      omega
  | look l =>
      cases h
      rw [size]
      decide
  | seq a b iha ihb =>
      obtain ⟨m, ha, h⟩ := Option.bind_eq_some_iff.mp h
      obtain ⟨k, hb, h⟩ := Option.bind_eq_some_iff.mp h
      cases h
      have hfirst := iha ha
      have hsecond := ihb hb
      rw [size]
      omega
  | alt a b => cases h
  | repetition a least most => cases h

end Expr

instance sizeEstimate : SizeTest where
  fits pattern := pattern.expr.size ≤ sizeLimit
  fits_of_isShortRow pattern h := by
    obtain ⟨n, hrow, hshort⟩ := (Option.any_eq_true _ _).mp h
    have hsize := Expr.size_le_of_row? hrow
    have hlength := of_decide_eq_true hshort
    exact decide_eq_true (by unfold sizeLimit; omega)

end Signpost.Pattern
