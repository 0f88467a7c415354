import Mathlib.Data.List.Infix
import Signpost.FieldPath

/-!
# Paths that part

Two paths part when one goes on by a position where the other goes on by a name or a key. The text
of a path only grows with its steps, and it shows at once by which kind of step a path goes on, so
paths that part are never spelled alike.
-/

namespace Signpost

/-- The step is a key, or a name that is read unambiguously. -/
def Step.IsNamed : Step → Prop
  | .field name => FieldPath.isPlainKey name = true
  | .index _ => False
  | .key _ => True

namespace FieldPath

variable {p q : FieldPath}

/-! ## How the text of a path grows -/

theorem render_push (p : FieldPath) (s : Step) : (p.push s).render = extend p.render s :=
  List.foldl_concat ..

theorem prefix_extend (t : Text) (s : Step) : t <+: extend t s := by
  cases s with
  | field name =>
      rw [extend]
      split
      next hempty => exact List.isEmpty_iff.mp hempty ▸ List.nil_prefix
      next => exact List.prefix_append _ _
  | index i => exact (List.prefix_append _ _).trans (List.prefix_append _ _)
  | key k => exact (List.prefix_append _ _).trans (List.prefix_append _ _)

theorem prefix_render_append (p r : FieldPath) : p.render <+: render (p ++ r) := by
  induction r using List.reverseRecOn with
  | nil => rw [List.append_nil]
  | append_singleton r s ih =>
      rw [← List.append_assoc, show p ++ r ++ [s] = push (p ++ r) s from rfl, render_push]
      exact ih.trans (prefix_extend _ s)

theorem extend_prefix_render (p : FieldPath) (s : Step) (r : FieldPath) :
    extend p.render s <+: render (p ++ s :: r) := by
  rw [← render_push, List.append_cons]
  exact prefix_render_append (p.push s) r

/-! ## Positions and names -/

/-- A plain key does not look like a position. -/
theorem eq_cons_of_isPlainKey {k : Text} (h : isPlainKey k = true) :
    ∃ c rest, k = c :: rest ∧ c ≠ '[' := by
  cases k with
  | nil => cases h
  | cons c rest =>
      refine ⟨c, rest, rfl, ?_⟩
      rintro rfl
      cases h

/-- What two beginnings of a text have behind a common part. -/
theorem head_eq_of_prefixes {t x y u : Text} {a b : Char} (hx : t ++ a :: x <+: u)
    (hy : t ++ b :: y <+: u) : a = b := by
  obtain ⟨v, rfl⟩ := hx
  obtain ⟨w, heq⟩ := hy
  rw [List.append_assoc, List.append_assoc] at heq
  exact (List.cons.inj (List.append_cancel_left heq)).1.symm

theorem ofNat_eq_cons (i : Nat) : ∃ d ds, Text.ofNat i = d :: ds ∧ d ≠ '"' := by
  obtain ⟨d, ds, heq⟩ := List.exists_cons_of_ne_nil (Nat.toDigits_ne_nil : Nat.toDigits 10 i ≠ [])
  have hdigit : d.isDigit = true :=
    Nat.isDigit_of_mem_toDigits (by decide) (by decide) (heq ▸ List.mem_cons_self)
  refine ⟨d, ds, heq, ?_⟩
  rintro rfl
  exact absurd hdigit (by decide)

/-- A text that goes on by a position does not go on by a name or a key. -/
theorem not_prefix_extend {t u : Text} {i : Nat} {s : Step} (hs : s.IsNamed)
    (hi : extend t (.index i) <+: u) : ¬extend t s <+: u := by
  intro h
  rw [extend, List.append_assoc] at hi
  cases s with
  | field name =>
      obtain ⟨c, rest, rfl, hc⟩ := eq_cons_of_isPlainKey hs
      rw [extend] at h
      split at h
      next hempty =>
          obtain rfl := List.isEmpty_iff.mp hempty
          exact hc (head_eq_of_prefixes (t := []) h hi)
      next => exact absurd (head_eq_of_prefixes h hi) (by decide)
  | index j => exact hs
  | key k =>
      obtain ⟨d, ds, hd, hne⟩ := ofNat_eq_cons i
      rw [extend, List.append_assoc, List.cons_append, List.append_cons, Quoted.encode] at h
      rw [List.cons_append, List.append_cons, hd] at hi
      exact hne (head_eq_of_prefixes hi h)

/-- The first path goes on by a position where the second goes on by a name or a key. -/
def PartsFrom (p q : FieldPath) : Prop :=
  ∃ common i r s r', p = common ++ .index i :: r ∧ q = common ++ s :: r' ∧ s.IsNamed

theorem PartsFrom.append (h : p.PartsFrom q) (r r' : FieldPath) :
    PartsFrom (p ++ r) (q ++ r') := by
  obtain ⟨common, i, front, s, front', rfl, rfl, hs⟩ := h
  exact ⟨common, i, front ++ r, s, front' ++ r', List.append_assoc .., List.append_assoc .., hs⟩

theorem partsFrom_index (p : FieldPath) (i : Nat) {s : Step} (hs : s.IsNamed) (r : FieldPath) :
    (p.push (.index i)).PartsFrom (p ++ s :: r) := ⟨p, i, [], s, r, rfl, rfl, hs⟩

/-- Paths that part have different texts. -/
theorem PartsFrom.render_ne (h : p.PartsFrom q) : p.render ≠ q.render := by
  obtain ⟨common, i, r, s, r', rfl, rfl, hs⟩ := h
  intro heq
  refine not_prefix_extend hs (extend_prefix_render common (.index i) r) ?_
  rw [heq]
  exact extend_prefix_render common s r'

end FieldPath

end Signpost
