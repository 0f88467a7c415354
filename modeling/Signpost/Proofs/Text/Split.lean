import Mathlib.Data.List.Basic
import Signpost.Text.Basic

/-!
# Cutting and joining texts

Cutting a text at a character and joining parts with it undo each other: every text is its parts
joined again, and parts without the character are what their join is cut into.
-/

namespace Signpost.Text

variable {c : Char} {s t : Text}

theorem splitBy_eq_splitOnP {p : Char → Bool} : splitBy p t = t.splitOnP p := by
  induction t with
  | nil => rw [splitBy, List.splitOnP_nil]
  | cons a t ih =>
      rw [splitBy, List.splitOnP_cons_eq_if_modifyHead, ih]
      split
      · rfl
      · cases h : t.splitOnP p with
        | nil => exact absurd h (List.splitOnP_ne_nil p t)
        | cons part parts => rfl

theorem splitOn_eq_splitOn : splitOn c t = List.splitOn c t := splitBy_eq_splitOnP

theorem join_eq_intercalate {sep : Text} {parts : List Text} :
    join sep parts = sep.intercalate parts := by
  induction parts with
  | nil => rfl
  | cons part parts ih =>
      cases parts with
      | nil => simp [join]
      | cons next parts => simp [join, ih]

theorem join_splitOn : join [c] (splitOn c t) = t := by
  rw [join_eq_intercalate, splitOn_eq_splitOn, List.intercalate_splitOn]

theorem splitOn_join {parts : List Text} (hparts : ∀ part ∈ parts, c ∉ part) (hne : parts ≠ []) :
    splitOn c (join [c] parts) = parts := by
  rw [join_eq_intercalate, splitOn_eq_splitOn, List.splitOn_intercalate c hparts hne]

/-- A character that a text is cut at separates the parts before it from those behind it. -/
theorem splitBy_append_cons {p : Char → Bool} (hc : p c = true) :
    splitBy p (s ++ c :: t) = splitBy p s ++ splitBy p t := by
  simp only [splitBy_eq_splitOnP]
  exact List.splitOnP_append_cons s t hc

theorem splitOn_append_cons : splitOn c (s ++ c :: t) = splitOn c s ++ splitOn c t :=
  splitBy_append_cons BEq.rfl

theorem splitBy_congr {p q : Char → Bool} (h : ∀ c ∈ t, p c = q c) : splitBy p t = splitBy q t := by
  induction t with
  | nil => rfl
  | cons c t ih =>
      obtain ⟨hc, ht⟩ := List.forall_mem_cons.mp h
      rw [splitBy, splitBy, hc, ih ht]

theorem splitBy_ne_nil {p : Char → Bool} : splitBy p t ≠ [] := by
  rw [splitBy_eq_splitOnP]
  exact List.splitOnP_ne_nil _ _

theorem splitOn_cons_of_ne {d : Char} (h : d ≠ c) :
    splitOn c (d :: t) = (splitOn c t).modifyHead (d :: ·) := by
  rw [splitOn, splitBy, if_neg (by simp [h])]
  cases hparts : splitBy (· == c) t with
  | nil => exact absurd hparts splitBy_ne_nil
  | cons part parts => rw [splitOn, hparts, List.modifyHead_cons]

/-- A text without the character stands in the first part. -/
theorem splitOn_append_of_not_mem (h : c ∉ s) :
    splitOn c (s ++ t) = (splitOn c t).modifyHead (s ++ ·) := by
  induction s with
  | nil =>
      rw [List.nil_append]
      cases splitOn c t <;> rfl
  | cons d s ih =>
      rw [List.mem_cons, not_or] at h
      rw [List.cons_append, splitOn_cons_of_ne (Ne.symm h.1), ih h.2, List.modifyHead_modifyHead]
      rfl

/-- No part holds a character that the text is cut at. -/
theorem not_mem_of_mem_splitBy {p : Char → Bool} {part : Text} (hc : p c = true)
    (h : part ∈ splitBy p t) : c ∉ part := by
  induction t generalizing part with
  | nil =>
      rw [List.mem_singleton.mp h]
      exact List.not_mem_nil
  | cons d t ih =>
      rw [splitBy] at h
      split at h
      · cases h with
        | head => exact List.not_mem_nil
        | tail _ h => exact ih h
      next hd =>
        cases hparts : splitBy p t with
        | nil => exact absurd hparts splitBy_ne_nil
        | cons first parts =>
            simp only [hparts, List.mem_cons] at h ih
            rcases h with rfl | h
            · rw [List.mem_cons, not_or]
              refine ⟨?_, ih (.inl rfl)⟩
              rintro rfl
              exact hd hc
            · exact ih (.inr h)

/-- The parts are pieces of the text, and the first of them starts it. -/
theorem splitBy_pieces (p : Char → Bool) (t : Text) : ∃ first parts,
    splitBy p t = first :: parts ∧ first <+: t ∧ ∀ part ∈ parts, part <:+: t := by
  induction t with
  | nil => exact ⟨[], [], rfl, List.prefix_rfl, List.forall_mem_nil _⟩
  | cons c t ih =>
      obtain ⟨first, parts, heq, hfirst, hparts⟩ := ih
      have hbehind : ∀ part ∈ parts, part <:+: c :: t :=
        fun part hpart => (hparts part hpart).trans (List.suffix_cons c t).isInfix
      rw [splitBy, heq]
      split
      · refine ⟨[], _, rfl, List.nil_prefix, List.forall_mem_cons.mpr ⟨?_, hbehind⟩⟩
        exact hfirst.isInfix.trans (List.suffix_cons c t).isInfix
      · exact ⟨c :: first, parts, rfl, (List.prefix_cons_inj c).mpr hfirst, hbehind⟩

theorem infix_of_mem_splitBy {p : Char → Bool} {part : Text} (h : part ∈ splitBy p t) :
    part <:+: t := by
  obtain ⟨first, parts, heq, hfirst, hparts⟩ := splitBy_pieces p t
  rw [heq] at h
  rcases List.mem_cons.mp h with rfl | h
  · exact hfirst.isInfix
  · exact hparts part h

theorem subset_of_mem_splitBy {p : Char → Bool} {part : Text} (h : part ∈ splitBy p t) :
    part ⊆ t :=
  (infix_of_mem_splitBy h).subset

theorem subset_of_mem_splitOn {part : Text} (h : part ∈ splitOn c t) : part ⊆ t :=
  subset_of_mem_splitBy h

theorem not_mem_of_mem_splitOn {part : Text} (h : part ∈ splitOn c t) : c ∉ part :=
  not_mem_of_mem_splitBy (p := (· == c)) BEq.rfl h

theorem splitOn_eq_singleton (h : c ∉ t) : splitOn c t = [t] := by
  rw [splitOn, splitBy_eq_splitOnP]
  refine List.splitOnP_eq_singleton fun a ha => ?_
  rw [beq_eq_false_iff_ne]
  rintro rfl
  exact h ha

theorem splitOn_ne_nil : splitOn c t ≠ [] := splitBy_ne_nil

end Signpost.Text
