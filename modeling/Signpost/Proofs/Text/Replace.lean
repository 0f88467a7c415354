import Mathlib.Data.List.Infix
import Signpost.Text.Basic

/-!
# Replacing a part of a text

Every occurrence of a part is replaced, and nothing else changes. A part whose first character does
not come again in it has no two occurrences that overlap, so the text before its first occurrence is
simply a text in which it does not occur.
-/

namespace Signpost.Text

variable {part into front behind t rest : Text} {c : Char}

theorem replaceFrom_eq_drop (skip : Nat) :
    replaceFrom part into skip t = replace part into (t.drop skip) := by
  induction skip generalizing t with
  | zero => rfl
  | succ skip ih =>
      cases t with
      | nil => rfl
      | cons d t =>
          rw [replaceFrom, List.drop_succ_cons]
          exact ih

theorem replace_cons (h : ¬part <+: c :: t) :
    replace part into (c :: t) = c :: replace part into t := by
  have hstart : ¬startsWith part (c :: t) = true := fun hs => h (List.isPrefixOf_iff_prefix.mp hs)
  rw [replace, replaceFrom, if_neg hstart]
  rfl

theorem replace_part_append :
    replace (c :: rest) into (c :: rest ++ t) = into ++ replace (c :: rest) into t := by
  have hstart : startsWith (c :: rest) (c :: (rest ++ t)) = true :=
    List.isPrefixOf_iff_prefix.mpr (List.prefix_append _ _)
  rw [List.cons_append, replace, replaceFrom, if_pos hstart, replaceFrom_eq_drop,
    List.length_cons, Nat.add_sub_cancel, List.drop_left]

/-- A text that no occurrence starts in stays as it is. -/
theorem replace_append (h : ∀ u, u ≠ [] → u <:+ front → ¬part <+: u ++ t) :
    replace part into (front ++ t) = front ++ replace part into t := by
  induction front with
  | nil => rfl
  | cons d front ih =>
      have hfirst : ¬part <+: d :: (front ++ t) :=
        h (d :: front) (List.cons_ne_nil _ _) (List.suffix_refl _)
      rw [List.cons_append, replace_cons hfirst, ih]
      · rfl
      · exact fun u hne hu => h u hne (hu.trans (List.suffix_cons _ _))

theorem replace_append_of_not_mem (h : c ∉ front) :
    replace (c :: rest) into (front ++ t) = front ++ replace (c :: rest) into t := by
  refine replace_append fun u hne hu hpart => ?_
  obtain ⟨d, u, rfl⟩ := List.exists_cons_of_ne_nil hne
  obtain ⟨rfl, -⟩ := List.cons_prefix_cons.mp hpart
  exact h (hu.subset List.mem_cons_self)

/-- What is put in stands right behind the text before the first occurrence. -/
theorem replace_first (hc : c ∉ rest) (hfirst : ¬c :: rest <:+: front) :
    replace (c :: rest) into (front ++ (c :: rest ++ behind)) =
      front ++ (into ++ replace (c :: rest) into behind) := by
  rw [replace_append, replace_part_append]
  intro u hne hu hpart
  -- an occurrence that starts before the first would end in it, and so hold its first character
  rcases Nat.lt_or_ge u.length (c :: rest).length with hlt | hge
  · obtain ⟨d, u, rfl⟩ := List.exists_cons_of_ne_nil hne
    rw [List.length_cons, List.length_cons] at hlt
    obtain ⟨-, hrest⟩ := List.cons_prefix_cons.mp hpart
    have hstart : u ++ [c] <+: rest := by
      refine List.prefix_of_prefix_length_le ?_ hrest ?_
      · exact ⟨rest ++ behind, by simp⟩
      · rw [List.length_append, List.length_singleton]
        exact Nat.lt_of_succ_lt_succ hlt
    exact hc (hstart.subset (List.mem_append_right _ List.mem_cons_self))
  · have hinside := List.prefix_of_prefix_length_le hpart (List.prefix_append u _) hge
    exact hfirst (hinside.isInfix.trans hu.isInfix)

/-- Every character was there before or has been put in. -/
theorem mem_replaceFrom {skip : Nat} {d : Char} (h : d ∈ replaceFrom part into skip t) :
    d ∈ into ∨ d ∈ t := by
  induction t generalizing skip with
  | nil => cases skip <;> exact nomatch h
  | cons c t ih =>
      cases skip with
      | succ skip => exact (ih h).imp_right (List.mem_cons_of_mem _)
      | zero =>
          rw [replaceFrom] at h
          split at h
          · rcases List.mem_append.mp h with hinto | h
            · exact .inl hinto
            · exact (ih h).imp_right (List.mem_cons_of_mem _)
          · rcases List.mem_cons.mp h with rfl | h
            · exact .inr List.mem_cons_self
            · exact (ih h).imp_right (List.mem_cons_of_mem _)

/-- A text can be cut at the first occurrence of a part. -/
theorem exists_first (hne : part ≠ []) (h : part <:+: t) :
    ∃ front behind, t = front ++ (part ++ behind) ∧ ¬part <:+: front := by
  induction t with
  | nil => exact absurd (List.eq_nil_of_infix_nil h) hne
  | cons c t ih =>
      by_cases hstart : part <+: c :: t
      · obtain ⟨behind, hbehind⟩ := hstart
        exact ⟨[], behind, hbehind.symm, fun h => hne (List.eq_nil_of_infix_nil h)⟩
      · obtain ⟨front, behind, rfl, hfirst⟩ := ih ((List.infix_cons_iff.mp h).resolve_left hstart)
        refine ⟨c :: front, behind, rfl, fun hinside => ?_⟩
        rcases List.infix_cons_iff.mp hinside with hbegins | hinside
        · exact hstart (hbegins.trans (List.prefix_append (c :: front) _))
        · exact hfirst hinside

end Signpost.Text
