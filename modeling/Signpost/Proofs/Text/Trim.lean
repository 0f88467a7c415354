import Mathlib.Data.List.DropRight
import Signpost.Text.Basic

/-!
# Trimmed texts

What is left of a text when white space is dropped around it stays the same when that is done again,
and so does a text that was given a slash at its end.
-/

namespace Signpost.Text

variable {p : Char → Bool} {t : Text}

theorem forall_of_any_eq_false (h : t.any p = false) : ∀ c ∈ t, p c = false := by
  intro c hc
  exact Bool.eq_false_iff.mpr (List.any_eq_false.mp h c hc)

/-- Reading up to a character stops where a text behind starts, if that starts with such a one. -/
theorem while_append {r : Text} (hr : ∀ c ∈ r.head?, p c = false) :
    (t ++ r).takeWhile p = t.takeWhile p ∧ (t ++ r).dropWhile p = t.dropWhile p ++ r := by
  induction t with
  | nil =>
      cases r with
      | nil => exact ⟨rfl, rfl⟩
      | cons c r =>
          have hc := hr c rfl
          simp [hc]
  | cons c t ih =>
      cases hc : p c <;> simp [hc, ih]

theorem trimEndBy_eq_rdropWhile : trimEndBy p t = t.rdropWhile p := rfl

/-- A text is unchanged by trimming when neither its first nor its last character is dropped. -/
theorem trimBy_eq_self (first : t.dropWhile p = t) (last : t.rdropWhile p = t) :
    trimBy p t = t := by
  rw [trimBy, trimStartBy, first, trimEndBy_eq_rdropWhile, last]

theorem dropWhile_rdropWhile (h : t.dropWhile p = t) :
    (t.rdropWhile p).dropWhile p = t.rdropWhile p := by
  rw [List.dropWhile_eq_self_iff] at h ⊢
  intro hl
  have hpre := List.rdropWhile_prefix p t
  have hlt : 0 < t.length := Nat.lt_of_lt_of_le hl hpre.length_le
  rw [hpre.getElem hl]
  exact h hlt

theorem trimBy_trimBy : trimBy p (trimBy p t) = trimBy p t := by
  refine trimBy_eq_self ?_ (List.rdropWhile_idempotent _ _)
  exact dropWhile_rdropWhile (List.dropWhile_idempotent _ _)

theorem trim_subset : trim t ⊆ t := by
  have hend : trim t <+: trimStartBy isBlank t := List.rdropWhile_prefix _ _
  exact List.Subset.trans hend.subset (List.dropWhile_suffix _).subset

/-- A trimmed text ends in no white space. -/
theorem last_trim : ∀ c ∈ (trim t).getLast?, isBlank c = false := by
  intro c hc
  have hlast : (trim t).rdropWhile isBlank = trim t := List.rdropWhile_idempotent isBlank _
  rw [List.rdropWhile_eq_self_iff] at hlast
  obtain ⟨lead, hlead⟩ := List.getLast?_eq_some_iff.mp hc
  have hne : trim t ≠ [] := hlead ▸ List.append_ne_nil_of_right_ne_nil _ (List.cons_ne_nil _ _)
  have hc : (trim t).getLast hne = c := by simp [hlead]
  rw [← hc]
  exact Bool.eq_false_iff.mpr (hlast hne)

theorem trim_trim : trim (trim t) = trim t := trimBy_trimBy

/-- A text without white space is trimmed. -/
theorem trim_eq_self_of_unspaced (h : t.any isBlank = false) : trim t = t := by
  have hnot : ∀ c ∈ t, isBlank c = false := by simpa using h
  refine trimBy_eq_self ?_ ?_
  · rw [List.dropWhile_eq_self_iff]
    intro hl
    simp [hnot _ (List.getElem_mem hl)]
  · rw [List.rdropWhile_eq_self_iff]
    intro hl
    simp [hnot _ (List.getLast_mem hl)]

/-- A text of white space alone. -/
def Blank (t : Text) : Prop := ∀ c ∈ t, isBlank c = true

theorem trim_eq_nil : trim t = [] ↔ Blank t := by
  rw [trim, trimBy, trimStartBy, trimEndBy_eq_rdropWhile, List.rdropWhile_eq_nil_iff]
  constructor
  · intro h
    -- the part that is left in front would start with a character that is dropped
    have hnil : t.dropWhile isBlank = [] := by
      by_contra hne
      have hpos := List.length_pos_iff.mpr hne
      exact List.dropWhile_get_zero_not isBlank t hpos (h _ (List.getElem_mem hpos))
    exact List.dropWhile_eq_nil_iff.mp hnil
  · intro h c hc
    exact h c ((List.dropWhile_suffix isBlank).subset hc)

/-- What stands between two texts, and is not dropped, is kept with the text before it. -/
theorem trimBy_append_cons {c : Char} {r : Text} (hc : p c = false) :
    trimBy p (t ++ c :: r) = trimStartBy p t ++ c :: trimEndBy p r := by
  have hstop {s : Text} : ∀ d ∈ (c :: s).head?, p d = false := by
    rintro _ ⟨⟩
    exact hc
  rw [trimBy, trimStartBy, (while_append hstop).2, trimEndBy, List.reverse_append,
    List.reverse_cons, List.append_assoc, List.singleton_append, (while_append hstop).2]
  simp [trimStartBy, trimEndBy]

/-- The end of a text stays when its last character is not dropped. -/
theorem trimBy_eq_trimStartBy (h : ∀ c ∈ t.getLast?, p c = false) :
    trimBy p t = trimStartBy p t := by
  rw [trimBy, trimEndBy_eq_rdropWhile, List.rdropWhile_eq_self_iff]
  intro hne
  have hmem : (trimStartBy p t).getLast hne ∈ t.getLast? := by
    obtain ⟨front, hfront⟩ : trimStartBy p t <:+ t := List.dropWhile_suffix p
    have hlast := List.getLast?_append_of_ne_nil front hne
    rw [hfront] at hlast
    rw [hlast]
    exact List.getLast?_eq_some_getLast hne
  rw [h _ hmem]
  exact Bool.false_ne_true

/-! ## The slash at the end -/

theorem withTrailingSlash_eq : withTrailingSlash t = t ∨ withTrailingSlash t = t ++ ['/'] := by
  rw [withTrailingSlash]
  split
  · exact .inl rfl
  · exact .inr rfl

theorem endsWith_slash : endsWith ['/'] t = true ↔ ∃ front, t = front ++ ['/'] := by
  rw [endsWith, List.isSuffixOf_iff_suffix]
  constructor
  · rintro ⟨front, rfl⟩
    exact ⟨front, rfl⟩
  · rintro ⟨front, rfl⟩
    exact List.suffix_append _ _

theorem withTrailingSlash_cases : ((∃ front, t = front ++ ['/']) ∧ withTrailingSlash t = t) ∨
    ((¬∃ front, t = front ++ ['/']) ∧ withTrailingSlash t = t ++ ['/']) := by
  rw [withTrailingSlash, ← endsWith_slash]
  split
  next h => exact .inl ⟨h, rfl⟩
  next h => exact .inr ⟨h, rfl⟩

theorem withTrailingSlash_starts : withTrailingSlash t <+: t ++ ['/'] := by
  rcases withTrailingSlash_eq (t := t) with heq | heq
  · exact ⟨['/'], by rw [heq]⟩
  · exact ⟨[], by rw [heq, List.append_nil]⟩

theorem withTrailingSlash_cons (c : Char) (t : Text) :
    ∃ behind, withTrailingSlash (c :: t) = c :: behind := by
  rcases withTrailingSlash_eq (t := c :: t) with heq | heq
  · exact ⟨_, heq⟩
  · exact ⟨_, heq⟩

theorem withTrailingSlash_append_slash : withTrailingSlash (t ++ ['/']) = t ++ ['/'] :=
  if_pos (endsWith_slash.mpr ⟨t, rfl⟩)

theorem endsWith_withTrailingSlash : endsWith ['/'] (withTrailingSlash t) = true := by
  rw [withTrailingSlash]
  split
  · assumption
  · exact List.isSuffixOf_iff_suffix.mpr (List.suffix_append _ _)

theorem withTrailingSlash_eq_append (t : Text) : ∃ front, withTrailingSlash t = front ++ ['/'] :=
  endsWith_slash.mp endsWith_withTrailingSlash

/-- Only the text behind decides on the slash, unless it is empty. -/
theorem withTrailingSlash_append {s : Text} (h : t = [] → s.getLast? ≠ some '/') :
    withTrailingSlash (s ++ t) = s ++ withTrailingSlash t := by
  rcases withTrailingSlash_cases (t := t) with ⟨⟨front, rfl⟩, heq⟩ | ⟨hnot, heq⟩
  · rw [heq, ← List.append_assoc, withTrailingSlash_append_slash]
  · rw [heq, withTrailingSlash, if_neg, List.append_assoc]
    rw [endsWith_slash, ← List.getLast?_eq_some_iff]
    by_cases hnil : t = []
    · rw [hnil, List.append_nil]
      exact h hnil
    · rw [List.getLast?_append_of_ne_nil _ hnil]
      exact fun hlast => hnot (List.getLast?_eq_some_iff.mp hlast)

theorem withTrailingSlash_withTrailingSlash :
    withTrailingSlash (withTrailingSlash t) = withTrailingSlash t := if_pos endsWith_withTrailingSlash

theorem startsWith_withTrailingSlash {lead : Text} (h : startsWith lead t = true) :
    startsWith lead (withTrailingSlash t) = true := by
  rcases withTrailingSlash_eq (t := t) with heq | heq
  · rw [heq]
    exact h
  · rw [heq, startsWith, List.isPrefixOf_iff_prefix]
    exact (List.isPrefixOf_iff_prefix.mp h).trans (List.prefix_append _ _)

theorem unspaced_withTrailingSlash (h : t.any isBlank = false) :
    (withTrailingSlash t).any isBlank = false := by
  rcases withTrailingSlash_eq (t := t) with heq | heq
  · rw [heq]
    exact h
  · rw [heq, List.any_append, h]
    rfl

end Signpost.Text
