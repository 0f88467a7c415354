import Mathlib.Data.List.Forall2
import Signpost.Proofs.Text.Percent

/-!
# Spelling a text with escapes

Any characters of a text other than its slashes may be spelled by the escapes of their bytes, with
small or capital digits. Each such spelling resolves to the text, and is cut at its slashes into
spellings of the parts that the text is cut into. The other way round, a character that a text is
resolved to stands in it or is spelled by one of its escapes.
-/

namespace Signpost.Percent

open Text (hexValue?)

variable {bytes : List Nat} {c : Char} {e s t x : Text}

/-- Characters of the first text are spelled by the escapes of their bytes in the second. -/
inductive Spells : Text → Text → Prop where
  | nil : Spells [] []
  | plain {c : Char} {s e : Text} (h : Spells s e) : Spells (c :: s) (c :: e)
  | escaped {c : Char} {x s e : Text} (hc : c ≠ '/') (hx : AreEscapes (Utf8.encodeChar c) x)
      (h : Spells s e) : Spells (c :: s) (x ++ e)

/-! ## One character -/

/-- Escapes hold percent signs and digits alone. -/
theorem AreEscapes.mem (h : AreEscapes bytes x) (hc : c ∈ x) :
    c = '%' ∨ (hexValue? c).isSome = true := by
  induction h with
  | nil => exact nomatch hc
  | cons hx _ ih =>
      rcases List.mem_append.mp hc with hc | hc
      · obtain ⟨high, low, rfl, hhigh, hlow⟩ := hx
        simp only [List.mem_cons, List.not_mem_nil, or_false] at hc
        rcases hc with rfl | rfl | rfl
        · exact .inl rfl
        · exact .inr (by rw [hhigh]; rfl)
        · exact .inr (by rw [hlow]; rfl)
      · exact ih hc

theorem AreEscapes.percent_mem (h : AreEscapes (Utf8.encodeChar c) x) : '%' ∈ x := by
  generalize hbytes : Utf8.encodeChar c = bytes at h
  cases h with
  | nil => exact absurd hbytes Utf8.encodeChar_ne_nil
  | cons hx _ =>
      obtain ⟨high, low, rfl, -, -⟩ := hx
      exact List.mem_append_left _ List.mem_cons_self

theorem AreEscapes.slash_not_mem (h : AreEscapes bytes x) : '/' ∉ x := by
  intro hslash
  rcases h.mem hslash with hc | hc
  · exact absurd hc (by decide)
  · exact nomatch hc

/-! ## Texts -/

theorem Spells.refl : Spells s s := by
  induction s with
  | nil => exact .nil
  | cons c s ih => exact .plain ih

/-- The characters of a spelling are those of the text, percent signs and digits. -/
theorem Spells.mem (h : Spells s e) (hc : c ∈ e) :
    c ∈ s ∨ c = '%' ∨ (hexValue? c).isSome = true := by
  induction h with
  | nil => exact nomatch hc
  | plain _ ih =>
      rcases List.mem_cons.mp hc with rfl | hc
      · exact .inl List.mem_cons_self
      · exact (ih hc).imp_left (List.mem_cons_of_mem _)
  | escaped _ hx _ ih =>
      rcases List.mem_append.mp hc with hc | hc
      · exact .inr (hx.mem hc)
      · exact (ih hc).imp_left (List.mem_cons_of_mem _)

theorem Spells.eq_nil_iff (h : Spells s e) : e = [] ↔ s = [] := by
  cases h with
  | nil => simp
  | plain _ => simp
  | escaped _ hx _ => simp [List.ne_nil_of_mem hx.percent_mem]

/-- A slash in front stands for itself. -/
theorem Spells.of_slash (h : Spells s ('/' :: x)) : ∃ r, s = '/' :: r ∧ Spells r x := by
  generalize heq : '/' :: x = e at h
  cases h with
  | nil => exact nomatch heq
  | plain h =>
      cases heq
      exact ⟨_, rfl, h⟩
  | @escaped c y s e _ hy _ =>
      cases y with
      | nil => exact absurd hy.percent_mem List.not_mem_nil
      | cons d y =>
          obtain ⟨rfl, -⟩ := List.cons.inj heq
          exact absurd List.mem_cons_self hy.slash_not_mem

/-- The last character of a spelling is that of the text, or belongs to an escape. -/
theorem Spells.last (h : Spells s e) (hc : c ∈ e.getLast?) :
    c ∈ s.getLast? ∨ c = '%' ∨ (hexValue? c).isSome = true := by
  induction h with
  | nil => exact nomatch hc
  | @plain d s e h ih =>
      by_cases he : e = []
      · rw [he] at hc
        rw [h.eq_nil_iff.mp he]
        exact .inl hc
      · have hs : s ≠ [] := fun hs => he (h.eq_nil_iff.mpr hs)
        rw [List.getLast?_cons_of_ne_nil he] at hc
        rw [List.getLast?_cons_of_ne_nil hs]
        exact ih hc
  | @escaped d x s e _ hx h ih =>
      by_cases he : e = []
      · rw [he, List.append_nil] at hc
        exact .inr (hx.mem (List.mem_of_getLast? hc))
      · have hs : s ≠ [] := fun hs => he (h.eq_nil_iff.mpr hs)
        rw [List.getLast?_append_of_ne_nil _ he] at hc
        rw [List.getLast?_cons_of_ne_nil hs]
        exact ih hc

/-- A spelling without percent signs is the text. -/
theorem Spells.eq_of_not_mem (h : Spells s e) (hpercent : '%' ∉ e) : e = s := by
  induction h with
  | nil => rfl
  | plain _ ih => rw [ih fun hmem => hpercent (List.mem_cons_of_mem _ hmem)]
  | escaped _ hx _ _ => exact absurd (List.mem_append_left _ hx.percent_mem) hpercent

/-- A spelling of a text without percent signs resolves to it. -/
theorem Spells.decode? (h : Spells s e) (hpercent : '%' ∉ s) : Percent.decode? e = some s := by
  rw [decode?_eq_some]
  induction h with
  | nil => rfl
  | @plain c _ _ _ ih =>
      rw [List.mem_cons, not_or] at hpercent
      have hc : 0x25 ∉ Utf8.encodeChar c := percent_not_mem_encodeChar (Ne.symm hpercent.1)
      rw [Utf8.encode_cons, Utf8.encode_cons, decodeBytes_append_of_not_mem hc, ih hpercent.2]
  | escaped _ hx _ ih =>
      rw [List.mem_cons, not_or] at hpercent
      rw [Utf8.encode_append, hx.decodeBytes, ih hpercent.2, Utf8.encode_cons]

/-- Spelling every character as escapes for which a condition holds is one of the spellings. -/
theorem spells_encode {escaped : Char → Bool} (hslash : escaped '/' = false) :
    Spells s (encode escaped s) := by
  induction s with
  | nil => exact .nil
  | cons c s ih =>
      rw [encode_cons, encodeChar]
      split
      · exact .plain ih
      next hc =>
        refine .escaped ?_ (areEscapes_flatMap fun b => Utf8.lt_of_mem_encodeChar) ih
        rintro rfl
        exact hc (by rw [hslash]; rfl)

/-! ## Cutting at slashes -/

theorem forall₂_modifyHead {R : Text → Text → Prop} {f g : Text → Text} {parts parts' : List Text}
    (h : List.Forall₂ R parts parts') (hR : ∀ a b, R a b → R (f a) (g b)) :
    List.Forall₂ R (parts.modifyHead f) (parts'.modifyHead g) := by
  cases h with
  | nil => exact .nil
  | cons hpart hparts => exact .cons (hR _ _ hpart) hparts

/-- A spelling is cut where the text is. -/
theorem Spells.splitOn (h : Spells s e) :
    List.Forall₂ Spells (Text.splitOn '/' s) (Text.splitOn '/' e) := by
  induction h with
  | nil => exact .cons .nil .nil
  | @plain c s e _ ih =>
      by_cases hc : c = '/'
      · subst hc
        exact .cons .nil ih
      · rw [Text.splitOn_cons_of_ne hc, Text.splitOn_cons_of_ne hc]
        exact forall₂_modifyHead ih fun _ _ => .plain
  | escaped hc hx _ ih =>
      rw [Text.splitOn_cons_of_ne hc, Text.splitOn_append_of_not_mem hx.slash_not_mem]
      exact forall₂_modifyHead ih fun _ _ => .escaped hc hx

/-! ## Characters that escapes spell -/

variable {b : Nat} {d : Char} {u : Text}

/-- A byte that is no digit stands among the bytes themselves, or an escape spells it. -/
theorem mem_decodeBytes_iff (hb : b ≠ 0x25) (hdigit : hexValue? (Char.ofNat b) = none) :
    b ∈ decodeBytes bytes ↔ b ∈ bytes ∨ ∃ front rest behind,
      bytes = front ++ 0x25 :: rest ∧ spelled? rest = some (b, behind) := by
  constructor
  · intro hmem
    induction bytes using escapeInduction with
    | nil => cases hmem
    | plain a rest hplain ih =>
        rw [decodeBytes_plain hplain] at hmem
        rcases List.mem_cons.mp hmem with rfl | hmem
        · exact .inl List.mem_cons_self
        · rcases ih hmem with hrest | ⟨front, behind, after, rfl, hspelled⟩
          · exact .inl (List.mem_cons_of_mem _ hrest)
          · exact .inr ⟨a :: front, behind, after, rfl, hspelled⟩
    | escape rest byte behind hspelled ih =>
        rw [decodeBytes_escape hspelled] at hmem
        rcases List.mem_cons.mp hmem with rfl | hmem
        · exact .inr ⟨[], rest, behind, rfl, hspelled⟩
        · obtain ⟨high, low, -, -, rfl, -⟩ := spelled?_eq_some.mp hspelled
          rcases ih hmem with hbehind | ⟨front, last, after, rfl, hlast⟩
          · exact .inl (List.mem_append_right [0x25, high, low] hbehind)
          · exact .inr ⟨0x25 :: high :: low :: front, last, after, rfl, hlast⟩
  · rintro (hmem | ⟨front, rest, behind, rfl, hspelled⟩)
    · obtain ⟨front, rest, rfl⟩ := List.append_of_mem hmem
      rw [decodeBytes_append_cons hdigit, decodeBytes_plain fun h => absurd h hb]
      exact List.mem_append_right _ List.mem_cons_self
    · rw [decodeBytes_append_cons (by rfl), decodeBytes_escape hspelled]
      exact List.mem_append_right _ List.mem_cons_self

theorem mem_encode_iff (hd : d.toNat < 0x80) : d.toNat ∈ Utf8.encode t ↔ d ∈ t := by
  constructor
  · intro hmem
    obtain ⟨front, rest, hbytes⟩ := List.append_of_mem hmem
    obtain ⟨s₁, s₂, rfl, -, -⟩ := (Utf8.encode_eq_append_cons hd).mp hbytes
    exact List.mem_append_right _ List.mem_cons_self
  · intro hmem
    obtain ⟨s₁, s₂, rfl⟩ := List.append_of_mem hmem
    rw [(Utf8.encode_eq_append_cons hd).mpr ⟨s₁, s₂, rfl, rfl, rfl⟩]
    exact List.mem_append_right _ List.mem_cons_self

/-- Two digits behind a percent sign are the escape of the byte that they spell. -/
theorem isEscape_of_spelled? {behind : List Nat} (h : spelled? (Utf8.encode t) = some (b, behind)) :
    ∃ x, IsEscape b ('%' :: x) ∧ x <+: t := by
  obtain ⟨high, low, m, n, rest, rfl, hhigh, hlow, rfl, -⟩ := spelled?_encode_eq_some.mp h
  have hn := (Text.hexValue?_eq_some.mp hlow).1
  refine ⟨[high, low], ⟨high, low, rfl, ?_, ?_⟩, rest, rfl⟩
  · rw [hhigh]
    congr 1
    omega
  · rw [hlow]
    congr 1
    omega

theorem IsEscape.spelled? (h : IsEscape b x) :
    ∃ y, x = '%' :: y ∧ spelled? (Utf8.encode (y ++ t)) = some (b, Utf8.encode t) := by
  obtain ⟨high, low, rfl, hhigh, hlow⟩ := h
  refine ⟨[high, low], rfl, spelled?_encode_eq_some.mpr ?_⟩
  exact ⟨high, low, b / 16, b % 16, t, rfl, hhigh, hlow, by omega, rfl⟩

/-- An ASCII character that is no digit comes from the text itself or from an escape. -/
theorem mem_decode?_iff (h : decode? t = some u) (hd : d.toNat < 0x80) (hpercent : d ≠ '%')
    (hdigit : hexValue? d = none) : d ∈ u ↔ d ∈ t ∨ ∃ x, IsEscape d.toNat x ∧ x <:+: t := by
  have hb : d.toNat ≠ 0x25 := fun hb => hpercent (by rw [← Char.ofNat_toNat d, hb])
  rw [← mem_encode_iff hd, ← decode?_eq_some.mp h,
    mem_decodeBytes_iff hb (by rw [Char.ofNat_toNat, hdigit]), mem_encode_iff hd]
  refine or_congr_right ⟨?_, ?_⟩
  · rintro ⟨front, rest, behind, hbytes, hspelled⟩
    obtain ⟨s₁, s₂, rfl, -, rfl⟩ := (Utf8.encode_eq_append_cons (d := '%') (by decide)).mp hbytes
    obtain ⟨x, hx, y, rfl⟩ := isEscape_of_spelled? hspelled
    exact ⟨'%' :: x, hx, s₁, y, by simp⟩
  · rintro ⟨x, hx, s₁, s₂, rfl⟩
    obtain ⟨y, rfl, hspelled⟩ := hx.spelled? (t := s₂)
    refine ⟨Utf8.encode s₁, Utf8.encode (y ++ s₂), Utf8.encode s₂, ?_, hspelled⟩
    rw [List.append_assoc, Utf8.encode_append]
    rfl

end Signpost.Percent
