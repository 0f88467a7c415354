import Signpost.Proofs.Site.Accepted
import Signpost.Proofs.Site.LanguageTags

/-!
# The language of a site

The language of a site is checked with a pattern. What the pattern accepts is told by cutting the
language at its hyphens.
-/

namespace Signpost.Site

open Pattern (CharSet)
open Pattern.CharSet (between)

variable {tag : Text}

/-! ## The pattern -/

theorem union_letters : (between 'A' 'Z').union ((between 'a' 'z').union .empty) = letters := by
  simp [CharSet.union, CharSet.ofRanges, List.mergeSort, CharSet.coalesce, between, letters,
    CharSet.empty]

theorem union_alphanumerics :
    (between 'A' 'Z').union ((between 'a' 'z').union ((between '0' '9').union .empty)) =
      alphanumerics := by
  simp [CharSet.union, CharSet.ofRanges, List.mergeSort, CharSet.coalesce, between, alphanumerics,
    CharSet.empty]

/-- The pattern of language tags is what its source is read as. -/
theorem read_languageTag : Pattern.read languageTag.source = .ok languageTag := by
  unfold languageTag
  -- the sort in a union does not reduce, so the classes are told as the unions they are read as
  rw [← union_letters, ← union_alphanumerics]
  rfl

theorem parse_languageTag [Pattern.SizeTest] :
    Pattern.parse languageTag.source = .ok languageTag ↔
      Pattern.SizeTest.fits languageTag = true := by
  rw [Pattern.parse_eq_ok, read_languageTag, and_iff_right rfl]

/-! ## What it accepts -/

/-- The parts of a language tag are what it is cut into at its hyphens. -/
theorem languageTag_iff_splitOn : LanguageTag tag ↔
    (∀ part ∈ Text.splitOn '-' tag, Subtag Text.isAlphanumeric part) ∧
      ∀ first ∈ (Text.splitOn '-' tag).head?, ∀ c ∈ first, Text.isLetter c = true := by
  constructor
  · rintro ⟨first, rest, rfl, hfirst, hrest⟩
    have hparts : ∀ part ∈ first :: rest, '-' ∉ part := by
      refine List.forall_mem_cons.mpr ⟨fun h => ?_, fun part hpart h => ?_⟩
      · exact absurd (hfirst.2.2 _ h) (by decide)
      · exact absurd ((hrest part hpart).2.2 _ h) (by decide)
    rw [Text.splitOn_join hparts (List.cons_ne_nil _ _)]
    have hwide : Subtag Text.isAlphanumeric first :=
      ⟨hfirst.1, hfirst.2.1, fun c hc => by rw [Text.isAlphanumeric, hfirst.2.2 c hc, Bool.true_or]⟩
    refine ⟨List.forall_mem_cons.mpr ⟨hwide, hrest⟩, ?_⟩
    rintro _ ⟨⟩
    exact hfirst.2.2
  · rintro ⟨hall, hfirst⟩
    cases hparts : Text.splitOn '-' tag with
    | nil => exact absurd hparts Text.splitOn_ne_nil
    | cons first rest =>
        rw [hparts] at hall hfirst
        obtain ⟨⟨hleast, hmost, -⟩, hrest⟩ := List.forall_mem_cons.mp hall
        exact ⟨first, rest, hparts ▸ Text.join_splitOn.symm,
          ⟨hleast, hmost, hfirst first rfl⟩, hrest⟩

/-- A written language is accepted when it is blank or, trimmed and cut at its hyphens, has parts of
one to eight letters and digits, the first of letters alone. It is kept as it is, and a blank one
gives way to the default. -/
theorem resolveLang_accepts_iff (t : Text) :
    ((resolveLang (some t)).problems = [] ↔ Text.trim t = [] ∨
      (∀ part ∈ Text.splitOn '-' (Text.trim t), Subtag Text.isAlphanumeric part) ∧
        ∀ first ∈ (Text.splitOn '-' (Text.trim t)).head?, ∀ c ∈ first, Text.isLetter c = true) ∧
      (resolveLang (some t)).value = if Text.trim t = [] then defaultLang else Text.trim t := by
  rw [← languageTag_iff_splitOn, ← isLanguageTag_iff, resolveLang, optionalText, Option.map_some,
    Option.filter_some]
  by_cases hblank : Text.trim t = []
  · rw [hblank]
    exact ⟨iff_of_true rfl (.inl rfl), rfl⟩
  · rw [if_neg hblank, or_iff_right hblank, if_pos (by simpa using hblank)]
    dsimp only
    cases isLanguageTag (Text.trim t) with
    | true => exact ⟨iff_of_true rfl rfl, rfl⟩
    | false => exact ⟨iff_of_false (List.cons_ne_nil _ _) Bool.noConfusion, rfl⟩

example : (resolveLang (some " zh-Hans ".toList)) = pure "zh-Hans".toList ∧
    (resolveLang (some "en--US".toList)).problems =
      [⟨FieldPath.field [] "lang", .badLanguage "en--US".toList⟩] := by decide

end Signpost.Site
