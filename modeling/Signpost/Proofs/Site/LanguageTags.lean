import Signpost.Proofs.Pattern.Matching
import Signpost.Proofs.Text.Split
import Signpost.Site.Basic

/-!
# Language tags

The pattern of language tags accepts exactly the texts that, cut at their hyphens, are parts of one
to eight letters and digits, the first of letters alone.
-/

namespace Signpost.Site

open Pattern (CharSet Expr Rounds)

variable {c : Char} {chars : CharSet} {before part behind tag : Text} {n : Nat}

/-- A part of a language tag: one to eight characters that satisfy `p`. -/
def Subtag (p : Char → Bool) (part : Text) : Prop :=
  1 ≤ part.length ∧ part.length ≤ 8 ∧ ∀ c ∈ part, p c = true

/-- A language tag: parts joined by hyphens, the first of letters, the others of letters and
digits. -/
def LanguageTag (tag : Text) : Prop :=
  ∃ first rest, tag = Text.join ['-'] (first :: rest) ∧ Subtag Text.isLetter first ∧
    ∀ part ∈ rest, Subtag Text.isAlphanumeric part

/-! ## What the pattern matches -/

theorem contains_letters : letters.contains c = Text.isLetter c := by
  change _ = (decide ('A'.val ≤ c.val ∧ c.val ≤ 'Z'.val) ||
    decide ('a'.val ≤ c.val) && decide (c.val ≤ 'z'.val))
  simp [CharSet.contains, letters, UInt32.le_iff_toNat_le]

theorem contains_alphanumerics : alphanumerics.contains c = Text.isAlphanumeric c := by
  rw [Text.isAlphanumeric, ← contains_letters, Bool.or_comm]
  change _ = (decide ('0'.val ≤ c.val) && decide (c.val ≤ '9'.val) || letters.contains c)
  simp [CharSet.contains, alphanumerics, letters, UInt32.le_iff_toNat_le]

theorem contains_single {d : Char} : (CharSet.single d).contains c = true ↔ c = d := by
  simp only [CharSet.contains, CharSet.single, List.any_cons, List.any_nil, Bool.or_false,
    Bool.and_eq_true, decide_eq_true_eq, ← Char.toNat_inj]
  omega

theorem rounds_chars : Rounds (Expr.chars chars).Matches n before part behind ↔
    part.length = n ∧ ∀ c ∈ part, chars.contains c = true := by
  induction n generalizing before part with
  | zero =>
      rw [Rounds, List.length_eq_zero_iff, iff_self_and]
      rintro rfl
      exact List.forall_mem_nil _
  | succ n ih =>
      constructor
      · rintro ⟨_, rest, rfl, ⟨c, rfl, hc⟩, hrest⟩
        obtain ⟨hlength, hall⟩ := ih.mp hrest
        exact ⟨congrArg (· + 1) hlength, List.forall_mem_cons.mpr ⟨hc, hall⟩⟩
      · rintro ⟨hlength, hall⟩
        obtain ⟨c, rest, rfl⟩ := List.exists_cons_of_length_eq_add_one hlength
        obtain ⟨hc, hrest⟩ := List.forall_mem_cons.mp hall
        exact ⟨[c], rest, rfl, ⟨c, rfl, hc⟩, ih.mpr ⟨Nat.succ.inj hlength, hrest⟩⟩

theorem matches_subtagOf :
    (subtagOf chars).Matches before part behind ↔ Subtag chars.contains part := by
  constructor
  · rintro ⟨n, hleast, hmost, h⟩
    obtain ⟨rfl, hall⟩ := rounds_chars.mp h
    exact ⟨hleast, hmost 8 rfl, hall⟩
  · rintro ⟨hleast, hmost, hall⟩
    exact ⟨part.length, hleast, fun _ hm => Option.some.inj hm ▸ hmost,
      rounds_chars.mpr ⟨rfl, hall⟩⟩

/-- A hyphen and a part behind it. -/
def behindHyphen : Expr := .seq (.chars (.single '-')) (.seq (subtagOf alphanumerics) .empty)

theorem matches_behindHyphen : behindHyphen.Matches before part behind ↔
    ∃ subtag, part = '-' :: subtag ∧ Subtag Text.isAlphanumeric subtag := by
  have hchars : Subtag alphanumerics.contains = Subtag Text.isAlphanumeric :=
    congrArg Subtag (funext fun _ => contains_alphanumerics)
  constructor
  · rintro ⟨_, _, rfl, ⟨c, rfl, hc⟩, subtag, _, rfl, h, rfl⟩
    obtain rfl := contains_single.mp hc
    exact ⟨subtag, by simp, hchars ▸ matches_subtagOf.mp h⟩
  · rintro ⟨subtag, rfl, h⟩
    exact ⟨['-'], subtag, rfl, ⟨'-', rfl, contains_single.mpr rfl⟩, subtag, [], by simp,
      matches_subtagOf.mpr (hchars ▸ h), rfl⟩

theorem rounds_behindHyphen : Rounds behindHyphen.Matches n before part behind ↔
    ∃ rest : List Text, rest.length = n ∧ part = rest.flatMap ('-' :: ·) ∧
      ∀ subtag ∈ rest, Subtag Text.isAlphanumeric subtag := by
  induction n generalizing before part with
  | zero =>
      simp only [Rounds, List.length_eq_zero_iff]
      simp
  | succ n ih =>
      simp only [Rounds, matches_behindHyphen, ih]
      constructor
      · rintro ⟨_, _, rfl, ⟨subtag, rfl, hsubtag⟩, rest, rfl, rfl, hrest⟩
        exact ⟨subtag :: rest, rfl, rfl, List.forall_mem_cons.mpr ⟨hsubtag, hrest⟩⟩
      · rintro ⟨rest, hlength, rfl, hall⟩
        obtain ⟨subtag, rest, rfl⟩ := List.exists_cons_of_length_eq_add_one hlength
        obtain ⟨hsubtag, hrest⟩ := List.forall_mem_cons.mp hall
        exact ⟨_, _, rfl, ⟨subtag, rfl, hsubtag⟩, rest, Nat.succ.inj hlength, rfl, hrest⟩

theorem join_hyphen {first : Text} {rest : List Text} :
    Text.join ['-'] (first :: rest) = first ++ rest.flatMap ('-' :: ·) := by
  induction rest generalizing first with
  | nil => exact (List.append_nil first).symm
  | cons next rest ih =>
      rw [Text.join, ih, List.flatMap_cons, List.append_assoc]
      · rfl
      · exact List.cons_ne_nil _ _

theorem matches_atStart {e : Expr} : (Expr.seq (.look .textStart) e).Matches before part behind ↔
    before = [] ∧ e.Matches [] part behind := by
  constructor
  · rintro ⟨_, rest, rfl, ⟨rfl, hstart⟩, h⟩
    obtain rfl : before = [] := by simpa [Pattern.Look.holds] using hstart
    exact ⟨rfl, h⟩
  · rintro ⟨rfl, h⟩
    exact ⟨[], part, rfl, ⟨rfl, rfl⟩, h⟩

theorem matches_atEnd : (Expr.seq (.look .textEnd) .empty).Matches before part behind ↔
    part = [] ∧ behind = [] := by
  constructor
  · rintro ⟨_, _, rfl, ⟨rfl, hend⟩, rfl⟩
    exact ⟨rfl, by simpa [Pattern.Look.holds] using hend⟩
  · rintro ⟨rfl, rfl⟩
    exact ⟨[], [], rfl, ⟨rfl, rfl⟩, rfl⟩

/-- The pattern matches whole texts alone. -/
theorem matches_languageTag : languageTag.expr.Matches before part behind ↔
    before = [] ∧ behind = [] ∧ LanguageTag part := by
  have hletters : Subtag letters.contains = Subtag Text.isLetter :=
    congrArg Subtag (funext fun _ => contains_letters)
  refine matches_atStart.trans (and_congr_right fun _ => ?_)
  constructor
  · rintro ⟨first, _, rfl, hfirst, _, _, rfl, ⟨n, -, -, hrest⟩, hend⟩
    obtain ⟨rfl, rfl⟩ := matches_atEnd.mp hend
    obtain ⟨rest, -, rfl, hall⟩ := rounds_behindHyphen.mp hrest
    refine ⟨rfl, first, rest, ?_, hletters ▸ matches_subtagOf.mp hfirst, hall⟩
    rw [join_hyphen, List.append_nil]
  · rintro ⟨rfl, first, rest, rfl, hfirst, hrest⟩
    refine ⟨first, rest.flatMap ('-' :: ·), join_hyphen, matches_subtagOf.mpr (hletters ▸ hfirst),
      rest.flatMap ('-' :: ·), [], (List.append_nil _).symm, ?_, matches_atEnd.mpr ⟨rfl, rfl⟩⟩
    exact ⟨rest.length, Nat.zero_le _, fun _ hm => (nomatch hm),
      rounds_behindHyphen.mpr ⟨rest, rfl, rfl, hrest⟩⟩

theorem isLanguageTag_iff : isLanguageTag tag = true ↔ LanguageTag tag := by
  rw [isLanguageTag, Pattern.occursIn, Expr.occursIn_iff]
  simp only [matches_languageTag]
  constructor
  · rintro ⟨_, part, _, rfl, rfl, rfl, h⟩
    rwa [List.nil_append, List.append_nil]
  · intro h
    exact ⟨[], tag, [], (List.append_nil _).symm, rfl, rfl, h⟩

end Signpost.Site
