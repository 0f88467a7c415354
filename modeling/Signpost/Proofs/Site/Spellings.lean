import Signpost.Proofs.PagePath
import Signpost.Proofs.Site.Rules
import Signpost.Proofs.Site.Queries
import Signpost.Proofs.Url.Drives

/-!
# Spellings of page paths

A plain page path and its spellings with escapes are one page, and as sidebar keys they declare one
area, unless in the plain spelling two dots meet a drive letter. Two dots do not take a drive letter
back, and a drive letter with an escape is none.
-/

namespace Signpost.PagePath

open Percent (Spells)
open Url (Alike Freed Respelled meetsDrive settleSegments)

variable {e r s x : Text} {parts parts' texts : List Text}

/-- An absolute path that is written without escapes, backslashes, query and fragment. -/
structure Unescaped (s : Text) : Prop where
  absolute : ['/'] <+: s
  single : ¬['/', '/'] <+: s
  chars : ∀ c ∈ s, Text.isControl c = false ∧ c ≠ '%' ∧ c ≠ '?' ∧ c ≠ '#' ∧ c ≠ '\\'
  last : ∀ c ∈ s.getLast?, Text.isBlank c = false

theorem unescaped_iff : Unescaped s ↔ ['/'] <+: s ∧ ¬['/', '/'] <+: s ∧
    (s.all fun c => !Text.isControl c && c != '%' && c != '?' && c != '#' && c != '\\') = true ∧
      (s.getLast?.all fun c => !Text.isBlank c) = true := by
  simp only [List.all_eq_true, Option.all_eq_true, Bool.and_eq_true, Bool.not_eq_true', bne_iff_ne,
    and_assoc]
  constructor
  · exact fun h => ⟨h.absolute, h.single, h.chars, h.last⟩
  · exact fun ⟨habsolute, hsingle, hchars, hlast⟩ => ⟨habsolute, hsingle, hchars, hlast⟩

instance : Decidable (Unescaped s) := decidable_of_iff _ unescaped_iff.symm

/-- In the path two dots meet a drive letter. -/
def MeetsDrive (s : Text) : Prop := meetsDrive [] (Text.splitOn '/' s.tail) = true

instance : Decidable (MeetsDrive s) := inferInstanceAs (Decidable (_ = true))

/-! ## Reading a spelling -/

theorem plain_of_isHexDigit {c : Char} (h : c = '%' ∨ (Text.hexValue? c).isSome = true) :
    Text.isControl c = false ∧ c ≠ '/' ∧ c ≠ '?' ∧ c ≠ '#' ∧ c ≠ '\\' ∧ Text.isBlank c = false := by
  rcases h with rfl | h
  · decide
  · obtain ⟨n, hn⟩ := Option.isSome_iff_exists.mp h
    obtain ⟨hlt, hc⟩ := Text.hexValue?_eq_some.mp hn
    have hdigits : ∀ n < 16, ∀ c, (c = Nat.digitChar n ∨ c = (Nat.digitChar n).toUpper) →
        Text.isControl c = false ∧ c ≠ '/' ∧ c ≠ '?' ∧ c ≠ '#' ∧ c ≠ '\\' ∧
          Text.isBlank c = false := by
      intro n hn c hc
      rcases hc with rfl | rfl <;> revert n <;> decide
    exact hdigits n hlt c hc

/-- A spelling starts with the slash of the path, and what follows is a spelling of what follows. -/
theorem Unescaped.exists_cons (h : Unescaped s) (he : Spells s e) :
    ∃ r x, s = '/' :: r ∧ e = '/' :: x ∧ Spells r x := by
  obtain ⟨r, rfl⟩ := h.absolute
  cases he with
  | plain he => exact ⟨r, _, rfl, rfl, he⟩
  | escaped hc _ _ => exact absurd rfl hc

theorem Unescaped.plain (h : Unescaped s) (he : Spells s e) : Plain e := by
  obtain ⟨r, x, -, rfl, -⟩ := h.exists_cons he
  refine ⟨⟨x, rfl⟩, fun c hc => ?_, fun c hc => ?_⟩
  · rcases he.mem hc with hc | hc
    · obtain ⟨hcontrol, -, hquery, hfragment, -⟩ := h.chars c hc
      exact ⟨hcontrol, hquery, hfragment⟩
    · obtain ⟨hcontrol, -, hquery, hfragment, -⟩ := plain_of_isHexDigit hc
      exact ⟨hcontrol, hquery, hfragment⟩
  · rcases he.last hc with hc | hc
    · exact h.last c hc
    · exact (plain_of_isHexDigit hc).2.2.2.2.2

theorem Unescaped.backslash_not_mem (h : Unescaped s) (he : Spells s e) : '\\' ∉ e := by
  intro hmem
  rcases he.mem hmem with hc | hc
  · exact (h.chars _ hc).2.2.2.2 rfl
  · exact (plain_of_isHexDigit hc).2.2.2.2.1 rfl

/-- The second character of a spelling is no slash. -/
theorem Unescaped.head (h : Unescaped s) (he : Spells s ('/' :: x)) :
    ∀ c ∈ x.head?, Url.isSlash .web c = false := by
  intro c hc
  obtain ⟨x, rfl⟩ := List.head?_eq_some_iff.mp hc
  have hbackslash : c ≠ '\\' := by
    rintro rfl
    exact h.backslash_not_mem he (List.mem_cons_of_mem _ List.mem_cons_self)
  have hslash : c ≠ '/' := by
    rintro rfl
    obtain ⟨r, rfl, hr⟩ := he.of_slash
    obtain ⟨r, rfl, -⟩ := hr.of_slash
    exact h.single (by simp)
  simp [Url.isSlash, hbackslash, hslash]

/-- The path of a spelling is settled from the parts of the spelling. -/
theorem Unescaped.undecoded_eq (h : Unescaped s) (he : Spells s ('/' :: x)) :
    undecoded ('/' :: x) =
      (UrlPath.segments (settleSegments .web [] (Text.splitOn '/' x))).render := by
  have hplain := h.plain he
  have hends : ∀ c ∈ x, Url.isPathEnd c = false := fun c hc =>
    hplain.isPathEnd c (List.mem_cons_of_mem _ hc)
  have hsplit : Text.splitBy (Url.isSlash .web) x = Text.splitOn '/' x := by
    refine Text.splitBy_congr fun c hc => ?_
    have hbackslash : c ≠ '\\' := by
      rintro rfl
      exact h.backslash_not_mem he (List.mem_cons_of_mem _ hc)
    rw [Url.isSlash, decide_eq_false hbackslash, Bool.and_false, Bool.or_false]
    rfl
  rw [hplain.undecoded_path (h.head he), Url.readPath_web]
  change (UrlPath.segments (Url.readSegments .web [] x)).render = _
  rw [Url.readSegments_web hends, hsplit]

/-! ## What a spelling is resolved to -/

theorem Unescaped.chars_of_mem_splitOn {part : Text} (h : Unescaped ('/' :: r))
    (hpart : part ∈ Text.splitOn '/' r) :
    ∀ c ∈ part, c ≠ '%' ∧ c ≠ '/' ∧ c ≠ '\\' ∧ c ≠ '?' ∧ c ≠ '#' := by
  intro c hc
  obtain ⟨-, hpercent, hquery, hfragment, hbackslash⟩ :=
    h.chars c (List.mem_cons_of_mem _ (Text.subset_of_mem_splitOn hpart hc))
  have hslash : c ≠ '/' := by
    rintro rfl
    exact Text.not_mem_of_mem_splitOn hpart hc
  exact ⟨hpercent, hslash, hbackslash, hquery, hfragment⟩

theorem Unescaped.respelled (h : Unescaped s) (he : Spells s ('/' :: x)) :
    List.Forall₂ Respelled (Text.splitOn '/' s.tail) (Text.splitOn '/' x) := by
  obtain ⟨r, rfl, hr⟩ := he.of_slash
  have hchars := fun part (hpart : part ∈ Text.splitOn '/' r) => h.chars_of_mem_splitOn hpart
  refine ((List.forall₂_and_left _ _).mpr ⟨hchars, hr.splitOn⟩).imp ?_
  exact fun part part' hboth => ⟨hboth.2, hboth.1⟩

/-- A segment that resolves to a text that no path is cut at. -/
def Resolves (part : Text) : Prop :=
  ∃ t, Percent.decode? part = some t ∧ ∀ c ∈ t, c ≠ '/' ∧ c ≠ '?' ∧ c ≠ '#'

theorem Unescaped.resolves (h : Unescaped s) (he : Spells s ('/' :: x)) :
    ∀ part ∈ settleSegments .web [] (Text.splitOn '/' x), Resolves part := by
  refine Url.forall_settleSegments ⟨[], rfl, List.forall_mem_nil _⟩ (List.forall_mem_nil _) ?_
  refine forall_mem_of_accepted (h.respelled he) fun s e hsegment _ _ done => ?_
  refine ⟨s, hsegment.decode?_encode, fun c hc => ?_⟩
  obtain ⟨-, hslash, -, hquery, hfragment⟩ := hsegment.chars c hc
  exact ⟨hslash, hquery, hfragment⟩

theorem exists_texts (h : ∀ part ∈ parts, Resolves part) :
    ∃ texts, parts.mapM Percent.decode? = some texts ∧ texts.length = parts.length ∧
      ∀ t ∈ texts, ∀ c ∈ t, c ≠ '/' ∧ c ≠ '?' ∧ c ≠ '#' := by
  induction parts with
  | nil => exact ⟨[], rfl, rfl, List.forall_mem_nil _⟩
  | cons part parts ih =>
      obtain ⟨⟨t, ht, hchars⟩, hparts⟩ := List.forall_mem_cons.mp h
      obtain ⟨texts, hmap, hlength, htexts⟩ := ih hparts
      refine ⟨t :: texts, ?_, ?_, List.forall_mem_cons.mpr ⟨hchars, htexts⟩⟩
      · rw [List.mapM_cons, ht, hmap]
        rfl
      · rw [List.length_cons, List.length_cons, hlength]

theorem mapM_decode?_congr (h : List.Forall₂ Alike parts parts') :
    parts'.mapM Percent.decode? = parts.mapM Percent.decode? := by
  induction h with
  | nil => rfl
  | cons hpart _ ih => rw [List.mapM_cons, List.mapM_cons, ih, hpart.resolved]

theorem count_slash_render (h : ∀ t ∈ texts, ∀ c ∈ t, c ≠ '/' ∧ c ≠ '?' ∧ c ≠ '#') :
    (UrlPath.segments texts).render.count '/' = texts.length := by
  induction texts with
  | nil => rfl
  | cons t texts ih =>
      obtain ⟨ht, htexts⟩ := List.forall_mem_cons.mp h
      have hrender : (UrlPath.segments (t :: texts)).render =
          '/' :: (t ++ (UrlPath.segments texts).render) := rfl
      have hnone : t.count '/' = 0 := List.count_eq_zero.mpr fun hmem => (ht _ hmem).1 rfl
      rw [hrender, List.count_cons_self, List.count_append, hnone, ih htexts, List.length_cons,
        Nat.zero_add]

/-- A spelling is normalized to its segments as they resolve. -/
theorem Unescaped.normalize_spelling (h : Unescaped s) (he : Spells s ('/' :: x)) :
    ∃ texts, (settleSegments .web [] (Text.splitOn '/' x)).mapM Percent.decode? = some texts ∧
      texts.length = (settleSegments .web [] (Text.splitOn '/' x)).length ∧
      (∀ t ∈ texts, ∀ c ∈ t, c ≠ '/' ∧ c ≠ '?' ∧ c ≠ '#') ∧
      normalize ('/' :: x) = (UrlPath.segments texts).render := by
  obtain ⟨texts, hmap, hlength, hchars⟩ := exists_texts (h.resolves he)
  refine ⟨texts, hmap, hlength, hchars, ?_⟩
  have habsolute : ∃ rest, undecoded ('/' :: x) = '/' :: rest := by
    rw [(h.plain he).undecoded_path (h.head he)]
    exact Url.render_readPath_cons
  rw [(h.plain he).normalize habsolute, h.undecoded_eq he, Url.decode?_render, hmap]
  rfl

theorem Unescaped.normalize_eq (h : Unescaped s) (he : Spells s e) (hmeets : ¬MeetsDrive s) :
    normalize e = normalize s := by
  obtain ⟨r, x, rfl, rfl, -⟩ := h.exists_cons he
  obtain ⟨texts, hmap, -, -, heq⟩ := h.normalize_spelling he
  obtain ⟨texts', hmap', -, -, heq'⟩ := h.normalize_spelling (.refl (s := '/' :: r))
  have halike := Url.alike_settleSegments .nil (h.respelled he) (Bool.eq_false_iff.mpr hmeets)
  rw [mapM_decode?_congr halike] at hmap
  rw [heq, heq', Option.some.inj (hmap.symm.trans hmap')]

/-- Where two dots meet a drive letter, the spelling by escapes has a segment less. -/
theorem Unescaped.exists_normalize_ne (h : Unescaped s) (hmeets : MeetsDrive s) :
    ∃ e, Spells s e ∧ normalize e ≠ normalize s := by
  obtain ⟨r, -, rfl, -, -⟩ := h.exists_cons .refl
  have he : Spells ('/' :: r) ('/' :: Percent.encode (· != '/') r) :=
    .plain (Percent.spells_encode rfl)
  have hfreed : List.Forall₂ Freed (Text.splitOn '/' r)
      (Text.splitOn '/' (Percent.encode (· != '/') r)) := by
    rw [Percent.splitOn_encode rfl, List.forall₂_map_right_iff, List.forall₂_same]
    exact fun part hpart => Respelled.freed ⟨.refl, h.chars_of_mem_splitOn hpart⟩
  have hlt : (settleSegments .web []
      (Text.splitOn '/' (Percent.encode (· != '/') r))).length <
        (settleSegments .web [] (Text.splitOn '/' r)).length :=
    Url.length_settleSegments_lt (Nat.le_refl 0) (List.forall_mem_nil _) hfreed hmeets
  obtain ⟨texts, -, hlength, hchars, heq⟩ := h.normalize_spelling he
  obtain ⟨texts', -, hlength', hchars', heq'⟩ := h.normalize_spelling (.refl (s := '/' :: r))
  refine ⟨_, he, fun hsame => ?_⟩
  -- a normalized path has as many slashes as it has segments
  have hcount := congrArg (List.count '/') hsame
  rw [heq, heq', count_slash_render hchars, count_slash_render hchars', hlength, hlength'] at hcount
  omega

theorem Unescaped.normalize_spellings_iff (h : Unescaped s) :
    (∀ e, Spells s e → normalize e = normalize s) ↔ ¬MeetsDrive s := by
  constructor
  · intro hall hmeets
    obtain ⟨e, he, hne⟩ := h.exists_normalize_ne hmeets
    exact hne (hall e he)
  · exact fun hmeets e he => h.normalize_eq he hmeets

end Signpost.PagePath

namespace Signpost

open Percent (Spells)
open PagePath (Unescaped MeetsDrive)

/-! ## Areas that are declared again -/

section Repeated

variable {sizeTest : Pattern.SizeTest}
  {field : FieldPath} {seen : List (Text × Text)} {raw rest : Entries (List Draft.Group)}
  {groups groups' : List Draft.Group} {area key first later : Text}

/-- At the key it is reported that its area is there already. -/
def Sidebar.ReportsAgain (field : FieldPath) (key area : Text) (c : Checked Sidebar) : Prop :=
  ∃ firstKey, ⟨field.push (.key key), .repeatedArea area firstKey⟩ ∈ c.problems

theorem Sidebar.reportsAgain_cons (harea : area? key = .ok area)
    (hseen : area ∈ seen.map Prod.fst) :
    ReportsAgain field key area (resolveFrom field seen ((key, groups) :: rest)) := by
  have hfound : (seen.find? (·.1 == area)).isSome = true := by
    obtain ⟨pair, hpair, rfl⟩ := List.mem_map.mp hseen
    exact List.find?_isSome.mpr ⟨pair, hpair, beq_self_eq_true _⟩
  obtain ⟨⟨_, firstKey⟩, hfind⟩ := Option.isSome_iff_exists.mp hfound
  refine ⟨firstKey, ?_⟩
  simp only [resolveFrom, harea, hfind]
  exact Checked.mem_problems_bind.mpr (.inl List.mem_cons_self)

/-- The entries behind one are resolved with the areas that were seen before and the area of the
one. -/
theorem Sidebar.resolveFrom_cons (field : FieldPath) (seen : List (Text × Text))
    (declared : Text × List Draft.Group) (rest : Entries (List Draft.Group)) :
    ∃ seen', seen ⊆ seen' ∧ (∀ area, area? declared.1 = .ok area → area ∈ seen'.map Prod.fst) ∧
      (resolveFrom field seen' rest).problems ⊆
        (resolveFrom field seen (declared :: rest)).problems := by
  cases harea : area? declared.1 with
  | error problem =>
      refine ⟨seen, List.Subset.refl _, fun _ h => (nomatch h), fun d hd => ?_⟩
      simp only [resolveFrom, harea]
      exact Checked.mem_problems_bind.mpr (.inr hd)
  | ok area =>
      cases hfind : seen.find? (·.1 == area) with
      | some pair =>
          -- the area is among those seen already, although under another key
          refine ⟨seen, List.Subset.refl _, ?_, fun d hd => ?_⟩
          · rintro _ ⟨⟩
            have hsame := List.find?_some hfind
            exact List.mem_map.mpr ⟨pair, List.mem_of_find?_eq_some hfind, eq_of_beq hsame⟩
          · simp only [resolveFrom, harea, hfind]
            exact Checked.mem_problems_bind.mpr (.inr hd)
      | none =>
          refine ⟨(area, declared.1) :: seen, List.subset_cons_self _ _, ?_, fun d hd => ?_⟩
          · rintro _ ⟨⟩
            exact List.mem_cons_self
          · simp only [resolveFrom, harea, hfind]
            exact Checked.mem_problems_bind.mpr (.inr (Checked.mem_problems_bind.mpr (.inl hd)))

theorem Sidebar.reportsAgain_of_seen (harea : area? key = .ok area)
    (hseen : area ∈ seen.map Prod.fst) (hmem : (key, groups) ∈ raw) :
    ReportsAgain field key area (resolveFrom field seen raw) := by
  induction raw generalizing seen with
  | nil => exact nomatch hmem
  | cons declared raw ih =>
      cases hmem with
      | head => exact reportsAgain_cons harea hseen
      | tail _ hmem =>
          obtain ⟨seen', hsubset, -, hproblems⟩ := resolveFrom_cons field seen declared raw
          obtain ⟨firstKey, hreport⟩ := ih (List.map_subset _ hsubset hseen) hmem
          exact ⟨firstKey, hproblems hreport⟩

/-- Of two keys of one area the later is reported. -/
theorem Sidebar.reportsAgain_of_sublist (hfirst : area? first = .ok area)
    (hlater : area? later = .ok area) (h : List.Sublist [(first, groups), (later, groups')] raw) :
    ReportsAgain field later area (resolveFrom field seen raw) := by
  induction raw generalizing seen with
  | nil => exact nomatch h
  | cons declared raw ih =>
      obtain ⟨seen', -, hown, hproblems⟩ := resolveFrom_cons field seen declared raw
      obtain ⟨firstKey, hreport⟩ : ReportsAgain field later area (resolveFrom field seen' raw) := by
        cases h with
        | cons _ h => exact ih h
        | cons_cons _ h =>
            exact reportsAgain_of_seen hlater (hown area hfirst) (List.singleton_sublist.mp h)
      exact ⟨firstKey, hproblems hreport⟩

end Repeated

/-! ## What a sidebar makes of the spellings -/

theorem PagePath.startsNoQuery_render {texts : List Text}
    (h : ∀ t ∈ texts, ∀ c ∈ t, c ≠ '/' ∧ c ≠ '?' ∧ c ≠ '#') :
    ∀ c ∈ Text.withTrailingSlash (UrlPath.segments texts).render, c ≠ '?' ∧ c ≠ '#' := by
  have hslash : '/' ≠ '?' ∧ '/' ≠ '#' := by decide
  have hrender : ∀ c ∈ (UrlPath.segments texts).render, c ≠ '?' ∧ c ≠ '#' := by
    intro c hc
    obtain ⟨t, ht, hc⟩ := List.mem_flatMap.mp hc
    cases hc with
    | head => exact hslash
    | tail _ hc => exact (h t ht c hc).2
  rcases Text.withTrailingSlash_eq (t := (UrlPath.segments texts).render) with hend | hend
  · rw [hend]
    exact hrender
  · rw [hend, List.forall_mem_append]
    exact ⟨hrender, List.forall_mem_singleton.mpr hslash⟩

theorem PagePath.Unescaped.keyValid {s e : Text} (h : Unescaped s) (he : Spells s e) :
    Sidebar.KeyValid e := by
  obtain ⟨r, x, -, rfl, -⟩ := h.exists_cons he
  have hplain := h.plain he
  have htrim := hplain.trim
  refine ⟨?_, ?_, ?_, ?_⟩
  · rw [htrim]
    exact ⟨x, rfl⟩
  · rw [htrim]
    rintro ⟨x, hx⟩
    obtain rfl := (List.cons.inj hx).2
    exact absurd (h.head he '/' rfl) (by decide)
  · rw [htrim]
    exact hplain.chars
  · obtain ⟨texts, -, -, hchars, heq⟩ := h.normalize_spelling he
    rw [Sidebar.areaOf, htrim, heq]
    exact startsNoQuery_render hchars

/-- When the spellings of a path are one path: exactly when no two dots meet a drive letter. Then a
page is shown the same entry in each spelling, each is a key of the same area, and of two of them in
a sidebar the later is reported. -/
theorem PagePath.spellings_agree_iff [Pattern.SizeTest] {s : Text} (h : Unescaped s) :
    ((∀ e, Spells s e → PagePath.normalize e = PagePath.normalize s) ↔ ¬MeetsDrive s) ∧
    (¬MeetsDrive s →
      (∀ e, Spells s e → ∀ sidebar : Sidebar, sidebar.entryFor? e = sidebar.entryFor? s) ∧
      ∃ area, ∀ e, Spells s e → Sidebar.area? e = .ok area ∧
        ∀ first, Spells s first →
          ∀ (field : FieldPath) (raw : Entries (List Draft.Group))
            (groups groups' : List Draft.Group),
            List.Sublist [(first, groups), (e, groups')] raw →
              Sidebar.ReportsAgain field e area (Sidebar.resolve field raw)) := by
  refine ⟨h.normalize_spellings_iff, fun hmeets => ⟨fun e he sidebar => ?_, ?_⟩⟩
  · exact Sidebar.entryFor?_congr (h.normalize_eq he hmeets)
  · have harea {e : Text} (he : Spells s e) :
        Sidebar.area? e = .ok (Text.withTrailingSlash (PagePath.normalize s)) := by
      refine Sidebar.area?_eq_ok.mpr ⟨h.keyValid he, ?_⟩
      rw [Sidebar.areaOf, (h.plain he).trim, h.normalize_eq he hmeets]
    refine ⟨_, fun e he => ⟨harea he, fun first hfirst field raw groups groups' hraw => ?_⟩⟩
    exact Sidebar.reportsAgain_of_sublist (harea hfirst) (harea he) hraw

/-- Two dots behind a segment that is no drive letter, and a character of two bytes. -/
theorem PagePath.spellings_agree_dots :
    (Unescaped "/x/../é".toList ∧ ¬MeetsDrive "/x/../é".toList ∧
      Spells "/x/../é".toList "/%78/%2E%2E/%C3%A9".toList) ∧
    PagePath.normalize "/%78/%2E%2E/%C3%A9".toList = PagePath.normalize "/x/../é".toList := by
  have hunescaped : Unescaped "/x/../é".toList := by decide
  have hmeets : ¬MeetsDrive "/x/../é".toList := by decide
  have hspells : Spells "/x/../é".toList "/%78/%2E%2E/%C3%A9".toList :=
    @Percent.spells_encode _ (· != '/') rfl
  exact ⟨⟨hunescaped, hmeets, hspells⟩, (spellings_agree_iff hunescaped).1.mpr hmeets _ hspells⟩

/-- Two dots that meet a drive letter: with an escape it is taken back, without it is not. -/
theorem PagePath.not_spellings_agree :
    ¬∀ s e, Unescaped s → Spells s e → PagePath.normalize e = PagePath.normalize s := by
  intro h
  have hunescaped : Unescaped "/C:/..".toList := by decide
  have hescape : Percent.AreEscapes (Utf8.encodeChar 'C') "%43".toList :=
    .cons ⟨'4', '3', rfl, rfl, rfl⟩ .nil
  have hspells : Spells "/C:/..".toList "/%43:/..".toList :=
    .plain (.escaped (by decide) hescape .refl)
  exact absurd (h _ _ hunescaped hspells) (by decide)

end Signpost
