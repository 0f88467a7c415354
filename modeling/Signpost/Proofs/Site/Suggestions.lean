import Signpost.Proofs.FieldPath.Prefixes
import Signpost.Proofs.Site.LinkTargets
import Signpost.Proofs.Site.UnmatchableKeys
import Signpost.Proofs.Text.Escapes
import Signpost.Proofs.Url.Drives

/-!
# Suggested links and keys

The hint on a link or sidebar key that does not start as a path shows it as a path, to be written in
its place. The link is always accepted. The key is not refused for its start again, but what is
checked behind the start was not looked at when it was shown: a query, a fragment, a control, and
escapes that spell the characters which start a query or fragment.
-/

namespace Signpost

namespace PagePath

open Percent (IsEscape)
open Sidebar (startsQuery)
open Url (isSlash readPath readSegments)

variable {c : Char} {r t u x : Text} {parts : List Text}

/-! ## Escapes that spell a query -/

/-- Among the escapes of the text is one of a question mark or number sign. -/
def SpellsQuery (t : Text) : Prop := ∃ x ∈ ["%3F".toList, "%3f".toList, "%23".toList], x <:+: t

instance : Decidable (SpellsQuery t) := inferInstanceAs (Decidable (∃ x ∈ _, x <:+: t))

/-- The escapes of the path that a text is read as resolve, and among them is such an escape. -/
def HidesQuery (t : Text) : Prop :=
  SpellsQuery (undecoded t) ∧ (Percent.decode? (undecoded t)).isSome = true

instance : Decidable (HidesQuery t) := inferInstanceAs (Decidable (_ ∧ _))

theorem startsQuery_iff : startsQuery c = true ↔ c = '?' ∨ c = '#' := by simp [startsQuery]

theorem exists_isEscape_iff : (∃ c, startsQuery c = true ∧ IsEscape c.toNat x) ↔
    x ∈ ["%3F".toList, "%3f".toList, "%23".toList] := by
  constructor
  · rintro ⟨c, hc, high, low, rfl, hhigh, hlow⟩
    rw [Text.hexValue?_eq_some] at hhigh hlow
    rcases startsQuery_iff.mp hc with rfl | rfl
    · obtain ⟨⟨-, rfl | rfl⟩, -, rfl | rfl⟩ := And.intro hhigh hlow <;> decide
    · obtain ⟨⟨-, rfl | rfl⟩, -, rfl | rfl⟩ := And.intro hhigh hlow <;> decide
  · intro hx
    simp only [List.mem_cons, List.not_mem_nil, or_false] at hx
    rcases hx with rfl | rfl | rfl
    · exact ⟨'?', rfl, '3', 'F', rfl, rfl, rfl⟩
    · exact ⟨'?', rfl, '3', 'f', rfl, rfl, rfl⟩
    · exact ⟨'#', rfl, '2', '3', rfl, rfl, rfl⟩

theorem spellsQuery_iff :
    SpellsQuery t ↔ ∃ c, startsQuery c = true ∧ ∃ x, IsEscape c.toNat x ∧ x <:+: t := by
  simp only [SpellsQuery, ← exists_isEscape_iff]
  constructor
  · rintro ⟨x, ⟨c, hc, hx⟩, ht⟩
    exact ⟨c, hc, x, hx, ht⟩
  · rintro ⟨c, hc, x, hx, ht⟩
    exact ⟨x, ⟨c, hc, hx⟩, ht⟩

/-- Such a character is resolved from itself or from its escape. -/
theorem startsQuery_mem_iff (h : Percent.decode? t = some u) (hc : startsQuery c = true) :
    c ∈ u ↔ c ∈ t ∨ ∃ x, IsEscape c.toNat x ∧ x <:+: t := by
  rcases startsQuery_iff.mp hc with rfl | rfl
  · exact Percent.mem_decode?_iff h (by decide) (by decide) rfl
  · exact Percent.mem_decode?_iff h (by decide) (by decide) rfl

/-- A path has a character that starts a query or fragment when an escape hides one. -/
theorem hidesQuery_iff :
    HidesQuery t ↔ ∃ c ∈ unescaped (undecoded t), startsQuery c = true := by
  have hpath (c : Char) (hc : startsQuery c = true) : c ∉ undecoded t := fun hmem =>
    absurd hc (Bool.eq_false_iff.mp (isPathEnd_undecoded t c hmem))
  rw [HidesQuery, unescaped]
  cases hdecode : Percent.decode? (undecoded t) with
  | none =>
      refine iff_of_false (fun h => Bool.false_ne_true h.2) ?_
      rintro ⟨c, hmem, hc⟩
      exact hpath c hc hmem
  | some u =>
      rw [spellsQuery_iff, Option.isSome_some, Option.getD_some, and_iff_left rfl]
      refine exists_congr fun c => ?_
      rw [and_comm]
      refine and_congr_left fun hc => ?_
      rw [startsQuery_mem_iff hdecode hc, or_iff_right (hpath c hc)]

/-- A segment that is taken back hides nothing. -/
example : HidesQuery "/faq%3F/a".toList ∧ ¬HidesQuery "/faq%3F/../a".toList := by decide

/-! ## Where the characters of a path come from -/

/-- A character of a path, slashes apart, is one of a segment that is resolved on its own. -/
theorem exists_part_of_mem (h : Percent.decode? (UrlPath.segments parts).render = some u)
    (hc : c ∈ u) (hslash : c ≠ '/') :
    ∃ part ∈ parts, ∃ text, Percent.decode? part = some text ∧ c ∈ text := by
  rw [Url.decode?_render, Option.map_eq_some_iff] at h
  obtain ⟨texts, htexts, rfl⟩ := h
  obtain ⟨text, htext, hc⟩ := List.mem_flatMap.mp hc
  obtain ⟨part, hpart, hdecode⟩ := Url.exists_decode?_of_mapM htexts text htext
  exact ⟨part, hpart, text, hdecode, (List.mem_cons.mp hc).resolve_left hslash⟩

/-- The segments of a path are pieces of the text that it is read from, spelled as a path spells
them. -/
theorem exists_piece_of_mem (t : Text) : ∀ part ∈ readSegments .web [] t,
    ∃ s, s <:+: t ∧ part = Percent.encode Url.isEscapedInPath s := by
  refine Url.forall_settleSegments ⟨[], List.nil_infix, rfl⟩ (List.forall_mem_nil _) ?_
  intro segment hsegment _ _ done
  refine ⟨segment, ?_, Url.keepSegment_web⟩
  exact (Text.infix_of_mem_splitBy hsegment).trans (List.takeWhile_prefix _).isInfix

theorem dropSlash_suffix {kind : Url.SchemeKind} : Url.dropSlash kind t <:+ t := by
  cases t with
  | nil => exact List.suffix_rfl
  | cons c t =>
      rw [Url.dropSlash]
      split
      · exact List.suffix_cons c t
      · exact List.suffix_rfl

/-- A plain path that does not start with two slashes is read as it is written, or its end is read
as the path of a URL. -/
theorem Plain.undecoded_eq (h : Plain t) (hsingle : ¬['/', '/'] <+: t) :
    undecoded t = t ∨ ∃ r, r <:+ t ∧ undecoded t = (readPath .web r).render := by
  obtain ⟨rest, rfl⟩ := h.absolute
  by_cases hhost : ∃ r, rest = '\\' :: r
  · obtain ⟨r, rfl⟩ := hhost
    have hends : ∀ c ∈ r, Url.isPathEnd c = false := fun c hc =>
      h.isPathEnd c (List.mem_cons_of_mem _ (List.mem_cons_of_mem _ hc))
    rw [h.undecoded_host]
    by_cases hr : ∀ c ∈ r, isSlash .web c = true
    · rw [List.dropWhile_eq_nil_iff.mpr hr]
      exact .inl rfl
    · obtain ⟨lead, host, behind, rfl, hlead, hne, hinside, hbehind⟩ := exists_host hends hr
      rw [dropWhile_host hlead hne hinside, Url.readAuthority_append rfl hinside hbehind]
      cases Url.readAuthority root.scheme host with
      | error e => exact .inl rfl
      | ok url => exact .inr ⟨behind, ⟨'/' :: '\\' :: (lead ++ host), by simp⟩, rfl⟩
  · refine .inr ⟨_, List.suffix_rfl, h.undecoded_path fun d hd => ?_⟩
    obtain ⟨r, rfl⟩ := List.head?_eq_some_iff.mp hd
    have hslash : d ≠ '/' := by
      rintro rfl
      exact hsingle ⟨r, rfl⟩
    have hback : d ≠ '\\' := by
      rintro rfl
      exact hhost ⟨r, rfl⟩
    simp [isSlash, hslash, hback]

/-- Every character of the path is resolved from a piece of the text, slashes apart. -/
theorem Plain.exists_piece (h : Plain t) (hsingle : ¬['/', '/'] <+: t)
    (hdecode : Percent.decode? (undecoded t) = some u) (hc : c ∈ u) (hslash : c ≠ '/') :
    ∃ s v, s <:+: t ∧ Percent.decode? s = some v ∧ c ∈ v := by
  rcases h.undecoded_eq hsingle with heq | ⟨r, hr, heq⟩
  · rw [heq] at hdecode
    exact ⟨t, u, List.infix_rfl, hdecode, hc⟩
  · have hread : readPath .web r = .segments (readSegments .web [] (Url.dropSlash .web r)) := rfl
    rw [heq, hread] at hdecode
    obtain ⟨part, hpart, v, hv, hc⟩ := exists_part_of_mem hdecode hc hslash
    obtain ⟨s, hs, rfl⟩ := exists_piece_of_mem _ part hpart
    rw [Percent.decode?_encode Url.leavesEscapes_isEscapedInPath] at hv
    exact ⟨s, v, hs.trans (dropSlash_suffix.trans hr).isInfix, hv, hc⟩

/-- What a plain path hides is spelled in it. -/
theorem Plain.spellsQuery (h : Plain t) (hsingle : ¬['/', '/'] <+: t) (hides : HidesQuery t) :
    SpellsQuery t := by
  obtain ⟨c, hmem, hc⟩ := hidesQuery_iff.mp hides
  obtain ⟨u, hu⟩ := Option.isSome_iff_exists.mp hides.2
  rw [unescaped, hu, Option.getD_some] at hmem
  have hslash : c ≠ '/' := by
    rintro rfl
    cases hc
  obtain ⟨s, v, hs, hv, hmem⟩ := h.exists_piece hsingle hu hmem hslash
  rcases (startsQuery_mem_iff hv hc).mp hmem with hplain | ⟨x, hx, hinfix⟩
  · exact absurd hc (Bool.eq_false_iff.mp (h.isPathEnd c (hs.subset hplain)))
  · exact spellsQuery_iff.mpr ⟨c, hc, x, hx, hinfix.trans hs⟩

end PagePath

namespace Sidebar

open PagePath (HidesQuery)

variable {key shown : Text}

/-- No slash, in front or behind, brings a character that starts a query or fragment. -/
theorem exists_startsQuery_iff :
    (∃ c ∈ areaOf key, startsQuery c = true) ↔ HidesQuery (Text.trim key) := by
  rw [PagePath.hidesQuery_iff]
  refine exists_congr fun c => and_congr_left fun hc => ?_
  have hslash : c ≠ '/' := by
    rintro rfl
    cases hc
  rw [areaOf, PagePath.normalize_eq, Text.trim_trim]
  generalize PagePath.unescaped (PagePath.undecoded (Text.trim key)) = path
  have habsolute : c ∈ PagePath.absolute path ↔ c ∈ path := by
    rw [PagePath.absolute]
    split
    · rfl
    · exact List.mem_cons.trans (or_iff_right hslash)
  rcases Text.withTrailingSlash_eq (t := PagePath.absolute path) with heq | heq
  · rw [heq, habsolute]
  · rw [heq, List.mem_append, List.mem_singleton, or_iff_left hslash, habsolute]

theorem matchable_iff :
    (∀ c ∈ areaOf key, c ≠ '?' ∧ c ≠ '#') ↔ ¬HidesQuery (Text.trim key) := by
  rw [← exists_startsQuery_iff]
  simp only [PagePath.startsQuery_iff, not_exists, not_and, not_or]

/-- A key is refused for its start when no slash or more than one is there. -/
theorem not_absolute_of_area? (h : area? key = .error (.keyNotAbsolute shown)) :
    shown = key ∧ ¬(['/'] <+: Text.trim key ∧ ¬['/', '/'] <+: Text.trim key) := by
  rw [area?] at h
  dsimp only at h
  split at h
  next hlead =>
    cases h
    refine ⟨rfl, fun habsolute => Bool.false_ne_true ?_⟩
    exact (lead_single_iff.mpr habsolute).symm.trans hlead
  next =>
    split at h
    · cases h
    · split at h <;> cases h

end Sidebar

namespace Problem

open Sidebar (area? KeyValid)
open PagePath (HidesQuery Plain SpellsQuery)

variable {key link shown : Text} {problem : Problem}

/-! ## What a hint suggests -/

/-- What stands in the hint between its first quotation mark and one at its end. -/
def suggestion? (problem : Problem) : Option Text :=
  problem.hint.bind fun hint => Text.stripEnd? ['"'] (hint.dropWhile (· != '"')).tail

theorem suggestion?_eq (lead : Text) (h : problem.hint = some (lead ++ '"' :: (shown ++ ['"'])))
    (hlead : '"' ∉ lead) : problem.suggestion? = some shown := by
  have hquote : (lead ++ '"' :: (shown ++ ['"'])).dropWhile (· != '"') =
      '"' :: (shown ++ ['"']) := by
    rw [List.dropWhile_append_of_pos]
    · rfl
    · intro c hc
      rw [bne_iff_ne]
      rintro rfl
      exact hlead hc
  have hend : Text.stripStart? ['"'] ('"' :: shown.reverse) = some shown.reverse :=
    Text.stripStart?_eq_some.mpr rfl
  rw [suggestion?, h, Option.bind_some, hquote, List.tail_cons, Text.stripEnd?,
    List.reverse_append, List.reverse_singleton, List.singleton_append, hend, Option.map_some,
    List.reverse_reverse]

theorem suggestion?_linkWithoutLead : (linkWithoutLead link).suggestion? = some ('/' :: link) :=
  suggestion?_eq "start it with `/`, e.g. ".toList rfl (by decide)

theorem suggestion?_keyNotAbsolute :
    (keyNotAbsolute key).suggestion? = some (absoluteKey key) :=
  suggestion?_eq "use ".toList rfl (by decide)

/-! ## The suggested key -/

/-- White space around it apart, the key has no controls and neither query nor fragment. -/
def IsPlainKey (key : Text) : Prop :=
  ∀ c ∈ Text.trim key, Text.isControl c = false ∧ c ≠ '?' ∧ c ≠ '#'

instance : DecidablePred IsPlainKey := fun _ => decidable_of_iff _ Sidebar.any_startsQuery_iff

/-- The characters that a suggested key leaves out are dots and slashes. -/
theorem absoluteKey_chars_iff :
    (∀ c ∈ absoluteKey key, Text.isControl c = false ∧ c ≠ '?' ∧ c ≠ '#') ↔ IsPlainKey key := by
  have hdropped : ∀ c ∈ (Text.trim key).takeWhile (fun c => c = '.' || c = '/'),
      Text.isControl c = false ∧ c ≠ '?' ∧ c ≠ '#' := by
    intro c hc
    have hc := List.mem_takeWhile_imp hc
    simp only [Bool.or_eq_true, decide_eq_true_eq] at hc
    rcases hc with rfl | rfl <;> decide
  have hslash : Text.isControl '/' = false ∧ '/' ≠ '?' ∧ '/' ≠ '#' := by decide
  have hkey := List.takeWhile_append_dropWhile (p := fun c => c = '.' || c = '/')
    (l := Text.trim key)
  rw [absoluteKey, Text.trimStartBy, List.forall_mem_cons, and_iff_right hslash, IsPlainKey]
  conv_rhs => rw [← hkey, List.forall_mem_append, and_iff_right hdropped]

theorem absoluteKey_single : ¬['/', '/'] <+: absoluteKey key := by
  rw [absoluteKey, List.prefix_cons_inj]
  rintro ⟨rest, hrest⟩
  have hhead := List.head?_dropWhile_not (fun c => c = '.' || c = '/') (Text.trim key)
  rw [Text.trimStartBy] at hrest
  rw [← hrest] at hhead
  cases hhead

theorem absoluteKey_last : ∀ c ∈ (absoluteKey key).getLast?, Text.isBlank c = false := by
  obtain ⟨front, hfront⟩ := List.dropWhile_suffix (fun c => c = '.' || c = '/')
    (l := Text.trim key)
  rw [absoluteKey, Text.trimStartBy]
  generalize (Text.trim key).dropWhile _ = rest at hfront
  by_cases hnil : rest = []
  · rw [hnil]
    rintro _ ⟨⟩
    rfl
  · intro c hc
    rw [List.getLast?_cons_of_ne_nil hnil] at hc
    refine Text.last_trim (t := key) c ?_
    rwa [← hfront, List.getLast?_append_of_ne_nil _ hnil]

theorem trim_absoluteKey : Text.trim (absoluteKey key) = absoluteKey key :=
  PagePath.trimBy_slash rfl absoluteKey_last

theorem IsPlainKey.absoluteKey (h : IsPlainKey key) : Plain (absoluteKey key) :=
  ⟨⟨_, rfl⟩, absoluteKey_chars_iff.mpr h, absoluteKey_last⟩

theorem keyValid_absoluteKey_iff :
    KeyValid (absoluteKey key) ↔ IsPlainKey key ∧ ¬HidesQuery (absoluteKey key) := by
  constructor
  · intro h
    have hplain := h.plain
    have hmatchable := Sidebar.matchable_iff.mp h.matchable
    rw [trim_absoluteKey] at hplain hmatchable
    exact ⟨absoluteKey_chars_iff.mp hplain, hmatchable⟩
  · rintro ⟨hplain, hides⟩
    refine ⟨?_, ?_, ?_, Sidebar.matchable_iff.mpr ?_⟩ <;> rw [trim_absoluteKey]
    · exact ⟨_, rfl⟩
    · exact absoluteKey_single
    · exact absoluteKey_chars_iff.mpr hplain
    · exact hides

/-- The escapes that a suggested key hides a query by stand in the key that it is made of. -/
theorem IsPlainKey.spellsQuery (h : IsPlainKey key) (hides : HidesQuery (Problem.absoluteKey key)) :
    SpellsQuery (Text.trim key) := by
  obtain ⟨x, hx, hinfix⟩ := h.absoluteKey.spellsQuery absoluteKey_single hides
  refine ⟨x, hx, ?_⟩
  rcases List.infix_cons_iff.mp hinfix with hlead | hinfix
  · -- no escape starts with a slash
    simp only [List.mem_cons, List.not_mem_nil, or_false] at hx
    rcases hx with rfl | rfl | rfl <;> exact absurd (List.cons_prefix_cons.mp hlead).1 (by decide)
  · exact hinfix.trans (List.dropWhile_suffix _).isInfix

/-! ## The suggested link -/

theorem problem?_of_check {raw : Option Text} {field place : FieldPath}
    (h : ⟨place, .linkWithoutLead link⟩ ∈ (Link.check raw field).problems) :
    ∃ t, Link.problem? t = some (.linkWithoutLead link) := by
  cases raw with
  | none =>
      obtain ⟨-, hproblem⟩ := Diagnostic.mk.inj (List.mem_singleton.mp h)
      cases hproblem
  | some t =>
      rw [Link.check, Option.map_some] at h
      dsimp only at h
      cases hproblem : Link.problem? (Text.trim t) with
      | none =>
          rw [hproblem] at h
          cases h
      | some problem =>
          rw [hproblem] at h
          obtain ⟨-, rfl⟩ := Diagnostic.mk.inj (List.mem_singleton.mp h)
          exact ⟨_, hproblem⟩

theorem unspaced_of_withoutLead {t : Text} (h : Link.problem? t = some (.linkWithoutLead link)) :
    link.any Text.isBlank = false := by
  rw [Link.problem?] at h
  split at h
  · cases h
  · split at h
    · cases h
    next hspaced =>
      split at h
      · split at h <;> cases h
      · split at h
        · cases h
          exact Bool.eq_false_iff.mpr hspaced
        · cases h

/-- White space is looked for before the lead, so that none is left to be found. -/
theorem check_suggestedLink (h : link.any Text.isBlank = false) (field : FieldPath) :
    Link.check (some ('/' :: link)) field = pure ('/' :: link) := by
  have hunspaced : ('/' :: link).any Text.isBlank = false := h
  have hwell : Link.WellFormed ('/' :: link) :=
    ⟨List.cons_ne_nil _ _, Text.forall_of_any_eq_false hunspaced, .inr (.inl ⟨link, rfl⟩)⟩
  refine Link.check_eq_pure.mpr ⟨?_, Link.problem?_eq_none.mpr hwell⟩
  rw [Option.map_some, Text.trim_eq_self_of_unspaced hunspaced]

/-! ## Both suggestions -/

/-- The link in the hint on a link without a lead is accepted wherever it is written. The key in the
hint on a key that is not absolute is not refused for that again. It is accepted exactly when the
refused key is plain and the path that the suggested key is read as hides no query. It hides none
when no escape in the refused key spells one. -/
theorem suggestions_accepted_iff (raw : Option Text) (field place : FieldPath) (link key : Text) :
    (⟨place, linkWithoutLead link⟩ ∈ (Link.check raw field).problems →
      ∃ shown, (linkWithoutLead link).suggestion? = some shown ∧
        ∀ field, Link.check (some shown) field = pure shown) ∧
      ∀ refused, area? key = .error (keyNotAbsolute refused) →
        ∃ shown, (keyNotAbsolute refused).suggestion? = some shown ∧
          (∀ again, area? shown ≠ .error (keyNotAbsolute again)) ∧
          ((∃ area, area? shown = .ok area) ↔ IsPlainKey key ∧ ¬HidesQuery shown) ∧
          (¬SpellsQuery (Text.trim key) → ((∃ area, area? shown = .ok area) ↔ IsPlainKey key)) := by
  constructor
  · intro h
    obtain ⟨t, ht⟩ := problem?_of_check h
    exact ⟨_, suggestion?_linkWithoutLead, check_suggestedLink (unspaced_of_withoutLead ht)⟩
  · intro refused h
    obtain ⟨rfl, -⟩ := Sidebar.not_absolute_of_area? h
    have haccepted : (∃ area, area? (absoluteKey refused) = .ok area) ↔
        IsPlainKey refused ∧ ¬HidesQuery (absoluteKey refused) := by
      rw [← keyValid_absoluteKey_iff]
      simp only [Sidebar.area?_eq_ok, exists_and_left, exists_eq', and_true]
    refine ⟨_, suggestion?_keyNotAbsolute, fun again hagain => ?_, haccepted, fun hspells => ?_⟩
    · refine (Sidebar.not_absolute_of_area? hagain).2 ?_
      rw [trim_absoluteKey]
      exact ⟨⟨_, rfl⟩, absoluteKey_single⟩
    · rw [haccepted]
      exact and_iff_left_of_imp fun hplain => mt hplain.spellsQuery hspells

/-- A link with a colon behind its first slash, and a key with an escape that spells a space. -/
theorem suggestions_accepted_iff_spaced :
    (Link.check (some " guide/a:b ".toList) []).problems =
        [⟨[], linkWithoutLead "guide/a:b".toList⟩] ∧
      (∃ shown, (linkWithoutLead "guide/a:b".toList).suggestion? = some shown ∧
        ∀ field, Link.check (some shown) field = pure shown) ∧
      area? " ../guide/my%20page".toList =
        .error (keyNotAbsolute " ../guide/my%20page".toList) ∧
      ∃ area, area? "/guide/my%20page".toList = .ok area := by
  obtain ⟨hlink, hkey⟩ := suggestions_accepted_iff (some " guide/a:b ".toList) [] []
    "guide/a:b".toList " ../guide/my%20page".toList
  refine ⟨rfl, hlink List.mem_cons_self, rfl, ?_⟩
  obtain ⟨shown, hshown, -, -, haccepted⟩ := hkey _ rfl
  rw [suggestion?_keyNotAbsolute] at hshown
  cases hshown
  exact (haccepted (by decide)).mpr (by decide)

/-- A query is still there in the key that is shown. -/
theorem not_suggestions_accepted :
    ¬((∀ (raw : Option Text) (field place : FieldPath) (link shown : Text),
      ⟨place, linkWithoutLead link⟩ ∈ (Link.check raw field).problems →
        (linkWithoutLead link).suggestion? = some shown →
          (Link.check (some shown) field).problems = []) ∧
      ∀ key refused shown, area? key = .error (keyNotAbsolute refused) →
        (keyNotAbsolute refused).suggestion? = some shown → ∃ area, area? shown = .ok area) := by
  rintro ⟨-, h⟩
  obtain ⟨area, harea⟩ := h "guide?x".toList _ "/guide?x".toList rfl rfl
  have hrefused : area? "/guide?x".toList = .error (keyNotPlain "/guide?x".toList) := rfl
  rw [hrefused] at harea
  cases harea

/-- Without a query, an escape that spells one. -/
example : (keyNotAbsolute "faq%3F".toList).suggestion? = some "/faq%3F".toList ∧
    area? "/faq%3F".toList = .error (keyUnmatchable "/faq%3F".toList "/faq?/".toList) := ⟨rfl, rfl⟩

end Problem

end Signpost
