import Signpost.Proofs.Site.Rules
import Signpost.Proofs.Text.Replace
import Signpost.Proofs.Url.Hosts

/-!
# The targets of edit links

The pattern of an edit link is checked as a link before the path of a source is put into it. The
target stays a link, whatever the source, when the place for the path stands where it cannot change
how the target starts: behind the lead of a path within the site, or behind the host of a URL. Where
the colon of a scheme is taken for the start of the place, or the place stands in the host, there is
a source whose target is no link.
-/

namespace Signpost

open Problem (editPlace)

variable {link pattern scheme front behind source t : Text}

/-! ## Links with a scheme -/

namespace Link

theorem hasScheme_iff :
    HasScheme link ↔ ∃ scheme rest, link = scheme ++ ':' :: rest ∧ Url.IsSchemeName scheme := by
  have hchar (c : Char) : Text.isAlphanumeric c = true ∨ c ∈ ['+', '-', '.'] ↔
      Url.isSchemeChar c = true := by simp [Url.isSchemeChar, or_assoc]
  constructor
  · rintro ⟨first, name, rest, rfl, hfirst, hname⟩
    exact ⟨first :: name, rest, rfl, hfirst, fun c hc => (hchar c).mp (hname c hc)⟩
  · rintro ⟨scheme, rest, rfl, hscheme⟩
    cases scheme with
    | nil => exact hscheme.elim
    | cons first name =>
        exact ⟨first, name, rest, rfl, hscheme.1, fun c hc => (hchar c).mpr (hscheme.2 c hc)⟩

/-- A link is accepted as it is written exactly when it keeps the rules. -/
theorem check_some_eq_pure {field : FieldPath} :
    check (some link) field = pure link ↔ WellFormed link := by
  rw [check_eq_pure, Accepted, problem?_eq_none, Option.map_some, Option.some.injEq]
  apply and_iff_right_of_imp
  intro h
  exact Text.trim_eq_self_of_unspaced (by simpa using h.unspaced)

theorem IsRelative.ne_nil (h : IsRelative link) : link ≠ [] := by
  rintro rfl
  exact absurd h (by simp [IsRelative])

theorem wellFormed_of_parse (hscheme : Url.IsSchemeName scheme)
    (ht : ∀ c ∈ scheme ++ ':' :: t, Text.isBlank c = false)
    (h : ∃ url, Url.parse (scheme ++ ':' :: t) = .ok url) : WellFormed (scheme ++ ':' :: t) :=
  ⟨List.append_ne_nil_of_right_ne_nil _ (List.cons_ne_nil _ _), ht,
    .inl ⟨hasScheme_iff.mpr ⟨scheme, t, rfl, hscheme⟩, h⟩⟩

/-- With a scheme only the URL can be at fault. -/
theorem wellFormed_scheme_iff (hscheme : Url.IsSchemeName scheme)
    (ht : ∀ c ∈ scheme ++ ':' :: t, Text.isBlank c = false) :
    WellFormed (scheme ++ ':' :: t) ↔ Url.Reads (Text.lower scheme) (Url.trimControls t) := by
  have hhas : HasScheme (scheme ++ ':' :: t) := hasScheme_iff.mpr ⟨scheme, t, rfl, hscheme⟩
  have hbehind : ∀ c ∈ t, Text.isBlank c = false := fun c hc =>
    ht c (List.mem_append_right _ (List.mem_cons_of_mem _ hc))
  rw [Url.Reads, ← Url.parse_scheme hscheme hbehind]
  constructor
  · intro h
    exact (h.leads.resolve_right hhas.not_isRelative).2
  · exact wellFormed_of_parse hscheme ht

/-- The name of a scheme with something else than a colon behind it starts no link. -/
theorem not_wellFormed_of_stop (hscheme : Url.IsSchemeName scheme) {c : Char}
    (hc : Url.isSchemeChar c = false) (hcolon : c ≠ ':') : ¬WellFormed (scheme ++ c :: t) := by
  intro h
  rcases h.leads with ⟨hhas, -⟩ | hrelative
  · obtain ⟨name, rest, heq, hname⟩ := hasScheme_iff.mp hhas
    have hdrop := (Url.takeWhile_scheme (t := t) hscheme hc).2
    rw [heq, (Url.takeWhile_scheme hname rfl).2] at hdrop
    exact hcolon (List.cons.inj hdrop).1.symm
  · cases scheme with
    | nil => exact hscheme.elim
    | cons first name => exact not_isRelative_of_isLetter hscheme.1 hrelative

end Link

namespace EditLink

/-- The patterns whose place stands where any source can be put in. -/
inductive Sound : Text → Prop where
  /-- The pattern is a path within the site, and so are its targets. -/
  | relative {pattern : Text} (h : Link.IsRelative pattern) : Sound pattern
  /-- The host of a URL is settled before the first place. -/
  | decisive {scheme front behind : Text} (hscheme : Url.IsSchemeName scheme)
      (hfirst : ¬editPlace <:+: ':' :: front)
      (h : Url.Decisive (Url.SchemeKind.of (Text.lower scheme)) front) :
      Sound (scheme ++ ':' :: (front ++ (editPlace ++ behind)))
  /-- A source has no slash in front, so it brings no host. A source of slashes alone leaves the
  places empty. -/
  | rootless {scheme front behind : Text} (hscheme : Url.IsSchemeName scheme)
      (h : Url.Rootless (Url.SchemeKind.of (Text.lower scheme)) front)
      (hempty : ∃ url, Url.parse (Text.replace editPlace []
        (scheme ++ ':' :: (front ++ (editPlace ++ behind)))) = .ok url) :
      Sound (scheme ++ ':' :: (front ++ (editPlace ++ behind)))

variable {edit : EditLink}

/-! ## Putting a source in -/

theorem urlFor_unspaced (hpattern : ∀ c ∈ edit.pattern, Text.isBlank c = false)
    (hsource : ∀ c ∈ source, Text.isBlank c = false) :
    ∀ c ∈ edit.urlFor source, Text.isBlank c = false := by
  intro c hc
  rcases Text.mem_replaceFrom hc with hmem | hmem
  · exact hsource c ((List.dropWhile_suffix _).subset hmem)
  · exact hpattern c hmem

/-- The lead of a path holds no colon, so no place starts in it. -/
theorem isRelative_replace (h : Link.IsRelative pattern) :
    Link.IsRelative (Text.replace editPlace t pattern) := by
  have hkept {lead : Text} (hlead : ':' ∉ lead) (hstart : lead <+: pattern) :
      lead <+: Text.replace editPlace t pattern := by
    obtain ⟨rest, rfl⟩ := hstart
    have hreplace : Text.replace editPlace t (lead ++ rest) =
        lead ++ Text.replace editPlace t rest := Text.replace_append_of_not_mem hlead
    exact ⟨_, hreplace.symm⟩
  exact h.imp (hkept (by decide)) (.imp (hkept (by decide))
    (.imp (hkept (by decide)) (hkept (by decide))))

/-- Behind the colon of a scheme the first place stands behind a front. -/
theorem replace_scheme (hscheme : Url.IsSchemeName scheme) (hfirst : ¬editPlace <:+: ':' :: front) :
    Text.replace editPlace t (scheme ++ ':' :: (front ++ (editPlace ++ behind))) =
      scheme ++ ':' :: (front ++ (t ++ Text.replace editPlace t behind)) := by
  have hplace : Text.replace editPlace t (':' :: front ++ (editPlace ++ behind)) =
      ':' :: front ++ (t ++ Text.replace editPlace t behind) :=
    Text.replace_first (by decide) hfirst
  have hname : Text.replace editPlace t (scheme ++ (':' :: front ++ (editPlace ++ behind))) =
      scheme ++ Text.replace editPlace t (':' :: front ++ (editPlace ++ behind)) :=
    Text.replace_append_of_not_mem hscheme.colon_not_mem
  rw [hplace] at hname
  exact hname

theorem not_infix_of_rootless {kind : Url.SchemeKind} (h : Url.Rootless kind front) :
    ¬editPlace <:+: ':' :: front := by
  rcases h.2 with rfl | rfl
  · decide
  · decide

/-- The target of a sound pattern is a link. -/
theorem Sound.urlFor_wellFormed (h : Sound edit.pattern) (hpattern : Link.WellFormed edit.pattern)
    (hsource : ∀ c ∈ source, Text.isBlank c = false) : Link.WellFormed (edit.urlFor source) := by
  have hunspaced := urlFor_unspaced hpattern.unspaced hsource
  obtain ⟨pattern, text⟩ := edit
  simp only [urlFor] at h hpattern hunspaced ⊢
  have hhead := List.head?_dropWhile_not (· == '/') source
  generalize hpath : Text.trimStartBy (· == '/') source = path at hunspaced ⊢
  rw [Text.trimStartBy] at hpath
  rw [hpath] at hhead
  cases h with
  | relative h =>
      have hrelative := isRelative_replace (t := path) h
      exact ⟨hrelative.ne_nil, hunspaced, .inr hrelative⟩
  | decisive hscheme hfirst h =>
      rw [replace_scheme hscheme hfirst] at hunspaced ⊢
      rw [Link.wellFormed_scheme_iff hscheme hunspaced]
      rw [Link.wellFormed_scheme_iff hscheme hpattern.unspaced] at hpattern
      exact (h.reads_iff _ _).mp hpattern
  | rootless hscheme h hempty =>
      rw [replace_scheme hscheme (not_infix_of_rootless h)] at hunspaced hempty ⊢
      cases path with
      | nil => exact Link.wellFormed_of_parse hscheme hunspaced hempty
      | cons c path =>
          rw [Link.wellFormed_scheme_iff hscheme hunspaced]
          exact h.reads (by simpa using hhead)

/-! ## Sources that break a pattern -/

/-- The broken host as the path of a source. -/
def brokenSource (slashes : Text) : Text := slashes ++ (Url.brokenHost ++ ['/'])

theorem brokenSource_ne_nil {slashes : Text} : brokenSource slashes ≠ [] :=
  List.append_ne_nil_of_right_ne_nil _ (by decide)

theorem brokenSource_unspaced {slashes : Text} (h : ∀ c ∈ slashes, c = '\\') :
    ∀ c ∈ brokenSource slashes, Text.isBlank c = false := by
  intro c hc
  rcases List.mem_append.mp hc with hc | hc
  · rw [h c hc]
    decide
  · exact Text.forall_of_any_eq_false rfl c hc

theorem trimStartBy_brokenSource {slashes : Text} (h : ∀ c ∈ slashes, c = '\\') :
    Text.trimStartBy (· == '/') (brokenSource slashes) = brokenSource slashes := by
  cases slashes with
  | nil => rfl
  | cons c slashes =>
      rw [h c List.mem_cons_self]
      rfl

/-- Where the colon of a scheme belongs to the place, the scheme does not stay one. -/
theorem not_wellFormed_replace_colon (hscheme : Url.IsSchemeName scheme) :
    ¬Link.WellFormed (Text.replace editPlace (brokenSource []) (scheme ++ (editPlace ++ behind))) := by
  have hname : Text.replace editPlace (brokenSource []) (scheme ++ (editPlace ++ behind)) =
      scheme ++ Text.replace editPlace (brokenSource []) (editPlace ++ behind) :=
    Text.replace_append_of_not_mem hscheme.colon_not_mem
  have hplace : Text.replace editPlace (brokenSource []) (editPlace ++ behind) =
      brokenSource [] ++ Text.replace editPlace (brokenSource []) behind :=
    Text.replace_part_append
  rw [hname, hplace]
  exact Link.not_wellFormed_of_stop hscheme (c := '@') rfl (by decide)

/-- Where the host of a URL is not settled, a source can break it. -/
theorem exists_not_wellFormed_replace (hscheme : Url.IsSchemeName scheme)
    (hfirst : ¬editPlace <:+: ':' :: front)
    (hfront : ¬Url.Decisive (Url.SchemeKind.of (Text.lower scheme)) front)
    (hroot : ¬Url.Rootless (Url.SchemeKind.of (Text.lower scheme)) front) :
    ∃ slashes, (∀ c ∈ slashes, c = '\\') ∧ ¬Link.WellFormed (Text.replace editPlace
      (brokenSource slashes) (scheme ++ ':' :: (front ++ (editPlace ++ behind)))) := by
  obtain ⟨slashes, hslashes, a, ha, hafter⟩ := Url.exists_broken hfront hroot
  refine ⟨slashes, hslashes, ?_⟩
  rw [replace_scheme hscheme hfirst]
  intro h
  rw [Link.wellFormed_scheme_iff hscheme h.unspaced] at h
  generalize Text.replace editPlace (brokenSource slashes) behind = rest at h
  have htrim : Url.trimControls (front ++ (brokenSource slashes ++ rest)) =
      front ++ (slashes ++ (Url.brokenHost ++ '/' :: Url.trimControls rest)) := by
    have hassoc : front ++ (brokenSource slashes ++ rest) =
        front ++ (slashes ++ Url.brokenHost) ++ '/' :: rest := by simp [brokenSource]
    rw [hassoc, Url.trimControls_append_cons (by decide)]
    simp
  rw [htrim, Url.reads_of_some (hafter _)] at h
  exact Url.not_hostReads_brokenHost ha h

/-! ## All sources -/

/-- The first place stands at the colon of a scheme or behind it. -/
theorem front_cases {rest : Text} (hscheme : Url.IsSchemeName scheme)
    (h : scheme ++ ':' :: rest = front ++ (editPlace ++ behind)) :
    front = scheme ∨ ∃ inner, front = scheme ++ ':' :: inner ∧
      rest = inner ++ (editPlace ++ behind) := by
  rcases List.append_eq_append_iff.mp h with ⟨inner, hfront, hrest⟩ | ⟨inner, hname, hrest⟩
  · cases inner with
    | nil => exact .inl (by simpa using hfront)
    | cons c inner =>
        obtain ⟨rfl, hinner⟩ := List.cons.inj hrest
        exact .inr ⟨inner, hfront, hinner⟩
  · cases inner with
    | nil => exact .inl (by simpa using hname.symm)
    | cons c inner =>
        -- the place would start in the name of the scheme
        obtain ⟨rfl, -⟩ := List.cons.inj hrest
        refine absurd ?_ hscheme.colon_not_mem
        rw [hname]
        exact List.mem_append_right _ List.mem_cons_self

/-- A pattern whose targets are links, for no source and for those that bring a broken host. -/
theorem sound_of_wellFormed (hpattern : Link.WellFormed pattern) (hplace : editPlace <:+: pattern)
    (hempty : Link.WellFormed (Text.replace editPlace [] pattern))
    (hbroken : ∀ slashes, (∀ c ∈ slashes, c = '\\') →
      Link.WellFormed (Text.replace editPlace (brokenSource slashes) pattern)) : Sound pattern := by
  rcases hpattern.leads with ⟨hhas, -⟩ | hrelative
  · obtain ⟨front, behind, rfl, hfirst⟩ := Text.exists_first (by decide) hplace
    obtain ⟨scheme, rest, heq, hscheme⟩ := Link.hasScheme_iff.mp hhas
    rcases front_cases hscheme heq.symm with rfl | ⟨inner, rfl, rfl⟩
    · exact absurd (hbroken [] (List.forall_mem_nil _)) (not_wellFormed_replace_colon hscheme)
    · have hinner : ¬editPlace <:+: ':' :: inner := fun h =>
        hfirst (h.trans (List.suffix_append scheme _).isInfix)
      rw [heq] at hbroken hempty ⊢
      by_cases hdecisive : Url.Decisive (Url.SchemeKind.of (Text.lower scheme)) inner
      · exact .decisive hscheme hinner hdecisive
      by_cases hroot : Url.Rootless (Url.SchemeKind.of (Text.lower scheme)) inner
      · refine .rootless hscheme hroot ((hempty.leads.resolve_right ?_).2)
        rw [replace_scheme hscheme hinner]
        exact (Link.hasScheme_iff.mpr ⟨scheme, _, rfl, hscheme⟩).not_isRelative
      · obtain ⟨slashes, hslashes, hnot⟩ :=
          exists_not_wellFormed_replace hscheme hinner hdecisive hroot
        exact absurd (hbroken slashes hslashes) hnot
  · exact .relative hrelative

/-- The targets of an edit link are links for all sources exactly when its pattern is sound. -/
theorem targets_are_links_iff {raw : Draft.Edit} {field : FieldPath}
    (h : EditLink.resolve field raw = pure edit) :
    (∀ source, source ≠ [] → (∀ c ∈ source, Text.isBlank c = false) → ∀ place,
      Link.check (some (edit.urlFor source)) place = pure (edit.urlFor source)) ↔
      Sound edit.pattern := by
  have haccepted := resolve_eq_pure.mp h
  have hpattern : Link.WellFormed edit.pattern := Link.problem?_eq_none.mp haccepted.pattern.2
  simp only [Link.check_some_eq_pure]
  constructor
  · intro hall
    apply sound_of_wellFormed hpattern (Text.contains_iff_infix.mp haccepted.place)
    · exact hall ['/'] (List.cons_ne_nil _ _) (Text.forall_of_any_eq_false rfl) []
    · intro slashes hslashes
      have htarget := hall _ brokenSource_ne_nil (brokenSource_unspaced hslashes) []
      rwa [urlFor, trimStartBy_brokenSource hslashes] at htarget
  · intro hsound source _ hsource _
    exact hsound.urlFor_wellFormed hpattern hsource

/-- A pattern with its place behind the host takes any source. -/
theorem targets_are_links_behind_host :
    EditLink.resolve [] { pattern := some "https://x/:path".toList } =
        pure ⟨"https://x/:path".toList, "Edit this page".toList⟩ ∧
      Sound "https://x/:path".toList ∧
      Link.check (some "https://x/guide/intro.md".toList) [] =
        pure "https://x/guide/intro.md".toList := by
  have h : EditLink.resolve [] { pattern := some "https://x/:path".toList } =
      pure ⟨"https://x/:path".toList, "Edit this page".toList⟩ := rfl
  have hdecisive : Url.Decisive (Url.SchemeKind.of (Text.lower "https".toList)) "//x/".toList :=
    .host rfl ⟨'/', by decide, rfl⟩
  have hsound : Sound ("https".toList ++ ':' :: ("//x/".toList ++ (editPlace ++ []))) :=
    .decisive ⟨rfl, List.all_eq_true.mp rfl⟩ (by decide) hdecisive
  exact ⟨h, hsound, (targets_are_links_iff h).mpr hsound "guide/intro.md".toList
    (List.cons_ne_nil _ _) (Text.forall_of_any_eq_false rfl) []⟩

/-- The colon of a scheme is taken for the start of the place, and the target has lost it. -/
theorem not_targets_are_links :
    EditLink.resolve [] { pattern := some "https:path".toList } =
        pure ⟨"https:path".toList, "Edit this page".toList⟩ ∧
      EditLink.urlFor ⟨"https:path".toList, "Edit this page".toList⟩ "guide/intro.md".toList =
        "httpsguide/intro.md".toList ∧
      ∀ place link, Link.check (some "httpsguide/intro.md".toList) place ≠ pure link := by
  refine ⟨rfl, rfl, ?_⟩
  intro place link h
  obtain ⟨hlink, hproblem⟩ := Link.check_eq_pure.mp h
  cases hlink
  exact nomatch hproblem

end EditLink

end Signpost
