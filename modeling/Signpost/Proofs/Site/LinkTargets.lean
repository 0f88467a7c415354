import Signpost.Proofs.PagePath
import Signpost.Proofs.Site.EditTargets
import Signpost.Proofs.Url.Schemes

/-!
# Where links lead

A link is told from a path by its start, before it is read as a URL. The reader of URLs tells them
apart in the same way: what is accepted as a path within the site is a reference to it, and what is
accepted with a scheme is a URL. A reference leads to the site of its page, whatever site that is,
with one exception. Behind two slashes a host is read, and such a link, although it is accepted as a
path within the site, leads to the same place from all sites.
-/

namespace Signpost.Link

variable {link raw : Text} {field : FieldPath} {page page' : Url}

theorem check_problems_eq_nil :
    (check (some raw) field).problems = [] ↔ WellFormed (Text.trim raw) := by
  rw [← problem?_eq_none, check, Option.map_some]
  dsimp only
  cases problem? (Text.trim raw) with
  | none => exact iff_of_true rfl rfl
  | some problem => exact iff_of_false (List.cons_ne_nil _ _) (Option.some_ne_none _)

/-! ## Schemes -/

theorem hasScheme_iff_parse (hclean : Url.clean link = link) :
    HasScheme link ↔ Url.parse link ≠ .error .relativeWithoutBase := by
  rw [Ne, Url.parse_eq_relative, not_not, hasScheme_iff, hclean]

/-- The lead of a path is kept by cleaning and starts no scheme. -/
theorem IsRelative.exists_lead (h : IsRelative link)
    (hunspaced : ∀ c ∈ link, Text.isBlank c = false) :
    ∃ c t, link = c :: t ∧ (c = '/' ∨ c = '.' ∨ c = '#') ∧
      Url.clean link = c :: Url.trimControls t := by
  rcases h with ⟨t, rfl⟩ | ⟨t, rfl⟩ | ⟨t, rfl⟩ | ⟨t, rfl⟩
  · exact ⟨'/', t, rfl, .inl rfl, Url.clean_cons (by decide) hunspaced⟩
  · exact ⟨'.', '/' :: t, rfl, .inr (.inl rfl), Url.clean_cons (by decide) hunspaced⟩
  · exact ⟨'.', '.' :: '/' :: t, rfl, .inr (.inl rfl), Url.clean_cons (by decide) hunspaced⟩
  · exact ⟨'#', t, rfl, .inr (.inr rfl), Url.clean_cons (by decide) hunspaced⟩

theorem IsRelative.splitScheme? (h : IsRelative link)
    (hunspaced : ∀ c ∈ link, Text.isBlank c = false) :
    Url.splitScheme? (Url.clean link) = none := by
  obtain ⟨c, t, rfl, hc, hclean⟩ := h.exists_lead hunspaced
  rw [hclean]
  rcases hc with rfl | rfl | rfl <;> exact Url.splitScheme?_cons_of_not_isLetter rfl

theorem IsRelative.parse (h : IsRelative link) (hunspaced : ∀ c ∈ link, Text.isBlank c = false) :
    Url.parse link = .error .relativeWithoutBase := by
  rw [Url.parse, h.splitScheme? hunspaced]

/-- An accepted link is either a URL, to the reader too, or a reference to it. -/
theorem WellFormed.isExternal_iff_reads (h : WellFormed link) :
    (isExternal link = true ↔ ∃ url, Url.parse link = .ok url) ∧
      (isExternal link = false ↔ Url.parse link = .error .relativeWithoutBase) := by
  rw [← Bool.not_eq_true, isExternal_iff]
  rcases h.leads with ⟨hscheme, url, hurl⟩ | hrelative
  · refine ⟨iff_of_true hscheme ⟨url, hurl⟩, iff_of_false (not_not_intro hscheme) ?_⟩
    rw [hurl]
    exact nofun
  · have hscheme : ¬HasScheme link := fun hscheme => hscheme.not_isRelative hrelative
    have hparse := hrelative.parse h.unspaced
    refine ⟨iff_of_false hscheme ?_, iff_of_true hscheme hparse⟩
    rw [hparse]
    exact not_error_eq_ok

/-- A text without white space and controls starts with a scheme exactly when the reader of URLs
takes it for a URL, be it one that can be read or not. Every accepted link is read as a URL or is a
reference, as it starts. -/
theorem isExternal_iff_parse :
    (∀ link : Text, (∀ c ∈ link, Text.isBlank c = false ∧ Text.isControl c = false) →
      (isExternal link = true ↔ (∃ url, Url.parse link = .ok url) ∨
        ∃ e, Url.parse link = .error e ∧ e ≠ .relativeWithoutBase)) ∧
      ∀ (raw : Text) (field : FieldPath), (check (some raw) field).problems = [] →
        (isExternal (Text.trim raw) = true ↔ ∃ url, Url.parse (Text.trim raw) = .ok url) ∧
          (isExternal (Text.trim raw) = false ↔
            Url.parse (Text.trim raw) = .error .relativeWithoutBase) := by
  constructor
  · intro link hlink
    have hclean : Url.clean link = link := Url.clean_eq_self
      (fun c hc => PagePath.toNat_visible (hlink c hc).2 (hlink c hc).1) fun c hc => (hlink c hc).1
    rw [isExternal_iff, hasScheme_iff_parse hclean]
    cases Url.parse link with
    | ok url => exact iff_of_true nofun (.inl ⟨url, rfl⟩)
    | error e => simp
  · intro raw field h
    exact (check_problems_eq_nil.mp h).isExternal_iff_reads

/-- A URL that cannot be read, and a path within the site. -/
theorem isExternal_iff_parse_colons :
    isExternal "https://".toList = true ∧
      (check (some " ./a:b ".toList) []).problems = [] ∧
      Url.parse "./a:b".toList = .error .relativeWithoutBase := by
  have hplain : ∀ c ∈ "https://".toList, Text.isBlank c = false ∧ Text.isControl c = false :=
    fun c hc => ⟨Text.forall_of_any_eq_false rfl c hc, Text.forall_of_any_eq_false rfl c hc⟩
  have hexternal := (isExternal_iff_parse.1 "https://".toList hplain).mpr
    (.inr ⟨.emptyHost, rfl, by decide⟩)
  exact ⟨hexternal, rfl, (isExternal_iff_parse.2 " ./a:b ".toList [] rfl).2.mp rfl⟩

/-! ## Sites -/

/-- The URL of a page that is served on the web. -/
def IsWebPage (page : Url) : Prop :=
  (∃ t, Url.parse t = .ok page) ∧ (page.scheme = "http".toList ∨ page.scheme = "https".toList)

/-- The link leads from the page to the site of the page. -/
def StaysOnSite (link : Text) (page : Url) : Prop :=
  ∃ url, Url.join page link = .ok url ∧ url.origin = page.origin

/-- A link behind whose start a host is read. -/
def NamesHost (link : Text) : Prop := ['/', '/'] <+: link ∨ ['/', '\\'] <+: link

theorem IsRelative.join (h : IsRelative link) (hunspaced : ∀ c ∈ link, Text.isBlank c = false) :
    Url.join page link = Url.follow page (Url.clean link) := by
  rw [Url.join, h.splitScheme? hunspaced]

theorem namesHost_cons {c : Char} {t : Text} :
    NamesHost (c :: t) ↔ c = '/' ∧ ∃ d rest, t = d :: rest ∧ Url.isSlash .web d = true := by
  have hslash {d : Char} : Url.isSlash .web d = true ↔ d = '/' ∨ d = '\\' := by
    simp [Url.isSlash, Url.SchemeKind.isSpecial]
  constructor
  · rintro (h | h)
    · obtain ⟨rfl, rest, rfl⟩ := List.cons_prefix_cons.mp h
      exact ⟨rfl, _, rest, rfl, rfl⟩
    · obtain ⟨rfl, rest, rfl⟩ := List.cons_prefix_cons.mp h
      exact ⟨rfl, _, rest, rfl, rfl⟩
  · rintro ⟨rfl, d, rest, rfl, hd⟩
    rcases hslash.mp hd with rfl | rfl
    · exact .inl ⟨rest, rfl⟩
    · exact .inr ⟨rest, rfl⟩

/-- Controls at the end of a link do not hide its host. -/
theorem IsRelative.startsAuthority_iff (h : IsRelative link)
    (hunspaced : ∀ c ∈ link, Text.isBlank c = false) :
    Url.StartsAuthority (Url.clean link) ↔ NamesHost link := by
  obtain ⟨c, t, rfl, hc, hclean⟩ := h.exists_lead hunspaced
  rw [hclean, namesHost_cons]
  constructor
  · rintro ⟨_, d, rest, heq, hslash, hd⟩
    obtain ⟨rfl, htrim⟩ := List.cons.inj heq
    have honly : c = '/' := by
      rcases hc with rfl | rfl | rfl
      · rfl
      · exact nomatch hslash
      · exact nomatch hslash
    obtain ⟨behind, hbehind⟩ := htrim ▸ Url.trimControls_starts (t := t)
    exact ⟨honly, d, rest ++ behind, hbehind.symm, hd⟩
  · rintro ⟨rfl, d, rest, rfl, hd⟩
    have hvisible : ¬d.toNat ≤ 0x20 := fun hcontrol => Bool.false_ne_true
      ((Url.eq_false_of_control (p := Url.isSlash .web) (by decide) hcontrol).symm.trans hd)
    have htrim : Url.trimControls (d :: rest) = d :: Url.trimControls rest :=
      Url.trimControls_append_cons (t := []) hvisible
    exact ⟨'/', d, _, by rw [htrim], rfl, hd⟩

/-- Where a host is read, nothing of the page matters but its scheme. -/
theorem NamesHost.join_eq (hnames : NamesHost link) (h : IsRelative link)
    (hunspaced : ∀ c ∈ link, Text.isBlank c = false) (hscheme : page.scheme = page'.scheme) :
    Url.join page link = Url.join page' link := by
  rw [h.join hunspaced, h.join hunspaced]
  exact ((h.startsAuthority_iff hunspaced).mpr hnames).follow_eq hscheme

theorem IsRelative.staysOnSite (h : IsRelative link)
    (hunspaced : ∀ c ∈ link, Text.isBlank c = false) (hnames : ¬NamesHost link) :
    StaysOnSite link page := by
  rw [StaysOnSite, h.join hunspaced]
  exact Url.follow_origin (mt (h.startsAuthority_iff hunspaced).mp hnames)

/-- The page at the root of a site of the web. -/
def homePage (host : Host) : Url := ⟨"http".toList, some host, none, .segments [[]]⟩

theorem isWebPage_homePage : IsWebPage (homePage (.domain ['a'])) ∧
    IsWebPage (homePage (.domain ['b'])) :=
  ⟨⟨⟨"http://a/".toList, rfl⟩, .inl rfl⟩, ⟨⟨"http://b/".toList, rfl⟩, .inl rfl⟩⟩

/-- A link that leads to one place does not stay on two sites. -/
theorem NamesHost.not_staysOnSite (hnames : NamesHost link) (h : IsRelative link)
    (hunspaced : ∀ c ∈ link, Text.isBlank c = false) :
    ¬∀ page, IsWebPage page → StaysOnSite link page := by
  intro hstays
  obtain ⟨url, hurl, horigin⟩ := hstays _ isWebPage_homePage.1
  obtain ⟨url', hurl', horigin'⟩ := hstays _ isWebPage_homePage.2
  have hsame : Url.join (homePage (.domain ['a'])) link = Url.join (homePage (.domain ['b'])) link :=
    hnames.join_eq h hunspaced rfl
  rw [hsame, hurl'] at hurl
  cases hurl
  exact absurd (horigin.symm.trans horigin') (by decide)

/-- An accepted path within the site leads to the site of its page, on all sites, exactly when no
host is read behind its start. Where one is, the page does not matter: the link leads to the same
place, or nowhere, from all pages with one scheme. -/
theorem staysOnSite_iff (h : (check (some raw) field).problems = [])
    (hinternal : isExternal (Text.trim raw) = false) :
    ((∀ page, IsWebPage page → StaysOnSite (Text.trim raw) page) ↔ ¬NamesHost (Text.trim raw)) ∧
      (NamesHost (Text.trim raw) → ∀ page page' : Url, page.scheme = page'.scheme →
        Url.join page (Text.trim raw) = Url.join page' (Text.trim raw)) := by
  have hlink := check_problems_eq_nil.mp h
  have hrelative : IsRelative (Text.trim raw) := by
    refine hlink.leads.resolve_left fun hscheme => Bool.false_ne_true ?_
    exact hinternal.symm.trans (isExternal_iff.mpr hscheme.1)
  refine ⟨⟨fun hstays hnames => ?_, fun hnames page _ => ?_⟩, fun hnames _ _ hscheme => ?_⟩
  · exact hnames.not_staysOnSite hrelative hlink.unspaced hstays
  · exact hrelative.staysOnSite hlink.unspaced hnames
  · exact hnames.join_eq hrelative hlink.unspaced hscheme

example : (check (some "/\\b/x".toList) []).problems = [] ∧
    Url.join (homePage (.domain ['a'])) "/\\b/x".toList =
      .ok ⟨"http".toList, some (.domain ['b']), none, .segments [['x']]⟩ := ⟨rfl, rfl⟩

/-- A colon and slashes further on do not lead away. -/
theorem staysOnSite_above_page :
    (check (some " ../x://y ".toList) []).problems = [] ∧
      ∀ page, IsWebPage page → StaysOnSite "../x://y".toList page := by
  have hcheck : (check (some " ../x://y ".toList) []).problems = [] := rfl
  refine ⟨hcheck, (staysOnSite_iff hcheck rfl).1.mpr ?_⟩
  rintro (h | h)
  · exact absurd h (by decide)
  · exact absurd h (by decide)

/-- A link of two slashes and a host is accepted as a path within the site and leads away. -/
theorem not_staysOnSite : ¬∀ raw field, (check (some raw) field).problems = [] →
    isExternal (Text.trim raw) = false →
      ∀ page, IsWebPage page → StaysOnSite (Text.trim raw) page := by
  intro h
  obtain ⟨url, hurl, horigin⟩ := h "//elsewhere/guide".toList [] rfl rfl _ isWebPage_homePage.1
  have hjoin : Url.join (homePage (.domain ['a'])) "//elsewhere/guide".toList =
      .ok ⟨"http".toList, some (.domain "elsewhere".toList), none, .segments ["guide".toList]⟩ := rfl
  have htrim : Text.trim "//elsewhere/guide".toList = "//elsewhere/guide".toList := rfl
  rw [htrim, hjoin] at hurl
  cases hurl
  exact absurd horigin (by decide)

end Signpost.Link
