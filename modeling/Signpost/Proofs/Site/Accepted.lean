import Mathlib.Data.List.Forall2
import Signpost.Proofs.Checks
import Signpost.Proofs.Outcome
import Signpost.Site.Basic

/-!
# What resolution accepts

For each part of a draft this module says, without fields, positions and problems, when it is
accepted and as what. Every resolver accepts exactly that, so `Site.resolve_eq_ok` describes the
whole of resolution where it succeeds: the sites that come out, and the drafts they come from. Only
links with a pattern depend on how the size of patterns is tested; a laxer test keeps all sites.
-/

namespace Signpost

/-- What every accepted part has holds for each of a list of them. -/
theorem forall_mem_of_accepted {α β : Type} {R : α → β → Prop} {P : β → Prop} {as : List α}
    {bs : List β} (h : List.Forall₂ R as bs) (hpart : ∀ a b, R a b → P b) : ∀ b ∈ bs, P b := by
  induction h with
  | nil => exact List.forall_mem_nil _
  | cons first _ ih => exact List.forall_mem_cons.mpr ⟨hpart _ _ first, ih⟩

/-! ## Texts and links -/

theorem optionalText_eq_some {raw : Option Text} {t : Text} :
    optionalText raw = some t ↔ raw.map Text.trim = some t ∧ t ≠ [] := by
  simp [optionalText, Option.filter_eq_some_iff]

/-- A text that must be there and not blank, whatever problems are reported when it is not. -/
theorem required_eq_pure {raw : Option Text} {field : FieldPath} {missing blank : Problem}
    {t : Text} :
    (match raw.map Text.trim with
      | none => do
        Checked.report field missing
        return []
      | some text => do
        Checked.reportIf text.isEmpty field blank
        return text) = pure t ↔ optionalText raw = some t := by
  rw [optionalText_eq_some]
  cases raw.map Text.trim with
  | none => exact iff_of_false Checked.report_bind_ne_pure (fun h => nomatch h.1)
  | some text =>
      simp only [Checked.reportIf_bind_eq_pure, Checked.pure_inj, Option.some.injEq]
      constructor
      · rintro ⟨h, rfl⟩
        exact ⟨rfl, List.isEmpty_eq_false_iff.mp h⟩
      · rintro ⟨rfl, h⟩
        exact ⟨List.isEmpty_eq_false_iff.mpr h, rfl⟩

theorem requireText_eq_pure {raw : Option Text} {field : FieldPath} {t : Text} :
    requireText raw field = pure t ↔ optionalText raw = some t := by
  rw [requireText]
  exact required_eq_pure

/-- The link that is accepted: there, trimmed, and with nothing wrong about it. -/
def Link.Accepted (raw : Option Text) (link : Text) : Prop :=
  raw.map Text.trim = some link ∧ Link.problem? link = none

theorem Link.check_eq_pure {raw : Option Text} {field : FieldPath} {link : Text} :
    Link.check raw field = pure link ↔ Link.Accepted raw link := by
  rw [Link.check, Link.Accepted]
  cases raw.map Text.trim with
  | none => exact iff_of_false Checked.report_bind_ne_pure (fun h => nomatch h.1)
  | some text =>
      dsimp only
      rw [Option.some.injEq]
      cases h : Link.problem? text with
      | none =>
          rw [Checked.pure_inj]
          constructor
          · rintro rfl
            exact ⟨rfl, h⟩
          · exact And.left
      | some problem =>
          refine iff_of_false Checked.report_bind_ne_pure ?_
          rintro ⟨rfl, hn⟩
          exact nomatch h.symm.trans hn

/-! ## Navigation links and groups -/

variable {sizeTest : Pattern.SizeTest}

theorem Pattern.parse_eq_ok {source : Text} {pattern : Pattern} :
    Pattern.parse source = .ok pattern ↔
      Pattern.read source = .ok pattern ∧ Pattern.SizeTest.fits pattern = true := by
  rw [Pattern.parse, bind_eq_ok]
  constructor
  · rintro ⟨read, hread, hfits⟩
    split at hfits
    · next h =>
        cases hfits
        exact ⟨hread, h⟩
    · cases hfits
  · rintro ⟨hread, hfits⟩
    exact ⟨pattern, hread, if_pos hfits⟩

/-- A pattern that can be read. -/
def Pattern.Readable [Pattern.SizeTest] (source : Text) : Prop :=
  ∃ pattern, Pattern.parse source = .ok pattern

/-- The navigation link that a draft is accepted as. -/
structure NavItem.Accepted [Pattern.SizeTest] (raw : Draft.Nav) (item : NavItem) : Prop where
  text : optionalText raw.text = some item.text
  link : Link.Accepted raw.link item.link
  activeMatch : optionalText raw.activeMatch = item.activeMatch
  readable : ∀ source, item.activeMatch = some source → Pattern.Readable source

theorem NavItem.resolvePattern_eq_pure {field : FieldPath} {raw pattern : Option Text} :
    NavItem.resolvePattern field raw = pure pattern ↔
      optionalText raw = pattern ∧ ∀ source, pattern = some source → Pattern.Readable source := by
  rw [NavItem.resolvePattern]
  cases optionalText raw with
  | none =>
      dsimp only
      rw [Checked.pure_inj]
      refine ⟨?_, And.left⟩
      rintro rfl
      exact ⟨rfl, fun source h => nomatch h⟩
  | some source =>
      dsimp only
      cases hp : Pattern.parse source with
      | ok p =>
          rw [Checked.pure_inj]
          refine ⟨?_, And.left⟩
          rintro rfl
          refine ⟨rfl, ?_⟩
          rintro source' ⟨⟩
          exact ⟨p, hp⟩
      | error e =>
          refine iff_of_false Checked.report_bind_ne_pure ?_
          rintro ⟨rfl, h⟩
          obtain ⟨p, hr⟩ := h source rfl
          exact nomatch hp.symm.trans hr

theorem NavItem.resolve_eq_pure {field : FieldPath} {raw : Draft.Nav} {item : NavItem} :
    NavItem.resolve field raw = pure item ↔ NavItem.Accepted raw item := by
  simp only [NavItem.resolve, Checked.bind_eq_pure, requireText_eq_pure, Link.check_eq_pure,
    NavItem.resolvePattern_eq_pure, Checked.pure_inj]
  constructor
  · rintro ⟨text, ht, link, hl, activeMatch, ⟨ha, hr⟩, rfl⟩
    exact ⟨ht, hl, ha, hr⟩
  · intro h
    exact ⟨item.text, h.text, item.link, h.link, item.activeMatch, ⟨h.activeMatch, h.readable⟩, rfl⟩

theorem NavItem.resolveAll_eq_pure {field : FieldPath} {raw : List Draft.Nav}
    {items : List NavItem} :
    NavItem.resolveAll field raw = pure items ↔ List.Forall₂ NavItem.Accepted raw items :=
  Checked.each_eq_pure (R := NavItem.Accepted) fun _ _ _ => NavItem.resolve_eq_pure

/-- The group that a draft is accepted as. -/
structure SidebarGroup.Accepted [Pattern.SizeTest] (raw : Draft.Group) (group : SidebarGroup) :
    Prop where
  text : optionalText raw.text = some group.text
  items : List.Forall₂ NavItem.Accepted (raw.items.getD []) group.items
  collapsed : raw.collapsed = group.collapsed

theorem SidebarGroup.resolve_eq_pure {field : FieldPath} {raw : Draft.Group}
    {group : SidebarGroup} :
    SidebarGroup.resolve field raw = pure group ↔ SidebarGroup.Accepted raw group := by
  simp only [SidebarGroup.resolve, Checked.bind_eq_pure, requireText_eq_pure,
    NavItem.resolveAll_eq_pure, Checked.pure_inj]
  constructor
  · rintro ⟨text, ht, items, hi, rfl⟩
    exact ⟨ht, hi, rfl⟩
  · intro h
    exact ⟨group.text, h.text, group.items, h.items, by rw [h.collapsed]⟩

/-! ## The sidebar -/

/-- The entry that a key with its groups is accepted as. -/
structure SidebarEntry.Accepted [Pattern.SizeTest] (raw : Text × List Draft.Group)
    (entry : SidebarEntry) : Prop where
  area : Sidebar.area? raw.1 = .ok entry.area
  groups : List.Forall₂ SidebarGroup.Accepted raw.2 entry.groups

/-- The sidebar that a draft is accepted as: no area is declared twice. -/
structure Sidebar.Accepted [Pattern.SizeTest] (raw : Entries (List Draft.Group))
    (sidebar : Sidebar) : Prop where
  entries : List.Forall₂ SidebarEntry.Accepted raw sidebar
  areas : (sidebar.map SidebarEntry.area).Nodup

theorem SidebarEntry.groups_eq_pure {field : FieldPath} {raw : List Draft.Group}
    {groups : List SidebarGroup} :
    Checked.each (fun i group => SidebarGroup.resolve (field.push (.index i)) group) raw
      = pure groups ↔ List.Forall₂ SidebarGroup.Accepted raw groups :=
  Checked.each_eq_pure (R := SidebarGroup.Accepted) fun _ _ _ => SidebarGroup.resolve_eq_pure

/-- The areas declared before are the ones that an accepted rest must not declare again. -/
theorem Sidebar.resolveFrom_eq_pure {field : FieldPath} {seen : List (Text × Text)}
    {raw : Entries (List Draft.Group)} {sidebar : Sidebar} :
    Sidebar.resolveFrom field seen raw = pure sidebar ↔
      Sidebar.Accepted raw sidebar ∧ ∀ entry ∈ sidebar, entry.area ∉ seen.map Prod.fst := by
  induction raw generalizing seen sidebar with
  | nil =>
      rw [Sidebar.resolveFrom, Checked.pure_inj]
      constructor
      · rintro rfl
        exact ⟨⟨.nil, List.nodup_nil⟩, fun entry h => nomatch h⟩
      · rintro ⟨⟨⟨⟩, _⟩, _⟩
        rfl
  | cons first rest ih =>
      obtain ⟨key, groups⟩ := first
      rw [Sidebar.resolveFrom]
      cases ha : Sidebar.area? key with
      | error problem =>
          refine iff_of_false Checked.report_bind_ne_pure ?_
          rintro ⟨⟨_ | ⟨⟨h, _⟩, _⟩, _⟩, _⟩
          exact nomatch ha.symm.trans h
      | ok area =>
          dsimp only
          cases hs : seen.find? (·.1 == area) with
          | some found =>
              refine iff_of_false Checked.report_bind_ne_pure ?_
              rintro ⟨⟨_ | ⟨⟨h, _⟩, _⟩, _⟩, hnew⟩
              obtain rfl := Except.ok.inj (ha.symm.trans h)
              have hfst := List.find?_some hs
              rw [beq_iff_eq] at hfst
              refine hnew _ List.mem_cons_self (List.mem_map.mpr ⟨found, ?_, hfst⟩)
              exact List.mem_of_find?_eq_some hs
          | none =>
              have hfresh : area ∉ seen.map Prod.fst := by
                rintro h
                obtain ⟨found, hmem, rfl⟩ := List.mem_map.mp h
                exact List.find?_eq_none.mp hs found hmem BEq.rfl
              simp only [Checked.bind_eq_pure, SidebarEntry.groups_eq_pure, ih, Checked.pure_inj]
              constructor
              · rintro ⟨groups', hg, entries, ⟨⟨he, hd⟩, hnew⟩, rfl⟩
                refine ⟨⟨.cons ⟨ha, hg⟩ he, List.nodup_cons.mpr ⟨?_, hd⟩⟩, ?_⟩
                · intro h
                  obtain ⟨entry, hmem, rfl⟩ := List.mem_map.mp h
                  exact hnew entry hmem List.mem_cons_self
                · rintro entry (_ | ⟨_, hmem⟩)
                  · exact hfresh
                  · exact fun h => hnew entry hmem (List.mem_cons_of_mem _ h)
              · rintro ⟨⟨_ | @⟨_, entry, _, entries, ⟨h, hg⟩, he⟩, hd⟩, hnew⟩
                obtain rfl := Except.ok.inj (ha.symm.trans h)
                obtain ⟨hnot, hd⟩ := List.nodup_cons.mp hd
                refine ⟨entry.groups, hg, entries, ⟨⟨he, hd⟩, ?_⟩, rfl⟩
                intro other hmem
                rw [List.map_cons, List.mem_cons]
                rintro (heq | h)
                · exact hnot (List.mem_map.mpr ⟨other, hmem, heq⟩)
                · exact hnew other (List.mem_cons_of_mem _ hmem) h

theorem Sidebar.resolve_eq_pure {field : FieldPath} {raw : Entries (List Draft.Group)}
    {sidebar : Sidebar} :
    Sidebar.resolve field raw = pure sidebar ↔ Sidebar.Accepted raw sidebar := by
  rw [Sidebar.resolve, Sidebar.resolveFrom_eq_pure]
  exact and_iff_left fun _ _ h => nomatch h

/-! ## Tags for the head -/

/-- Attributes whose names are pair names and differ in more than the case of letters. -/
structure HeadTag.WellNamed (attributes : Entries Text) : Prop where
  names : ∀ pair ∈ attributes, HeadTag.isAttributeName pair.1 = true
  distinct : (attributes.map fun pair => Text.lower pair.1).Nodup

/-- The tag that a draft is accepted as. -/
structure HeadTag.Accepted (raw : Draft.Head) (tag : HeadTag) : Prop where
  tagName : Text.trim (raw.tag.getD []) = tag.tagName
  isTagName : HeadTag.isTagName tag.tagName = true
  attributes : raw.attributes = tag.attributes
  wellNamed : HeadTag.WellNamed tag.attributes
  content : raw.content = tag.content

theorem HeadTag.checkNames_eq_pure {field : FieldPath} {seen : List Text}
    {attributes : Entries Text} {u : Unit} :
    HeadTag.checkNames field seen attributes = pure u ↔
      HeadTag.WellNamed attributes ∧
        ∀ pair ∈ attributes, Text.lower pair.1 ∉ seen := by
  induction attributes generalizing seen with
  | nil =>
      exact iff_of_true rfl
        ⟨⟨List.forall_mem_nil _, List.nodup_nil⟩, List.forall_mem_nil _⟩
  | cons first rest ih =>
      obtain ⟨name, value⟩ := first
      rw [HeadTag.checkNames]
      by_cases hn : HeadTag.isAttributeName name = true
      · by_cases hs : Text.lower name ∈ seen
        · rw [hn, if_neg (by simp), if_pos (by simpa using hs)]
          refine iff_of_false Checked.report_bind_ne_pure ?_
          exact fun h => h.2 _ List.mem_cons_self hs
        · rw [hn, if_neg (by simp), if_neg (by simpa using hs), ih]
          constructor
          · rintro ⟨⟨hnames, hd⟩, hnew⟩
            refine ⟨⟨List.forall_mem_cons.mpr ⟨hn, hnames⟩, List.nodup_cons.mpr ⟨?_, hd⟩⟩,
              List.forall_mem_cons.mpr ⟨hs, ?_⟩⟩
            · intro h
              obtain ⟨pair, hmem, heq⟩ := List.mem_map.mp h
              exact hnew pair hmem (heq ▸ List.mem_cons_self)
            · exact fun pair hmem h => hnew pair hmem (List.mem_cons_of_mem _ h)
          · rintro ⟨⟨hnames, hd⟩, hnew⟩
            obtain ⟨hnot, hd⟩ := List.nodup_cons.mp hd
            refine ⟨⟨fun pair hmem => hnames pair (List.mem_cons_of_mem _ hmem), hd⟩, ?_⟩
            intro pair hmem h
            rcases List.mem_cons.mp h with heq | h
            · exact hnot (List.mem_map.mpr ⟨pair, hmem, heq⟩)
            · exact hnew pair (List.mem_cons_of_mem _ hmem) h
      · rw [if_pos (by simpa using hn)]
        refine iff_of_false Checked.report_bind_ne_pure ?_
        exact fun h => hn (h.1.names _ List.mem_cons_self)

theorem HeadTag.resolve_eq_pure {field : FieldPath} {raw : Draft.Head} {tag : HeadTag} :
    HeadTag.resolve field raw = pure tag ↔ HeadTag.Accepted raw tag := by
  have hrest : (do
      HeadTag.checkNames (field.field "attributes") [] raw.attributes
      return ⟨Text.trim (raw.tag.getD []), raw.attributes, raw.content⟩) = pure tag ↔
        HeadTag.WellNamed raw.attributes ∧
          HeadTag.mk (Text.trim (raw.tag.getD [])) raw.attributes raw.content = tag := by
    simp only [Checked.bind_eq_pure, HeadTag.checkNames_eq_pure, Checked.pure_inj]
    exact ⟨fun ⟨_, ⟨h, _⟩, heq⟩ => ⟨h, heq⟩, fun ⟨h, heq⟩ => ⟨(), ⟨h, fun _ _ h => nomatch h⟩, heq⟩⟩
  rw [HeadTag.resolve]
  dsimp only
  split
  · rename_i hempty
    refine iff_of_false Checked.report_bind_ne_pure ?_
    intro h
    have hname := h.isTagName
    rw [← h.tagName, List.isEmpty_iff.mp hempty] at hname
    exact nomatch hname
  · rw [Checked.reportIf_bind_eq_pure, hrest, Bool.not_eq_false']
    constructor
    · rintro ⟨hname, hnamed, rfl⟩
      exact ⟨rfl, hname, rfl, hnamed, rfl⟩
    · intro h
      refine ⟨h.tagName ▸ h.isTagName, h.attributes ▸ h.wellNamed, ?_⟩
      rw [h.tagName, h.attributes, h.content]

/-! ## The theme -/

/-- The profile link that a draft is accepted as. -/
structure SocialLink.Accepted (raw : Draft.Social) (social : SocialLink) : Prop where
  link : Link.Accepted raw.link social.link
  icon : (optionalText raw.icon).bind Icon.ofName? = some social.icon
  ariaLabel : optionalText raw.ariaLabel = social.ariaLabel

theorem Icon.ofName?_name (icon : Icon) : Icon.ofName? icon.name = some icon := by
  cases icon <;> rfl

theorem SocialLink.resolveIcon_eq_pure {field : FieldPath} {raw : Option Text}
    {found : Option Icon} :
    SocialLink.resolveIcon field raw = pure found ↔
      ∃ icon, found = some icon ∧ (optionalText raw).bind Icon.ofName? = some icon := by
  rw [SocialLink.resolveIcon]
  cases optionalText raw with
  | none =>
      refine iff_of_false Checked.report_bind_ne_pure ?_
      exact fun ⟨_, _, h⟩ => nomatch h
  | some name =>
      dsimp only
      rw [Option.bind_some]
      cases Icon.ofName? name with
      | none =>
          refine iff_of_false Checked.report_bind_ne_pure ?_
          exact fun ⟨_, _, h⟩ => nomatch h
      | some icon =>
          rw [Checked.pure_inj]
          constructor
          · rintro rfl
            exact ⟨icon, rfl, rfl⟩
          · rintro ⟨_, rfl, h⟩
            exact h

/-- Where no problem is met no profile link is left out. -/
theorem SocialLink.resolve_eq_pure {field : FieldPath} {raw : Draft.Social}
    {found : Option SocialLink} :
    SocialLink.resolve field raw = pure found ↔
      ∃ social, found = some social ∧ SocialLink.Accepted raw social := by
  simp only [SocialLink.resolve, Checked.bind_eq_pure, Link.check_eq_pure,
    SocialLink.resolveIcon_eq_pure, Checked.pure_inj]
  constructor
  · rintro ⟨link, hl, _, ⟨icon, rfl, hi⟩, rfl⟩
    exact ⟨⟨icon, link, optionalText raw.ariaLabel⟩, rfl, hl, hi, rfl⟩
  · rintro ⟨social, rfl, h⟩
    refine ⟨social.link, h.link, _, ⟨social.icon, rfl, h.icon⟩, ?_⟩
    rw [h.ariaLabel]
    rfl

/-- The link to the source that a draft is accepted as. -/
structure EditLink.Accepted (raw : Draft.Edit) (edit : EditLink) : Prop where
  pattern : Link.Accepted raw.pattern edit.pattern
  place : Text.contains Problem.editPlace edit.pattern = true
  text : (optionalText raw.text).getD EditLink.defaultText = edit.text

theorem Link.Accepted.ne_nil {raw : Option Text} {link : Text} (h : Link.Accepted raw link) :
    link ≠ [] := by
  rintro rfl
  exact nomatch h.2

theorem EditLink.resolve_eq_pure {field : FieldPath} {raw : Draft.Edit} {edit : EditLink} :
    EditLink.resolve field raw = pure edit ↔ EditLink.Accepted raw edit := by
  simp only [EditLink.resolve, Checked.bind_eq_pure, Link.check_eq_pure,
    Checked.reportIf_eq_pure, Checked.pure_inj]
  constructor
  · rintro ⟨pattern, hl, _, hp, rfl⟩
    refine ⟨hl, ?_, rfl⟩
    simpa [hl.ne_nil] using hp
  · intro h
    refine ⟨edit.pattern, h.pattern, (), ?_, ?_⟩
    · rw [h.place, Bool.not_true, Bool.and_false]
    · rw [h.text]

/-- The theme that a draft is accepted as. -/
structure Theme.Accepted [Pattern.SizeTest] (raw : Draft.Theme) (theme : Theme) : Prop where
  logo : Option.Rel (fun logo link => Link.Accepted (some logo) link) raw.logo theme.logo
  nav : List.Forall₂ NavItem.Accepted (raw.nav.getD []) theme.nav
  sidebar : Sidebar.Accepted (raw.sidebar.getD []) theme.sidebar
  socialLinks : List.Forall₂ SocialLink.Accepted (raw.socialLinks.getD []) theme.socialLinks
  footer : raw.footer.bind Footer.resolve = theme.footer
  editLink : Option.Rel EditLink.Accepted raw.editLink theme.editLink

/-- A list that holds something at every place comes from a list without gaps. -/
theorem forall₂_exists_some {α β : Type} {R : α → β → Prop} {as : List α} {found : List (Option β)} :
    List.Forall₂ (fun a o => ∃ b, o = some b ∧ R a b) as found ↔
      ∃ bs, found = bs.map some ∧ List.Forall₂ R as bs := by
  constructor
  · intro h
    induction h with
    | nil => exact ⟨[], rfl, .nil⟩
    | cons first _ ih =>
        obtain ⟨b, rfl, hb⟩ := first
        obtain ⟨bs, rfl, hbs⟩ := ih
        exact ⟨b :: bs, rfl, .cons hb hbs⟩
  · rintro ⟨bs, rfl, h⟩
    rw [List.forall₂_map_right_iff]
    exact h.imp fun _ b hb => ⟨b, rfl, hb⟩

theorem Theme.socialLinks_eq_pure {field : FieldPath} {raw : List Draft.Social}
    {found : List (Option SocialLink)} :
    Checked.each (fun i link => SocialLink.resolve (field.push (.index i)) link) raw = pure found ↔
      ∃ links, found = links.map some ∧ List.Forall₂ SocialLink.Accepted raw links := by
  rw [← forall₂_exists_some]
  exact Checked.each_eq_pure
    (R := fun raw found => ∃ link, found = some link ∧ SocialLink.Accepted raw link)
    fun _ _ _ => SocialLink.resolve_eq_pure

theorem Theme.resolve_eq_pure {field : FieldPath} {raw : Draft.Theme} {theme : Theme} :
    Theme.resolve field raw = pure theme ↔ Theme.Accepted raw theme := by
  have hlogo {logo : Option Text} :
      Checked.optional (fun logo => Link.check (some logo) (field.field "logo")) raw.logo = pure logo
        ↔ Option.Rel (fun logo link => Link.Accepted (some logo) link) raw.logo logo :=
    Checked.optional_eq_pure fun _ _ => Link.check_eq_pure
  have hedit {edit : Option EditLink} :
      Checked.optional (EditLink.resolve (field.field "editLink")) raw.editLink = pure edit ↔
        Option.Rel EditLink.Accepted raw.editLink edit :=
    Checked.optional_eq_pure fun _ _ => EditLink.resolve_eq_pure
  simp only [Theme.resolve, Checked.bind_eq_pure, NavItem.resolveAll_eq_pure,
    Sidebar.resolve_eq_pure, hlogo, Theme.socialLinks_eq_pure, hedit, Checked.pure_inj]
  constructor
  · rintro ⟨logo, hl, nav, hn, sidebar, hs, _, ⟨socialLinks, rfl, hp⟩, editLink, he, rfl⟩
    refine ⟨hl, hn, hs, ?_, rfl, he⟩
    simpa using hp
  · intro h
    refine ⟨theme.logo, h.logo, theme.nav, h.nav, theme.sidebar, h.sidebar, _,
      ⟨theme.socialLinks, rfl, h.socialLinks⟩, theme.editLink, h.editLink, ?_⟩
    rw [h.footer]
    simp

/-! ## Sites -/

/-- The site that a draft is accepted as. -/
structure Site.Accepted [Pattern.SizeTest] (raw : Draft) (site : Site) : Prop where
  title : optionalText raw.title = some site.title
  lang : (optionalText raw.lang).getD Site.defaultLang = site.lang
  isLanguageTag : Site.isLanguageTag site.lang = true
  absolute : Text.startsWith ['/'] ((raw.base.map Text.trim).getD Site.defaultBase) = true
  unspaced : ((raw.base.map Text.trim).getD Site.defaultBase).any Text.isBlank = false
  base : Text.withTrailingSlash ((raw.base.map Text.trim).getD Site.defaultBase) = site.base
  description : (raw.description.map Text.trim).getD [] = site.description
  lastUpdated : raw.lastUpdated.getD false = site.lastUpdated
  cleanUrls : raw.cleanUrls.getD false = site.cleanUrls
  head : List.Forall₂ HeadTag.Accepted (raw.head.getD []) site.head
  theme : Theme.Accepted (raw.theme.getD {}) site.theme

theorem Site.resolveTitle_eq_pure {raw : Option Text} {title : Text} :
    Site.resolveTitle raw = pure title ↔ optionalText raw = some title := by
  rw [Site.resolveTitle]
  exact required_eq_pure

theorem Site.resolveLang_eq_pure {raw : Option Text} {lang : Text} :
    Site.resolveLang raw = pure lang ↔
      (optionalText raw).getD Site.defaultLang = lang ∧ Site.isLanguageTag lang = true := by
  rw [Site.resolveLang]
  cases optionalText raw with
  | none =>
      rw [Option.getD_none, Checked.pure_inj]
      refine (and_iff_left_of_imp ?_).symm
      rintro rfl
      decide
  | some text =>
      simp only [Option.getD_some, Checked.reportIf_bind_eq_pure, Checked.pure_inj]
      constructor
      · rintro ⟨h, rfl⟩
        exact ⟨rfl, by simpa using h⟩
      · rintro ⟨rfl, h⟩
        exact ⟨by simpa using h, rfl⟩

theorem Site.resolveBase_eq_pure {raw : Option Text} {base : Text} :
    Site.resolveBase raw = pure base ↔
      Text.startsWith ['/'] ((raw.map Text.trim).getD Site.defaultBase) = true ∧
        ((raw.map Text.trim).getD Site.defaultBase).any Text.isBlank = false ∧
        Text.withTrailingSlash ((raw.map Text.trim).getD Site.defaultBase) = base := by
  rw [Site.resolveBase]
  cases raw.map Text.trim with
  | none =>
      simp only [Option.getD_none, Checked.pure_inj]
      exact ⟨fun h => ⟨rfl, rfl, h⟩, fun h => h.2.2⟩
  | some text =>
      simp only [Option.getD_some]
      by_cases hs : Text.startsWith ['/'] text = true
      · by_cases hb : text.any Text.isBlank = true
        · rw [if_pos (by simp [hb])]
          refine iff_of_false Checked.report_bind_ne_pure ?_
          exact fun h => Bool.false_ne_true (h.2.1.symm.trans hb)
        · rw [Bool.not_eq_true] at hb
          rw [if_neg (by simp [hs, hb]), Checked.pure_inj]
          exact ⟨fun h => ⟨hs, hb, h⟩, fun h => h.2.2⟩
      · rw [if_pos (by simp [hs])]
        exact iff_of_false Checked.report_bind_ne_pure fun h => hs h.1

theorem Site.check_eq_pure {raw : Draft} {site : Site} :
    Site.check raw = pure site ↔ Site.Accepted raw site := by
  have hhead {head : List HeadTag} :
      Checked.each (fun i tag => HeadTag.resolve ((FieldPath.field [] "head").push (.index i)) tag)
        (raw.head.getD []) = pure head ↔ List.Forall₂ HeadTag.Accepted (raw.head.getD []) head :=
    Checked.each_eq_pure (R := HeadTag.Accepted) fun _ _ _ => HeadTag.resolve_eq_pure
  simp only [Site.check, Checked.bind_eq_pure, Site.resolveTitle_eq_pure, Site.resolveLang_eq_pure,
    Site.resolveBase_eq_pure, Theme.resolve_eq_pure, hhead, Checked.pure_inj]
  constructor
  · rintro ⟨title, ht, lang, ⟨hl, htag⟩, base, ⟨hs, hu, hb⟩, head, hh, theme, hm, rfl⟩
    exact ⟨ht, hl, htag, hs, hu, hb, rfl, rfl, rfl, hh, hm⟩
  · intro h
    refine ⟨site.title, h.title, site.lang, ⟨h.lang, h.isLanguageTag⟩, site.base,
      ⟨h.absolute, h.unspaced, h.base⟩, site.head, h.head, site.theme, h.theme, ?_⟩
    rw [h.description, h.lastUpdated, h.cleanUrls]

/-- Resolution gives exactly the site that a draft is accepted as. -/
theorem Site.resolve_eq_ok {raw : Draft} {site : Site} :
    Site.resolve raw = .ok site ↔ Site.Accepted raw site := by
  rw [Site.resolve, Checked.result_eq_ok, Site.check_eq_pure]

/-! ## Laxer size tests -/

/-- One size test is laxer than another when all patterns pass it that pass the other. -/
instance : LE Pattern.SizeTest where
  le strict lax := ∀ pattern, strict.fits pattern = true → lax.fits pattern = true

/-- The size test that no pattern passes but for those that pass all of them. -/
@[reducible]
def Pattern.SizeTest.strictest : Pattern.SizeTest where
  fits := Pattern.isShortRow
  fits_of_isShortRow _ h := h

theorem Pattern.SizeTest.strictest_le : strictest ≤ sizeTest := sizeTest.fits_of_isShortRow

section LaxerTests

variable {strict lax : Pattern.SizeTest}

theorem Pattern.Readable.of_le {source : Text} (h : @Pattern.Readable strict source)
    (hle : strict ≤ lax) : @Pattern.Readable lax source := by
  obtain ⟨pattern, hpattern⟩ := h
  obtain ⟨hread, hfits⟩ := Pattern.parse_eq_ok.mp hpattern
  exact ⟨pattern, Pattern.parse_eq_ok.mpr ⟨hread, hle pattern hfits⟩⟩

theorem NavItem.Accepted.of_le {raw : Draft.Nav} {item : NavItem}
    (h : @NavItem.Accepted strict raw item) (hle : strict ≤ lax) :
    @NavItem.Accepted lax raw item := by
  obtain ⟨htext, hlink, hactive, hreadable⟩ := h
  exact ⟨htext, hlink, hactive, fun source hsource => (hreadable source hsource).of_le hle⟩

theorem SidebarGroup.Accepted.of_le {raw : Draft.Group} {group : SidebarGroup}
    (h : @SidebarGroup.Accepted strict raw group) (hle : strict ≤ lax) :
    @SidebarGroup.Accepted lax raw group := by
  obtain ⟨htext, hitems, hcollapsed⟩ := h
  exact ⟨htext, hitems.imp fun _ _ hitem => hitem.of_le hle, hcollapsed⟩

theorem SidebarEntry.Accepted.of_le {raw : Text × List Draft.Group} {entry : SidebarEntry}
    (h : @SidebarEntry.Accepted strict raw entry) (hle : strict ≤ lax) :
    @SidebarEntry.Accepted lax raw entry := by
  obtain ⟨harea, hgroups⟩ := h
  exact ⟨harea, hgroups.imp fun _ _ hgroup => hgroup.of_le hle⟩

theorem Theme.Accepted.of_le {raw : Draft.Theme} {theme : Theme}
    (h : @Theme.Accepted strict raw theme) (hle : strict ≤ lax) :
    @Theme.Accepted lax raw theme := by
  obtain ⟨hlogo, hnav, ⟨hentries, hareas⟩, hsocial, hfooter, hedit⟩ := h
  have hnav := hnav.imp fun _ _ hitem => hitem.of_le hle
  have hentries := hentries.imp fun _ _ hentry => hentry.of_le hle
  exact ⟨hlogo, hnav, ⟨hentries, hareas⟩, hsocial, hfooter, hedit⟩

/-- A draft keeps its site when the size test gets laxer. -/
theorem Site.resolve_of_le {raw : Draft} {site : Site} (h : @Site.resolve strict raw = .ok site)
    (hle : strict ≤ lax) : @Site.resolve lax raw = .ok site := by
  obtain ⟨htitle, hlang, htag, habsolute, hunspaced, hbase, hdescription, hupdated, hurls, hhead,
    htheme⟩ := Site.resolve_eq_ok.mp h
  exact Site.resolve_eq_ok.mpr ⟨htitle, hlang, htag, habsolute, hunspaced, hbase, hdescription,
    hupdated, hurls, hhead, htheme.of_le hle⟩

end LaxerTests

end Signpost
