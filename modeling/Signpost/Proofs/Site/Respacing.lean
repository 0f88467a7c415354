import Signpost.Pattern.Size
import Signpost.Proofs.Site.Rules

/-!
# White space around texts

Every text of a draft that is shown, looked up or read as a link, a pattern or a key is trimmed
before anything else happens to it. Two drafts that differ only in the white space around such texts
are therefore accepted alike, and as the same site. Where they are refused the problems may quote
the keys as they were written, so nothing is said about those.
-/

namespace Signpost

namespace Text

/-- A text with white space before and behind it. -/
def Padded (inner t : Text) : Prop :=
  ∃ before behind, Blank before ∧ Blank behind ∧ t = before ++ inner ++ behind

/-- Two texts that differ only in the white space around them. -/
def Respaced (s t : Text) : Prop := ∃ inner, Padded inner s ∧ Padded inner t

theorem trimStartBy_blank_append {before t : Text} (h : Blank before) :
    trimStartBy isBlank (before ++ t) = trimStartBy isBlank t := List.dropWhile_append_of_pos h

theorem trimEndBy_append_blank {t behind : Text} (h : Blank behind) :
    trimEndBy isBlank (t ++ behind) = trimEndBy isBlank t := by
  have hreverse : Blank behind.reverse := fun c hc => h c (List.mem_reverse.mp hc)
  unfold trimEndBy
  rw [List.reverse_append, List.dropWhile_append_of_pos hreverse]

theorem Padded.trim_eq {inner t : Text} (h : Padded inner t) : trim t = trim inner := by
  obtain ⟨before, behind, hbefore, hbehind, rfl⟩ := h
  by_cases hinner : Blank inner
  · -- then nothing is left of either
    have hall : Blank (before ++ inner ++ behind) := by
      intro c hc
      rcases List.mem_append.mp hc with hc | hc
      · exact (List.mem_append.mp hc).elim (hbefore c) (hinner c)
      · exact hbehind c hc
    rw [trim_eq_nil.mpr hall, trim_eq_nil.mpr hinner]
  · have hne : trimStartBy isBlank inner ≠ [] := fun h =>
      hinner (List.dropWhile_eq_nil_iff.mp h)
    have hstart : trimStartBy isBlank (inner ++ behind) = trimStartBy isBlank inner ++ behind := by
      unfold trimStartBy at hne ⊢
      rw [List.dropWhile_append, if_neg (by simpa using hne)]
    unfold trim trimBy
    rw [List.append_assoc, trimStartBy_blank_append hbefore, hstart,
      trimEndBy_append_blank hbehind]

theorem Respaced.trim_eq {s t : Text} (h : Respaced s t) : trim s = trim t := by
  obtain ⟨inner, hs, ht⟩ := h
  rw [hs.trim_eq, ht.trim_eq]

end Text

open Text (Respaced)

namespace Draft

structure Nav.Respaced (d d' : Nav) : Prop where
  text : Option.Rel Text.Respaced d.text d'.text
  link : Option.Rel Text.Respaced d.link d'.link
  activeMatch : Option.Rel Text.Respaced d.activeMatch d'.activeMatch

structure Group.Respaced (d d' : Group) : Prop where
  text : Option.Rel Text.Respaced d.text d'.text
  items : Option.Rel (List.Forall₂ Nav.Respaced) d.items d'.items
  collapsed : d.collapsed = d'.collapsed

/-- A sidebar key with its groups. -/
structure EntryRespaced (entry entry' : Text × List Group) : Prop where
  key : Text.Respaced entry.1 entry'.1
  groups : List.Forall₂ Group.Respaced entry.2 entry'.2

/-- The name of a tag is trimmed, but neither its attributes nor its content are. -/
inductive Head.Respaced : Head → Head → Prop where
  | withContent {tag tag' : Text} (attributes : Entries Text) (content : Text)
      (h : Text.Respaced tag tag') :
      Respaced (.withContent tag attributes content) (.withContent tag' attributes content)
  | simple {tag tag' : Text} (attributes : Entries Text) (h : Text.Respaced tag tag') :
      Respaced (.simple tag attributes) (.simple tag' attributes)
  | table {tag tag' : Option Text} (attributes : Entries Text) (content : Option Text)
      (h : Option.Rel Text.Respaced tag tag') :
      Respaced (.table tag attributes content) (.table tag' attributes content)

structure Social.Respaced (d d' : Social) : Prop where
  icon : Option.Rel Text.Respaced d.icon d'.icon
  link : Option.Rel Text.Respaced d.link d'.link
  ariaLabel : Option.Rel Text.Respaced d.ariaLabel d'.ariaLabel

structure Footer.Respaced (d d' : Footer) : Prop where
  message : Option.Rel Text.Respaced d.message d'.message
  copyright : Option.Rel Text.Respaced d.copyright d'.copyright

structure Edit.Respaced (d d' : Edit) : Prop where
  pattern : Option.Rel Text.Respaced d.pattern d'.pattern
  text : Option.Rel Text.Respaced d.text d'.text

structure Theme.Respaced (d d' : Theme) : Prop where
  logo : Option.Rel Text.Respaced d.logo d'.logo
  nav : Option.Rel (List.Forall₂ Nav.Respaced) d.nav d'.nav
  sidebar : Option.Rel (List.Forall₂ EntryRespaced) d.sidebar d'.sidebar
  socialLinks : Option.Rel (List.Forall₂ Social.Respaced) d.socialLinks d'.socialLinks
  footer : Option.Rel Footer.Respaced d.footer d'.footer
  editLink : Option.Rel Edit.Respaced d.editLink d'.editLink

/-- Two drafts that differ only in the white space around their texts, the attributes and the
content of tags apart. -/
structure Respaced (d d' : Draft) : Prop where
  lang : Option.Rel Text.Respaced d.lang d'.lang
  title : Option.Rel Text.Respaced d.title d'.title
  description : Option.Rel Text.Respaced d.description d'.description
  base : Option.Rel Text.Respaced d.base d'.base
  lastUpdated : d.lastUpdated = d'.lastUpdated
  cleanUrls : d.cleanUrls = d'.cleanUrls
  head : Option.Rel (List.Forall₂ Head.Respaced) d.head d'.head
  theme : Option.Rel Theme.Respaced d.theme d'.theme

end Draft

/-! ## Lists and parts that may be absent -/

section Congruence

variable {α β : Type} {S : α → α → Prop} {R : α → β → Prop}

theorem forall₂_congr_left {as as' : List α} {bs : List β} (h : List.Forall₂ S as as')
    (hpart : ∀ a a' b, S a a' → (R a b ↔ R a' b)) :
    List.Forall₂ R as bs ↔ List.Forall₂ R as' bs := by
  induction h generalizing bs with
  | nil => exact Iff.rfl
  | cons first _ ih =>
      cases bs with
      | nil => exact iff_of_false (fun h => nomatch h) (fun h => nomatch h)
      | cons b bs =>
          rw [List.forall₂_cons, List.forall₂_cons, hpart _ _ b first, ih]

theorem optionRel_congr_left {a a' : Option α} {b : Option β} (h : Option.Rel S a a')
    (hpart : ∀ a a' b, S a a' → (R a b ↔ R a' b)) : Option.Rel R a b ↔ Option.Rel R a' b := by
  cases h with
  | none => exact Iff.rfl
  | @some a a' h =>
      cases b with
      | none => exact iff_of_false (fun h => nomatch h) (fun h => nomatch h)
      | some b => rw [Option.rel_some_some, Option.rel_some_some, hpart _ _ b h]

/-- A list that may be absent counts as empty where it is. -/
theorem forall₂_getD_nil {as as' : Option (List α)} (h : Option.Rel (List.Forall₂ S) as as') :
    List.Forall₂ S (as.getD []) (as'.getD []) := by
  cases h with
  | none => exact .nil
  | some h => exact h

end Congruence

/-! ## Texts and links -/

theorem map_trim_respaced {raw raw' : Option Text} (h : Option.Rel Respaced raw raw') :
    raw.map Text.trim = raw'.map Text.trim := by
  cases h with
  | none => rfl
  | some h => exact congrArg some h.trim_eq

theorem optionalText_respaced {raw raw' : Option Text} (h : Option.Rel Respaced raw raw') :
    optionalText raw = optionalText raw' := by
  unfold optionalText
  rw [map_trim_respaced h]

theorem Link.accepted_respaced {raw raw' : Option Text} {link : Text}
    (h : Option.Rel Respaced raw raw') : Link.Accepted raw link ↔ Link.Accepted raw' link := by
  unfold Link.Accepted
  rw [map_trim_respaced h]

/-! ## Parts of a site -/

section Resolution

variable {sizeTest : Pattern.SizeTest}

theorem NavItem.accepted_respaced {d d' : Draft.Nav} {item : NavItem} (h : d.Respaced d') :
    NavItem.Accepted d item ↔ NavItem.Accepted d' item := by
  have htext := optionalText_respaced h.text
  have hlink : Link.Accepted d.link item.link ↔ Link.Accepted d'.link item.link :=
    Link.accepted_respaced h.link
  have hmatch := optionalText_respaced h.activeMatch
  constructor
  · intro ha
    exact ⟨htext ▸ ha.text, hlink.mp ha.link, hmatch ▸ ha.activeMatch, ha.readable⟩
  · intro ha
    exact ⟨htext ▸ ha.text, hlink.mpr ha.link, hmatch ▸ ha.activeMatch, ha.readable⟩

theorem NavItem.forall₂_respaced {items items' : List Draft.Nav} {accepted : List NavItem}
    (h : List.Forall₂ Draft.Nav.Respaced items items') :
    List.Forall₂ NavItem.Accepted items accepted ↔ List.Forall₂ NavItem.Accepted items' accepted :=
  forall₂_congr_left h fun _ _ _ hitem => NavItem.accepted_respaced hitem

theorem SidebarGroup.accepted_respaced {d d' : Draft.Group} {group : SidebarGroup}
    (h : d.Respaced d') : SidebarGroup.Accepted d group ↔ SidebarGroup.Accepted d' group := by
  have htext := optionalText_respaced h.text
  have hitems : List.Forall₂ NavItem.Accepted (d.items.getD []) group.items ↔
      List.Forall₂ NavItem.Accepted (d'.items.getD []) group.items :=
    NavItem.forall₂_respaced (forall₂_getD_nil h.items)
  constructor
  · intro ha
    exact ⟨htext ▸ ha.text, hitems.mp ha.items, h.collapsed ▸ ha.collapsed⟩
  · intro ha
    exact ⟨htext ▸ ha.text, hitems.mpr ha.items, h.collapsed ▸ ha.collapsed⟩

/-- Whether a key is sound and what area it declares is seen once it is trimmed. -/
theorem Sidebar.area?_respaced {key key' area : Text} (h : Respaced key key') :
    Sidebar.area? key = .ok area ↔ Sidebar.area? key' = .ok area := by
  unfold Sidebar.area?
  rw [h.trim_eq]
  dsimp only
  split
  · exact iff_of_false (fun h => nomatch h) (fun h => nomatch h)
  · split
    · exact iff_of_false (fun h => nomatch h) (fun h => nomatch h)
    · split
      · exact iff_of_false (fun h => nomatch h) (fun h => nomatch h)
      · exact Iff.rfl

theorem SidebarEntry.accepted_respaced {raw raw' : Text × List Draft.Group} {entry : SidebarEntry}
    (h : Draft.EntryRespaced raw raw') :
    SidebarEntry.Accepted raw entry ↔ SidebarEntry.Accepted raw' entry := by
  have hkey : Sidebar.area? raw.1 = .ok entry.area ↔ Sidebar.area? raw'.1 = .ok entry.area :=
    Sidebar.area?_respaced h.key
  have hgroups : List.Forall₂ SidebarGroup.Accepted raw.2 entry.groups ↔
      List.Forall₂ SidebarGroup.Accepted raw'.2 entry.groups :=
    forall₂_congr_left h.groups fun _ _ _ hgroup => SidebarGroup.accepted_respaced hgroup
  constructor
  · intro ha
    exact ⟨hkey.mp ha.area, hgroups.mp ha.groups⟩
  · intro ha
    exact ⟨hkey.mpr ha.area, hgroups.mpr ha.groups⟩

theorem Sidebar.accepted_respaced {raw raw' : Entries (List Draft.Group)} {sidebar : Sidebar}
    (h : List.Forall₂ Draft.EntryRespaced raw raw') :
    Sidebar.Accepted raw sidebar ↔ Sidebar.Accepted raw' sidebar := by
  have hentries : List.Forall₂ SidebarEntry.Accepted raw sidebar ↔
      List.Forall₂ SidebarEntry.Accepted raw' sidebar :=
    forall₂_congr_left h fun _ _ _ hentry => SidebarEntry.accepted_respaced hentry
  constructor
  · intro ha
    exact ⟨hentries.mp ha.entries, ha.areas⟩
  · intro ha
    exact ⟨hentries.mpr ha.entries, ha.areas⟩

theorem HeadTag.accepted_respaced {d d' : Draft.Head} {tag : HeadTag} (h : d.Respaced d') :
    HeadTag.Accepted d tag ↔ HeadTag.Accepted d' tag := by
  have hname : Text.trim (d.tag.getD []) = Text.trim (d'.tag.getD []) := by
    cases h with
    | withContent _ _ h => exact h.trim_eq
    | simple _ h => exact h.trim_eq
    | table _ _ h =>
        cases h with
        | none => rfl
        | some h => exact h.trim_eq
  have hattributes : d.attributes = d'.attributes := by cases h <;> rfl
  have hcontent : d.content = d'.content := by cases h <;> rfl
  constructor
  · intro ha
    exact ⟨hname ▸ ha.tagName, ha.isTagName, hattributes ▸ ha.attributes, ha.wellNamed,
      hcontent ▸ ha.content⟩
  · intro ha
    exact ⟨hname ▸ ha.tagName, ha.isTagName, hattributes ▸ ha.attributes, ha.wellNamed,
      hcontent ▸ ha.content⟩

theorem SocialLink.accepted_respaced {d d' : Draft.Social} {social : SocialLink}
    (h : d.Respaced d') : SocialLink.Accepted d social ↔ SocialLink.Accepted d' social := by
  have hlink : Link.Accepted d.link social.link ↔ Link.Accepted d'.link social.link :=
    Link.accepted_respaced h.link
  have hicon := optionalText_respaced h.icon
  have hlabel := optionalText_respaced h.ariaLabel
  constructor
  · intro ha
    exact ⟨hlink.mp ha.link, hicon ▸ ha.icon, hlabel ▸ ha.ariaLabel⟩
  · intro ha
    exact ⟨hlink.mpr ha.link, hicon ▸ ha.icon, hlabel ▸ ha.ariaLabel⟩

theorem Footer.resolve_respaced {d d' : Draft.Footer} (h : d.Respaced d') :
    Footer.resolve d = Footer.resolve d' := by
  unfold Footer.resolve
  rw [optionalText_respaced h.message, optionalText_respaced h.copyright]

theorem Footer.bind_resolve_respaced {raw raw' : Option Draft.Footer}
    (h : Option.Rel Draft.Footer.Respaced raw raw') :
    raw.bind Footer.resolve = raw'.bind Footer.resolve := by
  cases h with
  | none => rfl
  | some h => exact Footer.resolve_respaced h

theorem EditLink.accepted_respaced {d d' : Draft.Edit} {edit : EditLink} (h : d.Respaced d') :
    EditLink.Accepted d edit ↔ EditLink.Accepted d' edit := by
  have hpattern : Link.Accepted d.pattern edit.pattern ↔ Link.Accepted d'.pattern edit.pattern :=
    Link.accepted_respaced h.pattern
  have htext := optionalText_respaced h.text
  constructor
  · intro ha
    exact ⟨hpattern.mp ha.pattern, ha.place, htext ▸ ha.text⟩
  · intro ha
    exact ⟨hpattern.mpr ha.pattern, ha.place, htext ▸ ha.text⟩

theorem Theme.accepted_respaced {d d' : Draft.Theme} {theme : Theme} (h : d.Respaced d') :
    Theme.Accepted d theme ↔ Theme.Accepted d' theme := by
  have hlogo : Option.Rel (fun logo link => Link.Accepted (some logo) link) d.logo theme.logo ↔
      Option.Rel (fun logo link => Link.Accepted (some logo) link) d'.logo theme.logo :=
    optionRel_congr_left h.logo fun _ _ _ hlogo => Link.accepted_respaced (.some hlogo)
  have hnav : List.Forall₂ NavItem.Accepted (d.nav.getD []) theme.nav ↔
      List.Forall₂ NavItem.Accepted (d'.nav.getD []) theme.nav :=
    NavItem.forall₂_respaced (forall₂_getD_nil h.nav)
  have hsidebar : Sidebar.Accepted (d.sidebar.getD []) theme.sidebar ↔
      Sidebar.Accepted (d'.sidebar.getD []) theme.sidebar :=
    Sidebar.accepted_respaced (forall₂_getD_nil h.sidebar)
  have hsocial : List.Forall₂ SocialLink.Accepted (d.socialLinks.getD []) theme.socialLinks ↔
      List.Forall₂ SocialLink.Accepted (d'.socialLinks.getD []) theme.socialLinks :=
    forall₂_congr_left (forall₂_getD_nil h.socialLinks) fun _ _ _ hlink =>
      SocialLink.accepted_respaced hlink
  have hfooter := Footer.bind_resolve_respaced h.footer
  have hedit : Option.Rel EditLink.Accepted d.editLink theme.editLink ↔
      Option.Rel EditLink.Accepted d'.editLink theme.editLink :=
    optionRel_congr_left h.editLink fun _ _ _ hedit => EditLink.accepted_respaced hedit
  constructor
  · intro ha
    exact ⟨hlogo.mp ha.logo, hnav.mp ha.nav, hsidebar.mp ha.sidebar, hsocial.mp ha.socialLinks,
      hfooter ▸ ha.footer, hedit.mp ha.editLink⟩
  · intro ha
    exact ⟨hlogo.mpr ha.logo, hnav.mpr ha.nav, hsidebar.mpr ha.sidebar, hsocial.mpr ha.socialLinks,
      hfooter ▸ ha.footer, hedit.mpr ha.editLink⟩

theorem Theme.accepted_getD_respaced {d d' : Option Draft.Theme} {theme : Theme}
    (h : Option.Rel Draft.Theme.Respaced d d') :
    Theme.Accepted (d.getD {}) theme ↔ Theme.Accepted (d'.getD {}) theme := by
  cases h with
  | none => exact Iff.rfl
  | some h => exact Theme.accepted_respaced h

/-! ## Sites -/

theorem Site.accepted_respaced {d d' : Draft} {site : Site} (h : d.Respaced d') :
    Site.Accepted d site ↔ Site.Accepted d' site := by
  have htitle := optionalText_respaced h.title
  have hlang := optionalText_respaced h.lang
  have hbase := map_trim_respaced h.base
  have hdescription := map_trim_respaced h.description
  have hhead : List.Forall₂ HeadTag.Accepted (d.head.getD []) site.head ↔
      List.Forall₂ HeadTag.Accepted (d'.head.getD []) site.head :=
    forall₂_congr_left (forall₂_getD_nil h.head) fun _ _ _ htag => HeadTag.accepted_respaced htag
  have htheme : Theme.Accepted (d.theme.getD {}) site.theme ↔
      Theme.Accepted (d'.theme.getD {}) site.theme := Theme.accepted_getD_respaced h.theme
  constructor
  · intro ha
    exact {
      title := htitle ▸ ha.title
      lang := hlang ▸ ha.lang
      isLanguageTag := ha.isLanguageTag
      absolute := hbase ▸ ha.absolute
      unspaced := hbase ▸ ha.unspaced
      base := hbase ▸ ha.base
      description := hdescription ▸ ha.description
      lastUpdated := h.lastUpdated ▸ ha.lastUpdated
      cleanUrls := h.cleanUrls ▸ ha.cleanUrls
      head := hhead.mp ha.head
      theme := htheme.mp ha.theme }
  · intro ha
    exact {
      title := htitle ▸ ha.title
      lang := hlang ▸ ha.lang
      isLanguageTag := ha.isLanguageTag
      absolute := hbase ▸ ha.absolute
      unspaced := hbase ▸ ha.unspaced
      base := hbase ▸ ha.base
      description := hdescription ▸ ha.description
      lastUpdated := h.lastUpdated ▸ ha.lastUpdated
      cleanUrls := h.cleanUrls ▸ ha.cleanUrls
      head := hhead.mpr ha.head
      theme := htheme.mpr ha.theme }

/-- White space around the texts of a draft decides neither on whether a site comes out nor on
which. -/
theorem Site.resolve_spacing [Pattern.SizeTest] {d d' : Draft} {site : Site} (h : d.Respaced d') :
    Site.resolve d = .ok site ↔ Site.resolve d' = .ok site := by
  rw [Site.resolve_eq_ok, Site.resolve_eq_ok, Site.accepted_respaced h]

end Resolution

/-- A draft with the same white space around each of its texts. -/
def Draft.spaced (space : Text) : Draft :=
  let around (t : Text) : Text := space ++ t ++ space
  { title := some (around ['X'])
    lang := some (around [])
    base := some (around "/docs".toList)
    head := some [.simple (around "meta".toList) []]
    theme := some {
      sidebar := some [(around "/a".toList, [{ text := some (around ['A']) }])]
      editLink := some { pattern := some (around "/:path".toList) } } }

theorem Text.respaced_around {space space' : Text} (h : Blank space) (h' : Blank space')
    (inner : Text) : Respaced (space ++ inner ++ space) (space' ++ inner ++ space') :=
  ⟨inner, ⟨space, space, h, h, rfl⟩, ⟨space', space', h', h', rfl⟩⟩

theorem Draft.spaced_respaced {space space' : Text} (h : Text.Blank space)
    (h' : Text.Blank space') : (Draft.spaced space).Respaced (Draft.spaced space') where
  lang := .some (Text.respaced_around h h' _)
  title := .some (Text.respaced_around h h' _)
  description := .none
  base := .some (Text.respaced_around h h' _)
  lastUpdated := rfl
  cleanUrls := rfl
  head := .some (.cons (.simple _ (Text.respaced_around h h' _)) .nil)
  theme := .some {
    logo := .none
    nav := .none
    sidebar := .some (.cons ⟨Text.respaced_around h h' _,
      .cons ⟨.some (Text.respaced_around h h' _), .none, rfl⟩ .nil⟩ .nil)
    socialLinks := .none
    footer := .none
    editLink := .some ⟨.some (Text.respaced_around h h' _), .none⟩ }

/-- A blank language is a default with or without a line break in it. -/
theorem Site.resolve_spacing_around :
    (Draft.spaced []).Respaced (Draft.spaced [' ', '\n']) ∧
      ∃ site, Site.resolve (Draft.spaced []) = .ok site ∧
        Site.resolve (Draft.spaced [' ', '\n']) = .ok site := by
  have hrelated : (Draft.spaced []).Respaced (Draft.spaced [' ', '\n']) :=
    Draft.spaced_respaced (Text.trim_eq_nil.mp rfl) (Text.trim_eq_nil.mp rfl)
  have haccepted : Site.resolve (Draft.spaced []) = .ok (Site.check (Draft.spaced [])).value := rfl
  exact ⟨hrelated, _, haccepted, (Site.resolve_spacing hrelated).mp haccepted⟩

end Signpost
