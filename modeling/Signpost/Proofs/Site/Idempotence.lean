import Signpost.Pattern.Size
import Signpost.Proofs.Site.Accepted
import Signpost.Proofs.Text.Trim

/-!
# Resolving a resolved site again

The draft of a resolved site is accepted as that site again, part by part, with one exception: a
sidebar key is unescaped once more by each resolution, so the area of an entry need not be the area
that it declares itself. A site is therefore a fixed point of resolution exactly when each area of
its sidebar declares itself, and some resolved sites are not.
-/

namespace Signpost

/-! ## Texts and links -/

theorem Text.trim_map_trim (raw : Option Text) :
    (raw.map Text.trim).map Text.trim = raw.map Text.trim := by
  rw [Option.map_map]
  exact Option.map_congr fun _ _ => Text.trim_trim

theorem optionalText_optionalText (raw : Option Text) :
    optionalText (optionalText raw) = optionalText raw := by
  cases h : optionalText raw with
  | none => rfl
  | some t =>
      obtain ⟨ht, hne⟩ := optionalText_eq_some.mp h
      refine optionalText_eq_some.mpr ⟨?_, hne⟩
      rw [← ht, Text.trim_map_trim]

/-- A text that was accepted is accepted as itself. -/
theorem optionalText_some_self {raw : Option Text} {t : Text} (h : optionalText raw = some t) :
    optionalText (some t) = some t := by
  rw [← h, optionalText_optionalText]

/-- So is a text that a default stands in for, when the default is. -/
theorem optionalText_getD_self {raw : Option Text} {d t : Text} (hd : optionalText (some d) = some d)
    (h : (optionalText raw).getD d = t) : optionalText (some t) = some t := by
  cases hr : optionalText raw with
  | none =>
      rw [hr, Option.getD_none] at h
      exact h ▸ hd
  | some s =>
      rw [hr, Option.getD_some] at h
      exact h ▸ optionalText_some_self hr

theorem Link.Accepted.self {raw : Option Text} {link : Text} (h : Link.Accepted raw link) :
    Link.Accepted (some link) link := by
  refine ⟨?_, h.2⟩
  rw [← h.1, Text.trim_map_trim]

/-- Lists of parts that are each accepted as themselves. -/
theorem forall₂_map_self {α β : Type} {R : α → β → Prop} {f : β → α} {as : List α} {bs : List β}
    (h : List.Forall₂ R as bs) (self : ∀ a b, R a b → R (f b) b) :
    List.Forall₂ R (bs.map f) bs := by
  induction h with
  | nil => exact .nil
  | cons first _ ih => exact .cons (self _ _ first) ih

/-- Parts that may be absent and are each accepted as themselves. -/
theorem optionRel_map_self {α β : Type} {R : α → β → Prop} {f : β → α} {a : Option α} {b : Option β}
    (h : Option.Rel R a b) (self : ∀ a b, R a b → R (f b) b) : Option.Rel R (b.map f) b := by
  cases h with
  | none => exact .none
  | some h => exact .some (self _ _ h)

/-! ## Parts of a site -/

section Resolution

variable {sizeTest : Pattern.SizeTest}

theorem NavItem.Accepted.self {raw : Draft.Nav} {item : NavItem} (h : NavItem.Accepted raw item) :
    NavItem.Accepted item.toDraft item where
  text := optionalText_some_self h.text
  link := h.link.self
  activeMatch := by
    rw [NavItem.toDraft, ← h.activeMatch, optionalText_optionalText]
  readable := h.readable

theorem SidebarGroup.Accepted.self {raw : Draft.Group} {group : SidebarGroup}
    (h : SidebarGroup.Accepted raw group) : SidebarGroup.Accepted group.toDraft group where
  text := optionalText_some_self h.text
  items := forall₂_map_self h.items fun _ _ => NavItem.Accepted.self
  collapsed := rfl

theorem HeadTag.Accepted.self {raw : Draft.Head} {tag : HeadTag} (h : HeadTag.Accepted raw tag) :
    HeadTag.Accepted tag.toDraft tag where
  tagName := by
    rw [HeadTag.toDraft, Draft.Head.tag, Option.getD_some, ← h.tagName, Text.trim_trim]
  isTagName := h.isTagName
  attributes := rfl
  wellNamed := h.wellNamed
  content := rfl

theorem Icon.optionalText_name (icon : Icon) : optionalText (some icon.name) = some icon.name := by
  cases icon <;> rfl

theorem SocialLink.Accepted.self {raw : Draft.Social} {social : SocialLink}
    (h : SocialLink.Accepted raw social) : SocialLink.Accepted social.toDraft social where
  link := h.link.self
  icon := by
    rw [SocialLink.toDraft, Icon.optionalText_name, Option.bind_some, Icon.ofName?_name]
  ariaLabel := by
    rw [SocialLink.toDraft, ← h.ariaLabel, optionalText_optionalText]

/-- The lines that are left of a footer are left of it again. -/
theorem Footer.resolve_toDraft {raw : Draft.Footer} {footer : Footer}
    (h : Footer.resolve raw = some footer) : Footer.resolve footer.toDraft = some footer := by
  cases hm : optionalText raw.message with
  | none =>
      cases hc : optionalText raw.copyright with
      | none => rw [Footer.resolve, hm, hc] at h; exact nomatch h
      | some c =>
          rw [Footer.resolve, hm, hc, Option.some.injEq] at h
          subst h
          rw [Footer.resolve, Footer.toDraft, optionalText_some_self hc]
          rfl
  | some m =>
      rw [Footer.resolve, hm] at h
      dsimp only at h
      rw [Option.some.injEq] at h
      subst h
      rw [Footer.resolve, Footer.toDraft, optionalText_some_self hm, optionalText_optionalText]

theorem EditLink.Accepted.self {raw : Draft.Edit} {edit : EditLink}
    (h : EditLink.Accepted raw edit) : EditLink.Accepted edit.toDraft edit where
  pattern := h.pattern.self
  place := h.place
  text := by
    rw [EditLink.toDraft, optionalText_getD_self rfl h.text, Option.getD_some]

/-- The groups of an accepted sidebar, accepted as themselves. -/
theorem Sidebar.Accepted.groups {raw : Entries (List Draft.Group)} {sidebar : Sidebar}
    (h : Sidebar.Accepted raw sidebar) : ∀ entry ∈ sidebar,
      List.Forall₂ SidebarGroup.Accepted (entry.groups.map SidebarGroup.toDraft) entry.groups :=
  forall_mem_of_accepted h.entries fun _ _ he =>
    forall₂_map_self he.groups fun _ _ => SidebarGroup.Accepted.self

/-- A sidebar that was accepted is accepted as itself exactly when its areas declare themselves. -/
theorem Sidebar.Accepted.toDraft_iff {raw : Entries (List Draft.Group)} {sidebar : Sidebar}
    (h : Sidebar.Accepted raw sidebar) :
    Sidebar.Accepted sidebar.toDraft sidebar ↔
      ∀ entry ∈ sidebar, Sidebar.area? entry.area = .ok entry.area := by
  have hentries : List.Forall₂ SidebarEntry.Accepted sidebar.toDraft sidebar ↔
      ∀ entry ∈ sidebar, Sidebar.area? entry.area = .ok entry.area := by
    rw [Sidebar.toDraft, List.forall₂_map_left_iff, List.forall₂_same]
    exact forall₂_congr fun entry hmem => ⟨fun he => he.area, fun ha => ⟨ha, h.groups entry hmem⟩⟩
  exact ⟨fun h' => hentries.mp h'.entries, fun ha => ⟨hentries.mpr ha, h.areas⟩⟩

/-- All of a theme but its sidebar is accepted as itself, beside any sidebar that is accepted. -/
theorem Theme.Accepted.withSidebar {raw : Draft.Theme} {theme : Theme}
    {entries : Entries (List Draft.Group)} {sidebar : Sidebar} (h : Theme.Accepted raw theme)
    (hs : Sidebar.Accepted entries sidebar) :
    Theme.Accepted { theme.toDraft with sidebar := some entries } { theme with sidebar } := by
  refine ⟨?_, ?_, hs, ?_, ?_, ?_⟩
  · have hlogo := optionRel_map_self (f := id) h.logo fun _ _ => Link.Accepted.self
    rwa [Option.map_id] at hlogo
  · exact forall₂_map_self h.nav fun _ _ => NavItem.Accepted.self
  · exact forall₂_map_self h.socialLinks fun _ _ => SocialLink.Accepted.self
  · cases hf : theme.footer with
    | none => rw [Theme.toDraft, hf]; rfl
    | some footer =>
        obtain ⟨rawFooter, -, hr⟩ := Option.bind_eq_some_iff.mp (h.footer.trans hf)
        rw [Theme.toDraft, hf]
        exact Footer.resolve_toDraft hr
  · exact optionRel_map_self h.editLink fun _ _ => EditLink.Accepted.self

theorem Theme.Accepted.toDraft_iff {raw : Draft.Theme} {theme : Theme}
    (h : Theme.Accepted raw theme) :
    Theme.Accepted theme.toDraft theme ↔ Sidebar.Accepted theme.sidebar.toDraft theme.sidebar :=
  ⟨fun h' => h'.sidebar, fun hs => h.withSidebar hs⟩

/-! ## Sites -/

/-- All of a site but its theme is accepted as itself, beside any theme that is accepted. -/
theorem Site.Accepted.withTheme {raw : Draft} {site : Site} {draft : Draft.Theme} {theme : Theme}
    (h : Site.Accepted raw site) (ht : Theme.Accepted draft theme) :
    Site.Accepted { site.toDraft with theme := some draft } { site with theme } := by
  have unspaced : site.base.any Text.isBlank = false := by
    rw [← h.base]
    exact Text.unspaced_withTrailingSlash h.unspaced
  have base : (site.toDraft.base.map Text.trim).getD Site.defaultBase = site.base :=
    Text.trim_eq_self_of_unspaced unspaced
  constructor
  case title => exact optionalText_some_self h.title
  case lang => rw [Site.toDraft, optionalText_getD_self rfl h.lang, Option.getD_some]
  case isLanguageTag => exact h.isLanguageTag
  case absolute =>
    rw [base, ← h.base]
    exact Text.startsWith_withTrailingSlash h.absolute
  case unspaced => rw [base, unspaced]
  case base => rw [base, ← h.base, Text.withTrailingSlash_withTrailingSlash]
  case description =>
    rw [Site.toDraft, ← h.description]
    cases raw.description with
    | none => rfl
    | some text => exact Text.trim_trim
  case lastUpdated => rfl
  case cleanUrls => rfl
  case head => exact forall₂_map_self h.head fun _ _ => HeadTag.Accepted.self
  case theme => exact ht

theorem Site.Accepted.toDraft_iff {raw : Draft} {site : Site} (h : Site.Accepted raw site) :
    Site.Accepted site.toDraft site ↔ Theme.Accepted site.theme.toDraft site.theme :=
  ⟨fun h' => h'.theme, fun ht => h.withTheme ht⟩

/-- A resolved site resolves to itself exactly when each area of its sidebar declares itself. -/
theorem Site.resolve_toDraft_iff [Pattern.SizeTest] {raw : Draft} {site : Site}
    (h : Site.resolve raw = .ok site) :
    Site.resolve site.toDraft = .ok site ↔
      ∀ entry ∈ site.theme.sidebar, Sidebar.area? entry.area = .ok entry.area := by
  have hacc := Site.resolve_eq_ok.mp h
  rw [Site.resolve_eq_ok, hacc.toDraft_iff, hacc.theme.toDraft_iff, hacc.theme.sidebar.toDraft_iff]

end Resolution

/-- A site with one sidebar entry, for the area that a key declares, and without groups. -/
def Site.withArea (area : Text) : Site where
  lang := Site.defaultLang
  title := ['X']
  description := []
  base := Site.defaultBase
  lastUpdated := false
  cleanUrls := false
  head := []
  theme := { sidebar := [⟨area, []⟩] }

/-- The draft of such a site, with the key as it was written. -/
def Draft.withKey (key : Text) : Draft :=
  { title := some ['X'], theme := some { sidebar := some [(key, [])] } }

theorem Site.resolve_toDraft_plain_key :
    Site.resolve (Draft.withKey "/guide".toList) = .ok (Site.withArea "/guide/".toList) ∧
      Site.resolve (Site.withArea "/guide/".toList).toDraft
        = .ok (Site.withArea "/guide/".toList) := by
  have h : Site.resolve (Draft.withKey "/guide".toList) = .ok (Site.withArea "/guide/".toList) := rfl
  refine ⟨h, (Site.resolve_toDraft_iff h).mpr ?_⟩
  exact List.forall_mem_singleton.mpr rfl

/-- A key that escapes a percent sign: its area is unescaped when it is declared again. -/
theorem Site.resolve_toDraft_escaped_key :
    ¬∀ (raw : Draft) (site : Site), Site.resolve raw = .ok site →
      Site.resolve site.toDraft = .ok site := by
  intro h
  have h' := h (Draft.withKey "/%2541".toList) (Site.withArea "/%41/".toList) rfl
  exact absurd (Checked.result_eq_ok.mp h') (by decide)

end Signpost
