import Signpost.Pattern.Size
import Signpost.Proofs.Site.Rules

/-!
# What resolution reports

Every resolver keeps to the field of its part, so a problem can be traced to the part it was found
in. `Site.reports_element_iff` says for each tag, navigation link, profile link, sidebar group and
sidebar link when something is reported at it: exactly when it breaks a rule and, within the
sidebar, its key is not refused. The groups under a refused key are not looked at.
-/

namespace Signpost

open Checked (Reports Within within_pure within_report within_reportIf within_refuse within_refuseIf
  reports_bind)

/-! ## Fields -/

theorem FieldPath.prefix_push (p : FieldPath) (s : Step) : p <+: p.push s := List.prefix_append _ _

theorem FieldPath.prefix_field (p : FieldPath) (name : String) : p <+: p.field name :=
  p.prefix_push _

/-! ## Resolvers keep to their fields -/

section Resolvers

variable {sizeTest : Pattern.SizeTest} {field path : FieldPath}

theorem requireText_within {raw : Option Text} : Within field (requireText raw field) := by
  rw [requireText]
  split
  · exact within_refuse
  · exact within_refuseIf

theorem Link.check_within {raw : Option Text} : Within field (Link.check raw field) := by
  rw [Link.check]
  split
  · exact within_refuse
  · split
    · exact within_pure
    · exact within_refuse

theorem NavItem.resolvePattern_within {raw : Option Text} :
    Within field (NavItem.resolvePattern field raw) := by
  rw [NavItem.resolvePattern]
  split
  · exact within_pure
  · split
    · exact within_pure
    · exact within_refuse

theorem NavItem.resolve_within {raw : Draft.Nav} : Within field (NavItem.resolve field raw) := by
  refine requireText_within.step.bind fun _ => ?_
  refine Link.check_within.step.bind fun _ => ?_
  exact NavItem.resolvePattern_within.step.bind fun _ => within_pure

theorem NavItem.resolveAll_within {raw : List Draft.Nav} :
    Within field (NavItem.resolveAll field raw) :=
  Checked.within_each fun _ _ => NavItem.resolve_within

theorem SidebarGroup.resolve_within {raw : Draft.Group} :
    Within field (SidebarGroup.resolve field raw) := by
  refine requireText_within.step.bind fun _ => ?_
  exact NavItem.resolveAll_within.step.bind fun _ => within_pure

theorem HeadTag.checkNames_within {seen : List Text} {attributes : Entries Text} :
    Within field (HeadTag.checkNames field seen attributes) := by
  induction attributes generalizing seen with
  | nil => exact within_pure
  | cons first rest ih =>
      rw [HeadTag.checkNames]
      split
      · exact (within_report (field.prefix_push _)).bind fun _ => ih
      · split
        · exact (within_report (field.prefix_push _)).bind fun _ => ih
        · exact ih

theorem HeadTag.resolve_within {raw : Draft.Head} : Within field (HeadTag.resolve field raw) := by
  have hnames : Within field (do
      HeadTag.checkNames (field.field "attributes") [] raw.attributes
      return HeadTag.mk (Text.trim (raw.tag.getD [])) raw.attributes raw.content) :=
    HeadTag.checkNames_within.step.bind fun _ => within_pure
  rw [HeadTag.resolve]
  dsimp only
  split
  · exact (within_report (field.prefix_field _)).bind fun _ => hnames
  · exact (within_reportIf (field.prefix_field _)).bind fun _ => hnames

theorem SocialLink.resolveIcon_within {raw : Option Text} :
    Within field (SocialLink.resolveIcon field raw) := by
  rw [SocialLink.resolveIcon]
  split
  · exact within_refuse
  · split
    · exact within_pure
    · exact within_refuse

theorem SocialLink.resolve_within {raw : Draft.Social} :
    Within field (SocialLink.resolve field raw) := by
  refine Link.check_within.step.bind fun _ => ?_
  exact SocialLink.resolveIcon_within.step.bind fun _ => within_pure

theorem Sidebar.resolveFrom_within {seen : List (Text × Text)}
    {raw : Entries (List Draft.Group)} : Within field (Sidebar.resolveFrom field seen raw) := by
  induction raw generalizing seen with
  | nil => exact within_pure
  | cons first rest ih =>
      rw [Sidebar.resolveFrom]
      split
      · exact (within_report (field.prefix_push _)).bind fun _ => ih
      · split
        · exact (within_report (field.prefix_push _)).bind fun _ => ih
        · refine (Checked.within_each fun _ _ => SidebarGroup.resolve_within).step.bind fun _ => ?_
          exact ih.bind fun _ => within_pure

theorem EditLink.resolve_within {raw : Draft.Edit} : Within field (EditLink.resolve field raw) := by
  refine Link.check_within.step.bind fun _ => ?_
  exact (within_reportIf (field.prefix_field _)).bind fun _ => within_pure

theorem Theme.resolve_within {raw : Draft.Theme} : Within field (Theme.resolve field raw) := by
  refine (Checked.within_optional fun _ => Link.check_within.step).bind fun _ => ?_
  refine NavItem.resolveAll_within.step.bind fun _ => ?_
  refine Sidebar.resolveFrom_within.step.bind fun _ => ?_
  refine (Checked.within_each fun _ _ => SocialLink.resolve_within).step.bind fun _ => ?_
  exact (Checked.within_optional fun _ => EditLink.resolve_within.step).bind fun _ => within_pure

/-! ## Parts report exactly what breaks their rules -/

theorem NavItem.reports_iff {raw : Draft.Nav} :
    Reports field (NavItem.resolve field raw) ↔ ¬raw.Valid := by
  rw [NavItem.resolve_within.reports_iff, ← NavItem.exists_accepted]
  simp only [NavItem.resolve_eq_pure]

theorem SidebarGroup.reports_iff {raw : Draft.Group} :
    Reports field (SidebarGroup.resolve field raw) ↔ ¬raw.Valid := by
  rw [SidebarGroup.resolve_within.reports_iff, ← SidebarGroup.exists_accepted]
  simp only [SidebarGroup.resolve_eq_pure]

theorem HeadTag.reports_iff {raw : Draft.Head} :
    Reports field (HeadTag.resolve field raw) ↔ ¬raw.Valid := by
  rw [HeadTag.resolve_within.reports_iff, ← HeadTag.exists_accepted]
  simp only [HeadTag.resolve_eq_pure]

theorem SocialLink.reports_iff {raw : Draft.Social} :
    Reports field (SocialLink.resolve field raw) ↔ ¬raw.Valid := by
  rw [SocialLink.resolve_within.reports_iff, ← SocialLink.exists_accepted]
  simp only [SocialLink.resolve_eq_pure, exists_comm, exists_eq_left]

theorem NavItem.resolveAll_reports_iff {raw : List Draft.Nav} {i : Nat} :
    Reports (field.push (.index i)) (NavItem.resolveAll field raw) ↔
      ∃ item, raw[i]? = some item ∧ ¬item.Valid := by
  rw [NavItem.resolveAll, Checked.reports_each_at (fun _ _ => NavItem.resolve_within) List.prefix_rfl]
  simp only [NavItem.reports_iff]

/-- The links of a group are heard of apart from its text. -/
theorem SidebarGroup.reports_item_iff {raw : Draft.Group} {j : Nat} :
    Reports ((field.field "items").push (.index j)) (SidebarGroup.resolve field raw) ↔
      ∃ item, (raw.items.getD [])[j]? = some item ∧ ¬item.Valid := by
  have htext : ¬Reports ((field.field "items").push (.index j))
      (requireText raw.text (field.field "text")) :=
    requireText_within.not_reports (by decide) (FieldPath.prefix_push _ _)
  simp only [SidebarGroup.resolve, reports_bind, htext, Checked.not_reports_pure, false_or, or_false,
    NavItem.resolveAll_reports_iff]

/-! ## The sidebar -/

namespace Sidebar

/-- A key with its groups is the first of a sidebar to declare an area. -/
structure Declares (raw : Entries (List Draft.Group)) (key : Text) (groups : List Draft.Group)
    (area : Text) : Prop where
  first : ∃ before after, raw = before ++ (key, groups) :: after ∧
    ∀ entry ∈ before, area? entry.1 ≠ .ok area
  area : area? key = .ok area

theorem declares_cons {first : Text × List Draft.Group} {rest : Entries (List Draft.Group)}
    {key area : Text} {groups : List Draft.Group} :
    Declares (first :: rest) key groups area ↔
      (first = (key, groups) ∧ area? key = .ok area) ∨
        (area? first.1 ≠ .ok area ∧ Declares rest key groups area) := by
  constructor
  · rintro ⟨⟨_ | ⟨_, before⟩, after, heq, hbefore⟩, ha⟩
    · exact .inl ⟨(List.cons.inj heq).1, ha⟩
    · obtain ⟨rfl, hrest⟩ := List.cons.inj heq
      obtain ⟨hfirst, hbefore⟩ := List.forall_mem_cons.mp hbefore
      exact .inr ⟨hfirst, ⟨before, after, hrest, hbefore⟩, ha⟩
  · rintro (⟨rfl, ha⟩ | ⟨hfirst, ⟨before, after, rfl, hbefore⟩, ha⟩)
    · exact ⟨⟨[], rest, rfl, List.forall_mem_nil _⟩, ha⟩
    · exact ⟨⟨first :: before, after, rfl, List.forall_mem_cons.mpr ⟨hfirst, hbefore⟩⟩, ha⟩

/-- A key that does not declare the area can be left out of account. -/
theorem declares_skip {other key area : Text} {skipped groups : List Draft.Group}
    {rest : Entries (List Draft.Group)} (h : area? other ≠ .ok area) :
    Declares ((other, skipped) :: rest) key groups area ↔ Declares rest key groups area := by
  rw [declares_cons, and_iff_right h]
  refine or_iff_right ?_
  rintro ⟨⟨⟩, ha⟩
  exact h ha

/-- What is said about a key is not said about one of its groups. -/
theorem not_reports_key {key other : Text} {i : Nat} {problem : Problem}
    (hpath : (field.push (.key key)).push (.index i) <+: path) :
    ¬Reports path (Checked.report (field.push (.key other)) problem) := by
  rw [Checked.reports_report]
  intro h
  have hlength := (hpath.trans h).length_le
  simp only [FieldPath.push, List.length_append, List.length_singleton] at hlength
  omega

/-- The groups of one key are heard of at that key alone. -/
theorem reports_groups {key other : Text} {i : Nat} {groups : List Draft.Group}
    (hpath : (field.push (.key key)).push (.index i) <+: path) :
    Reports path (Checked.each
      (fun i group => SidebarGroup.resolve ((field.push (.key other)).push (.index i)) group) groups) ↔
      other = key ∧ ∃ group, groups[i]? = some group ∧
        Reports path (SidebarGroup.resolve ((field.push (.key key)).push (.index i)) group) := by
  by_cases hkey : other = key
  · subst hkey
    rw [Checked.reports_each_at (fun _ _ => SidebarGroup.resolve_within) hpath]
    exact (and_iff_right rfl).symm
  · refine iff_of_false ?_ fun h => hkey h.1
    refine (Checked.within_each fun _ _ => SidebarGroup.resolve_within).not_reports ?_
      ((FieldPath.prefix_push _ _).trans hpath)
    simpa using Ne.symm hkey

/-- A group is heard of when its key is the first to declare an area, and the area is not among
those seen before. -/
theorem resolveFrom_reports {seen : List (Text × Text)} {raw : Entries (List Draft.Group)}
    {key : Text} {i : Nat} (hpath : (field.push (.key key)).push (.index i) <+: path) :
    Reports path (resolveFrom field seen raw) ↔
      ∃ groups area, Declares raw key groups area ∧ area ∉ seen.map Prod.fst ∧
        ∃ group, groups[i]? = some group ∧
          Reports path (SidebarGroup.resolve ((field.push (.key key)).push (.index i)) group) := by
  induction raw generalizing seen with
  | nil =>
      refine iff_of_false Checked.not_reports_pure ?_
      rintro ⟨_, _, ⟨⟨before, _, heq, _⟩, _⟩, _⟩
      exact absurd heq.symm (by simp)
  | cons first rest ih =>
      obtain ⟨other, groups⟩ := first
      rw [resolveFrom]
      cases ha : area? other with
      | error problem =>
          simp only [reports_bind, not_reports_key hpath, false_or, ih]
          refine exists₂_congr fun groups' area' => and_congr_left' ?_
          refine (declares_skip fun h => ?_).symm
          rw [ha] at h
          cases h
      | ok area =>
          dsimp only
          cases hs : seen.find? (·.1 == area) with
          | some found =>
              have hseen : area ∈ seen.map Prod.fst := by
                have hfst := List.find?_some hs
                rw [beq_iff_eq] at hfst
                exact hfst ▸ List.mem_map_of_mem (List.mem_of_find?_eq_some hs)
              simp only [reports_bind, not_reports_key hpath, false_or, ih]
              refine exists₂_congr fun groups' area' => ?_
              -- an area that was not seen is none that this key declares
              refine and_congr_left fun h => (declares_skip fun h' => h.1 ?_).symm
              exact Except.ok.inj (ha.symm.trans h') ▸ hseen
          | none =>
              have hfresh : area ∉ seen.map Prod.fst := by
                intro h
                obtain ⟨found, hmem, rfl⟩ := List.mem_map.mp h
                exact List.find?_eq_none.mp hs found hmem BEq.rfl
              simp only [reports_bind, reports_groups hpath, Checked.not_reports_pure, or_false, ih,
                List.map_cons, List.mem_cons, not_or]
              constructor
              · rintro (⟨rfl, group, hg⟩ | ⟨groups', area', hd, ⟨hne, hnew⟩, hg⟩)
                · exact ⟨groups, area, declares_cons.mpr (.inl ⟨rfl, ha⟩), hfresh, group, hg⟩
                · refine ⟨groups', area', (declares_skip fun h => hne ?_).mpr hd, hnew, hg⟩
                  exact Except.ok.inj (h.symm.trans ha)
              · rintro ⟨groups', area', hd, hnew, hg⟩
                rcases declares_cons.mp hd with ⟨⟨⟩, -⟩ | ⟨hne, hd⟩
                · exact .inl ⟨rfl, hg⟩
                · refine .inr ⟨groups', area', hd, ⟨?_, hnew⟩, hg⟩
                  rintro rfl
                  exact hne ha

/-- The groups of an entry are looked at when its key is the first to declare an area. -/
theorem resolve_reports {raw : Entries (List Draft.Group)} {key : Text} {i : Nat}
    (hpath : (field.push (.key key)).push (.index i) <+: path) :
    Reports path (resolve field raw) ↔
      ∃ groups, (∃ area, Declares raw key groups area) ∧ ∃ group, groups[i]? = some group ∧
        Reports path (SidebarGroup.resolve ((field.push (.key key)).push (.index i)) group) := by
  rw [resolve, resolveFrom_reports hpath]
  simp only [List.map_nil, List.not_mem_nil, not_false_eq_true, true_and, exists_and_right]

end Sidebar

/-! ## Themes and sites -/

theorem Theme.logo_within {raw : Option Text} :
    Within (field.field "logo")
      (Checked.optional (fun logo => Link.check (some logo) (field.field "logo")) raw) :=
  Checked.within_optional fun _ => Link.check_within

theorem Theme.nav_within {raw : List Draft.Nav} :
    Within (field.field "nav") (NavItem.resolveAll (field.field "nav") raw) :=
  NavItem.resolveAll_within

theorem Theme.sidebar_within {raw : Entries (List Draft.Group)} :
    Within (field.field "sidebar") (Sidebar.resolve (field.field "sidebar") raw) :=
  Sidebar.resolveFrom_within

theorem Theme.socialLinks_within {raw : List Draft.Social} :
    Within (field.field "socialLinks") (Checked.each (fun i link =>
      SocialLink.resolve ((field.field "socialLinks").push (.index i)) link) raw) :=
  Checked.within_each fun _ _ => SocialLink.resolve_within

theorem Theme.editLink_within {raw : Option Draft.Edit} :
    Within (field.field "editLink")
      (Checked.optional (EditLink.resolve (field.field "editLink")) raw) :=
  Checked.within_optional fun _ => EditLink.resolve_within

/-- The parts of a theme report apart from each other. -/
theorem Theme.reports_iff {raw : Draft.Theme} :
    Reports path (Theme.resolve field raw) ↔
      Reports path (Checked.optional (fun logo => Link.check (some logo) (field.field "logo"))
        raw.logo) ∨
      Reports path (NavItem.resolveAll (field.field "nav") (raw.nav.getD [])) ∨
      Reports path (Sidebar.resolve (field.field "sidebar") (raw.sidebar.getD [])) ∨
      Reports path (Checked.each (fun i link =>
        SocialLink.resolve ((field.field "socialLinks").push (.index i)) link)
        (raw.socialLinks.getD [])) ∨
      Reports path (Checked.optional (EditLink.resolve (field.field "editLink")) raw.editLink) := by
  simp only [Theme.resolve, reports_bind, Checked.not_reports_pure, or_false]

theorem Theme.reports_nav {raw : Draft.Theme} (hpath : field.field "nav" <+: path) :
    Reports path (Theme.resolve field raw) ↔
      Reports path (NavItem.resolveAll (field.field "nav") (raw.nav.getD [])) := by
  rw [Theme.reports_iff, or_iff_right (Theme.logo_within.not_reports (by decide) hpath),
    or_iff_left]
  rintro (h | h | h)
  · exact Theme.sidebar_within.not_reports (by decide) hpath h
  · exact Theme.socialLinks_within.not_reports (by decide) hpath h
  · exact Theme.editLink_within.not_reports (by decide) hpath h

theorem Theme.reports_sidebar {raw : Draft.Theme} (hpath : field.field "sidebar" <+: path) :
    Reports path (Theme.resolve field raw) ↔
      Reports path (Sidebar.resolve (field.field "sidebar") (raw.sidebar.getD [])) := by
  rw [Theme.reports_iff, or_iff_right (Theme.logo_within.not_reports (by decide) hpath),
    or_iff_right (Theme.nav_within.not_reports (by decide) hpath), or_iff_left]
  rintro (h | h)
  · exact Theme.socialLinks_within.not_reports (by decide) hpath h
  · exact Theme.editLink_within.not_reports (by decide) hpath h

theorem Theme.reports_socialLinks {raw : Draft.Theme}
    (hpath : field.field "socialLinks" <+: path) :
    Reports path (Theme.resolve field raw) ↔
      Reports path (Checked.each (fun i link =>
        SocialLink.resolve ((field.field "socialLinks").push (.index i)) link)
        (raw.socialLinks.getD [])) := by
  rw [Theme.reports_iff, or_iff_right (Theme.logo_within.not_reports (by decide) hpath),
    or_iff_right (Theme.nav_within.not_reports (by decide) hpath),
    or_iff_right (Theme.sidebar_within.not_reports (by decide) hpath), or_iff_left]
  exact Theme.editLink_within.not_reports (by decide) hpath

theorem Site.resolveTitle_within {raw : Option Text} :
    Within (FieldPath.field [] "title") (Site.resolveTitle raw) := by
  rw [Site.resolveTitle]
  split
  · exact within_refuse
  · exact within_refuseIf

theorem Site.resolveLang_within {raw : Option Text} :
    Within (FieldPath.field [] "lang") (Site.resolveLang raw) := by
  rw [Site.resolveLang]
  split
  · exact within_pure
  · exact within_refuseIf

theorem Site.resolveBase_within {raw : Option Text} :
    Within (FieldPath.field [] "base") (Site.resolveBase raw) := by
  rw [Site.resolveBase]
  split
  · exact within_pure
  · split
    · exact within_refuse
    · exact within_pure

theorem Site.head_within {raw : List Draft.Head} :
    Within (FieldPath.field [] "head") (Checked.each (fun i tag =>
      HeadTag.resolve ((FieldPath.field [] "head").push (.index i)) tag) raw) :=
  Checked.within_each fun _ _ => HeadTag.resolve_within

/-- The parts of a draft report apart from each other. -/
theorem Site.reports_iff {raw : Draft} :
    Reports path (Site.check raw) ↔
      Reports path (Site.resolveTitle raw.title) ∨ Reports path (Site.resolveLang raw.lang) ∨
      Reports path (Site.resolveBase raw.base) ∨
      Reports path (Checked.each (fun i tag =>
        HeadTag.resolve ((FieldPath.field [] "head").push (.index i)) tag) (raw.head.getD [])) ∨
      Reports path (Theme.resolve (FieldPath.field [] "themeConfig") (raw.theme.getD {})) := by
  simp only [Site.check, reports_bind, Checked.not_reports_pure, or_false]

theorem Site.reports_head {raw : Draft} (hpath : FieldPath.field [] "head" <+: path) :
    Reports path (Site.check raw) ↔ Reports path (Checked.each (fun i tag =>
      HeadTag.resolve ((FieldPath.field [] "head").push (.index i)) tag) (raw.head.getD [])) := by
  rw [Site.reports_iff, or_iff_right (Site.resolveTitle_within.not_reports (by decide) hpath),
    or_iff_right (Site.resolveLang_within.not_reports (by decide) hpath),
    or_iff_right (Site.resolveBase_within.not_reports (by decide) hpath), or_iff_left]
  exact Theme.resolve_within.not_reports (by decide) hpath

theorem Site.reports_theme {raw : Draft} (hpath : FieldPath.field [] "themeConfig" <+: path) :
    Reports path (Site.check raw) ↔
      Reports path (Theme.resolve (FieldPath.field [] "themeConfig") (raw.theme.getD {})) := by
  rw [Site.reports_iff, or_iff_right (Site.resolveTitle_within.not_reports (by decide) hpath),
    or_iff_right (Site.resolveLang_within.not_reports (by decide) hpath),
    or_iff_right (Site.resolveBase_within.not_reports (by decide) hpath),
    or_iff_right (Site.head_within.not_reports (by decide) hpath)]

end Resolvers

/-! ## Elements of a draft -/

/-- Where an element of a draft stands: its position, and within the sidebar its key. -/
inductive Draft.Element where
  | headTag (i : Nat)
  | navItem (i : Nat)
  | socialLink (i : Nat)
  | group (key : Text) (i : Nat)
  | item (key : Text) (i j : Nat)
deriving DecidableEq, Repr

namespace Draft.Element

abbrev themePath : FieldPath := FieldPath.field [] "themeConfig"

abbrev groupPath (key : Text) (i : Nat) : FieldPath :=
  ((themePath.field "sidebar").push (.key key)).push (.index i)

/-- The field of an element. -/
def path : Element → FieldPath
  | headTag i => (FieldPath.field [] "head").push (.index i)
  | navItem i => (themePath.field "nav").push (.index i)
  | socialLink i => (themePath.field "socialLinks").push (.index i)
  | group key i => groupPath key i
  | item key i j => ((groupPath key i).field "items").push (.index j)

/-- A draft has an element here that breaks a rule of its own. Of the sidebar those keys with their
groups count that satisfy `counts`. -/
def Breaks [Pattern.SizeTest] (raw : Draft) (counts : Text → List Draft.Group → Prop) :
    Element → Prop
  | headTag i => ∃ tag, (raw.head.getD [])[i]? = some tag ∧ ¬tag.Valid
  | navItem i => ∃ item, ((raw.theme.getD {}).nav.getD [])[i]? = some item ∧ ¬item.Valid
  | socialLink i => ∃ link, ((raw.theme.getD {}).socialLinks.getD [])[i]? = some link ∧ ¬link.Valid
  | group key i => ∃ groups, counts key groups ∧ ∃ group, groups[i]? = some group ∧ ¬group.Valid
  | item key i j => ∃ groups, counts key groups ∧ ∃ group, groups[i]? = some group ∧
      ∃ item, (group.items.getD [])[j]? = some item ∧ ¬item.Valid

end Draft.Element

/-- The sidebar entries of a draft. -/
def Draft.sidebarEntries (raw : Draft) : Entries (List Draft.Group) :=
  (raw.theme.getD {}).sidebar.getD []

theorem Site.reports_group [Pattern.SizeTest] {raw : Draft} {path : FieldPath} {key : Text}
    {i : Nat} (hpath : Draft.Element.groupPath key i <+: path) :
    Reports path (Site.check raw) ↔
      ∃ groups, (∃ area, Sidebar.Declares raw.sidebarEntries key groups area) ∧
        ∃ group, groups[i]? = some group ∧
          Reports path (SidebarGroup.resolve (Draft.Element.groupPath key i) group) := by
  have hsidebar : Draft.Element.themePath.field "sidebar" <+: path :=
    ((FieldPath.prefix_push _ _).trans (FieldPath.prefix_push _ _)).trans hpath
  rw [Site.reports_theme ((FieldPath.prefix_field _ _).trans hsidebar),
    Theme.reports_sidebar hsidebar, Sidebar.resolve_reports hpath]
  rfl

/-- Resolution fails and says so at the field of an element or below it exactly when such an element
breaks a rule of its own and, within the sidebar, its key is the first to declare an area. What is
wrong elsewhere makes no difference. -/
theorem Site.reports_element_iff [Pattern.SizeTest] {raw : Draft} {e : Draft.Element} :
    (∃ diagnostics, Site.resolve raw = .error diagnostics ∧
        ∃ d ∈ diagnostics, e.path <+: d.field) ↔
      e.Breaks raw fun key groups => ∃ area, Sidebar.Declares raw.sidebarEntries key groups area := by
  rw [Site.resolve, ← Checked.reports_iff_result]
  cases e with
  | headTag i =>
      rw [Draft.Element.path, Site.reports_head (FieldPath.prefix_push _ _),
        Checked.reports_each_at (fun _ _ => HeadTag.resolve_within) List.prefix_rfl]
      simp only [HeadTag.reports_iff, Draft.Element.Breaks]
  | navItem i =>
      have hpath := FieldPath.prefix_push (Draft.Element.themePath.field "nav") (.index i)
      rw [Draft.Element.path, Site.reports_theme ((FieldPath.prefix_field _ _).trans hpath),
        Theme.reports_nav hpath, NavItem.resolveAll_reports_iff, Draft.Element.Breaks]
  | socialLink i =>
      have hpath := FieldPath.prefix_push (Draft.Element.themePath.field "socialLinks") (.index i)
      rw [Draft.Element.path, Site.reports_theme ((FieldPath.prefix_field _ _).trans hpath),
        Theme.reports_socialLinks hpath,
        Checked.reports_each_at (fun _ _ => SocialLink.resolve_within) List.prefix_rfl]
      simp only [SocialLink.reports_iff, Draft.Element.Breaks]
  | group key i =>
      rw [Draft.Element.path, Site.reports_group List.prefix_rfl]
      simp only [SidebarGroup.reports_iff, Draft.Element.Breaks]
  | item key i j =>
      have hpath := (FieldPath.prefix_field (Draft.Element.groupPath key i) "items").trans
        (FieldPath.prefix_push _ (.index j))
      rw [Draft.Element.path, Site.reports_group hpath]
      simp only [SidebarGroup.reports_item_iff, Draft.Element.Breaks]

/-- A draft with one sidebar key, and under it one group whose text is empty. -/
def Draft.withEmptyGroup (key : Text) : Draft :=
  { title := some ['X'], theme := some { sidebar := some [(key, [{ text := some [] }])] } }

/-- Under a key that is no absolute path a group without a text goes unreported: the key alone is
told. -/
theorem Site.reports_element_refused_key :
    ¬∀ (raw : Draft) (e : Draft.Element),
      (e.Breaks raw fun key groups => (key, groups) ∈ raw.sidebarEntries) →
        ∃ diagnostics, Site.resolve raw = .error diagnostics ∧
          ∃ d ∈ diagnostics, e.path <+: d.field := by
  intro h
  have hbreaks : (Draft.Element.group "guide/".toList 0).Breaks
      (Draft.withEmptyGroup "guide/".toList)
      fun key groups => (key, groups) ∈ (Draft.withEmptyGroup "guide/".toList).sidebarEntries := by
    refine ⟨[{ text := some [] }], List.mem_singleton.mpr rfl, { text := some [] }, rfl, ?_⟩
    rintro ⟨⟨_, ⟨⟩, hblank⟩, -⟩
    exact hblank (List.forall_mem_nil _)
  obtain ⟨diagnostics, hr, d, hd, hpath⟩ := h _ _ hbreaks
  have hkey : Site.resolve (Draft.withEmptyGroup "guide/".toList) = .error
      [⟨(Draft.Element.themePath.field "sidebar").push (.key "guide/".toList),
        .keyNotAbsolute "guide/".toList⟩] := rfl
  obtain rfl := Except.error.inj (hkey.symm.trans hr)
  obtain rfl := List.mem_singleton.mp hd
  exact absurd hpath (by decide)

end Signpost
