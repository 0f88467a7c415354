import Mathlib.Data.List.Nodup
import Signpost.Pattern.Size
import Signpost.Proofs.Site.JsonRoundTrip
import Signpost.Proofs.Site.Rules
import Signpost.Proofs.Site.SidebarLookup

/-!
# Resolved sites are well-formed

What a resolved site keeps, said of its parts alone and not of the draft that it comes from:
`Site.wellFormed_of_resolve`. Names that a site repeats nowhere are keys of its written form, so no
table of that form has a key twice.
-/

namespace Signpost

open Document (Value)

/-! ## Texts -/

/-- A text that says something, without white space around it. -/
structure Text.Proper (t : Text) : Prop where
  nonblank : ¬Text.Blank t
  trimmed : Text.trim t = t

theorem Text.proper_of_optionalText {raw : Option Text} {t : Text} (h : optionalText raw = some t) :
    Text.Proper t := by
  obtain ⟨hraw, hne⟩ := optionalText_eq_some.mp h
  obtain ⟨s, -, rfl⟩ := Option.map_eq_some_iff.mp hraw
  refine ⟨fun hblank => hne ?_, Text.trim_trim⟩
  rw [← Text.trim_trim]
  exact Text.trim_eq_nil.mpr hblank

/-! ## Parts of a site -/

section Resolution

variable {sizeTest : Pattern.SizeTest}

/-- What a navigation link keeps. -/
structure NavItem.WellFormed [Pattern.SizeTest] (item : NavItem) : Prop where
  text : Text.Proper item.text
  link : Link.WellFormed item.link
  activeMatch : ∀ source, item.activeMatch = some source →
    ¬Text.Blank source ∧ Pattern.Readable source

theorem Link.Accepted.wellFormed {raw : Option Text} {link : Text} (h : Link.Accepted raw link) :
    Link.WellFormed link := Link.problem?_eq_none.mp h.2

theorem NavItem.Accepted.wellFormed {raw : Draft.Nav} {item : NavItem}
    (h : NavItem.Accepted raw item) : item.WellFormed where
  text := Text.proper_of_optionalText h.text
  link := h.link.wellFormed
  activeMatch source hs :=
    ⟨(Text.proper_of_optionalText (h.activeMatch.trans hs)).nonblank, h.readable source hs⟩

/-- What a sidebar group keeps. -/
structure SidebarGroup.WellFormed [Pattern.SizeTest] (group : SidebarGroup) : Prop where
  text : Text.Proper group.text
  items : ∀ item ∈ group.items, item.WellFormed

theorem SidebarGroup.Accepted.wellFormed {raw : Draft.Group} {group : SidebarGroup}
    (h : SidebarGroup.Accepted raw group) : group.WellFormed where
  text := Text.proper_of_optionalText h.text
  items := forall_mem_of_accepted h.items fun _ _ => NavItem.Accepted.wellFormed

/-- What the area of a sidebar entry keeps: slashes around it, and no character in it that starts a
query or a fragment. -/
structure SidebarEntry.AreaWellFormed (area : Text) : Prop where
  starts : ['/'] <+: area
  ends : ['/'] <:+ area
  matchable : ∀ c ∈ area, c ≠ '?' ∧ c ≠ '#'

theorem SidebarEntry.areaWellFormed {key area : Text} (h : Sidebar.area? key = .ok area) :
    SidebarEntry.AreaWellFormed area := by
  obtain ⟨hstarts, hends⟩ := Sidebar.area?_slashes h
  obtain ⟨hkey, rfl⟩ := Sidebar.area?_eq_ok.mp h
  exact ⟨List.isPrefixOf_iff_prefix.mp hstarts, List.isSuffixOf_iff_suffix.mp hends,
    hkey.matchable⟩

/-- What a sidebar keeps. -/
structure Sidebar.WellFormed [Pattern.SizeTest] (sidebar : Sidebar) : Prop where
  areas : ∀ entry ∈ sidebar, SidebarEntry.AreaWellFormed entry.area
  distinct : (sidebar.map SidebarEntry.area).Nodup
  groups : ∀ entry ∈ sidebar, ∀ group ∈ entry.groups, group.WellFormed

theorem Sidebar.Accepted.wellFormed {raw : Entries (List Draft.Group)} {sidebar : Sidebar}
    (h : Sidebar.Accepted raw sidebar) : sidebar.WellFormed where
  areas := forall_mem_of_accepted h.entries fun _ _ he => SidebarEntry.areaWellFormed he.area
  distinct := h.areas
  groups := forall_mem_of_accepted h.entries fun _ _ he =>
    forall_mem_of_accepted he.groups fun _ _ => SidebarGroup.Accepted.wellFormed

/-- What a tag keeps. Attribute names that differ in the case of ASCII letters alone are the
same. -/
structure HeadTag.WellFormed (tag : HeadTag) : Prop where
  name : HeadTag.IsName tag.tagName
  attributes : ∀ pair ∈ tag.attributes, HeadTag.IsAttribute pair.1
  distinct : tag.attributes.Pairwise fun a b => Text.lower a.1 ≠ Text.lower b.1

theorem HeadTag.Accepted.wellFormed {raw : Draft.Head} {tag : HeadTag}
    (h : HeadTag.Accepted raw tag) : tag.WellFormed where
  name := HeadTag.isTagName_iff.mp h.isTagName
  attributes pair hmem := HeadTag.isAttributeName_iff.mp (h.wellNamed.names pair hmem)
  distinct := List.pairwise_map.mp h.wellNamed.distinct

/-- What the lines at the foot of pages keep: there is something to show. -/
def Footer.WellFormed (footer : Footer) : Prop :=
  ∃ line, (footer.message = some line ∨ footer.copyright = some line) ∧ ¬Text.Blank line

theorem Footer.wellFormed_of_some {raw : Draft.Footer} {footer : Footer}
    (h : Footer.resolve raw = some footer) : footer.WellFormed := by
  cases hm : optionalText raw.message with
  | some message =>
      rw [Footer.resolve, hm] at h
      obtain rfl := Option.some.inj h
      exact ⟨message, .inl rfl, (Text.proper_of_optionalText hm).nonblank⟩
  | none =>
      cases hc : optionalText raw.copyright with
      | none =>
          rw [Footer.resolve, hm, hc] at h
          cases h
      | some copyright =>
          rw [Footer.resolve, hm, hc] at h
          obtain rfl := Option.some.inj h
          exact ⟨copyright, .inr rfl, (Text.proper_of_optionalText hc).nonblank⟩

/-- What the link to the source of a page keeps. -/
structure EditLink.WellFormed (edit : EditLink) : Prop where
  pattern : Link.WellFormed edit.pattern
  place : Problem.editPlace <:+: edit.pattern
  text : ¬Text.Blank edit.text

theorem EditLink.Accepted.wellFormed {raw : Draft.Edit} {edit : EditLink}
    (h : EditLink.Accepted raw edit) : edit.WellFormed where
  pattern := h.pattern.wellFormed
  place := Text.contains_iff_infix.mp h.place
  text := by
    rw [← h.text]
    cases ht : optionalText raw.text with
    | none =>
        have hdefault : optionalText (some EditLink.defaultText) = some EditLink.defaultText := rfl
        exact (Text.proper_of_optionalText hdefault).nonblank
    | some text => exact (Text.proper_of_optionalText ht).nonblank

/-- What a theme keeps. The icon of a profile link is one of the known icons by its type. -/
structure Theme.WellFormed [Pattern.SizeTest] (theme : Theme) : Prop where
  logo : ∀ logo, theme.logo = some logo → Link.WellFormed logo
  nav : ∀ item ∈ theme.nav, item.WellFormed
  sidebar : theme.sidebar.WellFormed
  socialLinks : ∀ social ∈ theme.socialLinks, Link.WellFormed social.link
  footer : ∀ footer, theme.footer = some footer → footer.WellFormed
  editLink : ∀ edit, theme.editLink = some edit → edit.WellFormed

/-- What every accepted part has holds for one that may be absent. -/
theorem forall_some_of_accepted {α β : Type} {R : α → β → Prop} {P : β → Prop} {a : Option α}
    {b : Option β} (h : Option.Rel R a b) (hpart : ∀ a b, R a b → P b) : ∀ y, b = some y → P y := by
  rintro y rfl
  cases h with
  | some hr => exact hpart _ _ hr

theorem Theme.Accepted.wellFormed {raw : Draft.Theme} {theme : Theme}
    (h : Theme.Accepted raw theme) : theme.WellFormed where
  logo := forall_some_of_accepted h.logo fun _ _ => Link.Accepted.wellFormed
  nav := forall_mem_of_accepted h.nav fun _ _ => NavItem.Accepted.wellFormed
  sidebar := h.sidebar.wellFormed
  socialLinks := forall_mem_of_accepted h.socialLinks fun _ _ hs => hs.link.wellFormed
  footer footer hf := by
    obtain ⟨raw, -, hr⟩ := Option.bind_eq_some_iff.mp (h.footer.trans hf)
    exact Footer.wellFormed_of_some hr
  editLink := forall_some_of_accepted h.editLink fun _ _ => EditLink.Accepted.wellFormed

/-- What a site keeps. -/
structure Site.WellFormed [Pattern.SizeTest] (site : Site) : Prop where
  title : Text.Proper site.title
  lang : Site.LanguageTag site.lang
  absolute : ['/'] <+: site.base
  closed : ['/'] <:+ site.base
  unspaced : ∀ c ∈ site.base, Text.isBlank c = false
  head : ∀ tag ∈ site.head, tag.WellFormed
  theme : site.theme.WellFormed

theorem Site.Accepted.wellFormed {raw : Draft} {site : Site} (h : Site.Accepted raw site) :
    site.WellFormed where
  title := Text.proper_of_optionalText h.title
  lang := Site.isLanguageTag_iff.mp h.isLanguageTag
  absolute := by
    rw [← h.base]
    exact List.isPrefixOf_iff_prefix.mp (Text.startsWith_withTrailingSlash h.absolute)
  closed := by
    rw [← h.base]
    exact List.isSuffixOf_iff_suffix.mp Text.endsWith_withTrailingSlash
  unspaced := by
    rw [← h.base]
    simpa using Text.unspaced_withTrailingSlash h.unspaced
  head := forall_mem_of_accepted h.head fun _ _ => HeadTag.Accepted.wellFormed
  theme := h.theme.wellFormed

end Resolution

/-! ## Keys of the written form -/

/-- No table in the value has a key twice. -/
inductive Document.Value.UniqueKeys : Value → Prop where
  | null : UniqueKeys .null
  | flag (b : Bool) : UniqueKeys (.flag b)
  | text (t : Text) : UniqueKeys (.text t)
  | list {items : List Value} (inside : ∀ v ∈ items, UniqueKeys v) : UniqueKeys (.list items)
  | table {members : List (Text × Value)} (distinct : (members.map Prod.fst).Nodup)
      (inside : ∀ m ∈ members, UniqueKeys m.2) : UniqueKeys (.table members)

open Document.Value (UniqueKeys)

namespace Document.Value

theorem UniqueKeys.list_map {α : Type} {write : α → Value} {as : List α}
    (h : ∀ a ∈ as, UniqueKeys (write a)) : UniqueKeys (.list (as.map write)) :=
  .list (List.forall_mem_map.mpr h)

/-- Members that are written in the order of the given names, some of which may be left out. -/
structure Fields (names : List Text) (members : List (Text × Value)) : Prop where
  keys : (members.map Prod.fst).Sublist names
  inside : ∀ m ∈ members, UniqueKeys m.2

namespace Fields

variable {names names' : List Text} {members members' : List (Text × Value)}

theorem nil : Fields [] [] := ⟨List.Sublist.slnil, List.forall_mem_nil _⟩

theorem cons {name : Text} {v : Value} (h : UniqueKeys v) (rest : Fields names members) :
    Fields (name :: names) ((name, v) :: members) :=
  ⟨rest.keys.cons_cons name, List.forall_mem_cons.mpr ⟨h, rest.inside⟩⟩

theorem append (h : Fields names members) (h' : Fields names' members') :
    Fields (names ++ names') (members ++ members') := by
  refine ⟨?_, List.forall_mem_append.mpr ⟨h.inside, h'.inside⟩⟩
  rw [List.map_append]
  exact h.keys.append h'.keys

theorem member? {α : Type} {name : String} {write : α → Value} {a : Option α}
    (h : ∀ x, a = some x → UniqueKeys (write x)) :
    Fields [name.toList] (member? name write a) := by
  cases a with
  | none => exact ⟨List.nil_sublist _, List.forall_mem_nil _⟩
  | some a => exact cons (h a rfl) nil

theorem text? {name : String} {a : Option Text} : Fields [name.toList] (Value.member? name .text a) :=
  member? fun x _ => .text x

theorem table (h : Fields names members) (distinct : names.Nodup) : UniqueKeys (.table members) :=
  .table (distinct.sublist h.keys) h.inside

end Fields

end Document.Value

open Document.Value (Fields)

theorem NavItem.uniqueKeys (item : NavItem) : UniqueKeys item.toValue :=
  ((Fields.cons (.text _) (.cons (.text _) .nil)).append .text?).table (by decide)

theorem SidebarGroup.uniqueKeys (group : SidebarGroup) : UniqueKeys group.toValue := by
  have hitems := UniqueKeys.list_map fun item (_ : item ∈ group.items) => item.uniqueKeys
  exact ((Fields.cons (.text _) (.cons hitems .nil)).append (.member? fun b _ => .flag b)).table
    (by decide)

theorem Sidebar.WellFormed.uniqueKeys [Pattern.SizeTest] {sidebar : Sidebar}
    (h : sidebar.WellFormed) : UniqueKeys sidebar.toValue := by
  refine .table ?_ (List.forall_mem_map.mpr fun entry _ => ?_)
  · rw [List.map_map]
    exact h.distinct
  · exact UniqueKeys.list_map fun group _ => group.uniqueKeys

theorem HeadTag.WellFormed.uniqueKeys {tag : HeadTag} (h : tag.WellFormed) :
    UniqueKeys tag.toValue := by
  have hattributes : UniqueKeys (Draft.textEntries tag.attributes) := by
    refine .table ?_ (List.forall_mem_map.mpr fun pair _ => .text pair.2)
    rw [List.map_map]
    exact List.pairwise_map.mpr (h.distinct.imp fun hne heq => hne (congrArg Text.lower heq))
  exact ((Fields.cons (.text _) (.cons hattributes .nil)).append .text?).table (by decide)

theorem SocialLink.uniqueKeys (social : SocialLink) : UniqueKeys social.toValue :=
  ((Fields.cons (.text _) (.cons (.text _) .nil)).append .text?).table (by decide)

theorem Footer.uniqueKeys (footer : Footer) : UniqueKeys footer.toValue :=
  (Fields.text?.append .text?).table (by decide)

theorem EditLink.uniqueKeys (edit : EditLink) : UniqueKeys edit.toValue :=
  (Fields.cons (.text _) (.cons (.text _) .nil)).table (by decide)

theorem Theme.WellFormed.uniqueKeys [Pattern.SizeTest] {theme : Theme} (h : theme.WellFormed) :
    UniqueKeys theme.toValue := by
  have hnav := UniqueKeys.list_map fun item (_ : item ∈ theme.nav) => item.uniqueKeys
  have hsocial := UniqueKeys.list_map fun social (_ : social ∈ theme.socialLinks) =>
    social.uniqueKeys
  exact (((Fields.text?.append
    (.cons hnav (.cons h.sidebar.uniqueKeys (.cons hsocial .nil)))).append
    (.member? fun footer _ => footer.uniqueKeys)).append
    (.member? fun edit _ => edit.uniqueKeys)).table (by decide)

theorem Site.WellFormed.uniqueKeys [Pattern.SizeTest] {site : Site} (h : site.WellFormed) :
    UniqueKeys site.toValue := by
  have hhead := UniqueKeys.list_map fun tag (hmem : tag ∈ site.head) =>
    (h.head tag hmem).uniqueKeys
  exact (Fields.cons (.text _) (.cons (.text _) (.cons (.text _) (.cons (.text _) (.cons (.flag _)
    (.cons (.flag _) (.cons hhead (.cons h.theme.uniqueKeys .nil)))))))).table (by decide)

/-- A resolved site is well-formed, and its JSON text spells one value, in which no table has a key
twice. -/
theorem Site.wellFormed_of_resolve [Pattern.SizeTest] {raw : Draft} {site : Site}
    (h : Site.resolve raw = .ok site) :
    site.WellFormed ∧ ∀ pretty, ∃ v, (∀ v', Json.Spells v' (site.render .json pretty) ↔ v' = v) ∧
      UniqueKeys v := by
  have hsite := (Site.resolve_eq_ok.mp h).wellFormed
  refine ⟨hsite, fun pretty => ⟨site.toValue, fun v => ?_, hsite.uniqueKeys⟩⟩
  have hspells := Format.spells_write_json pretty site.toValue
  constructor
  · exact fun hv => hv.unique hspells
  · rintro rfl
    exact hspells

/-- A draft with white space around its texts, defaults to fill in, and a line of the footer that is
blank. -/
def Draft.loose : Draft where
  title := some " X ".toList
  base := some "/docs".toList
  head := some [.simple "link ".toList [("rel".toList, "icon".toList), ("href".toList, [])]]
  theme := some {
    nav := some [⟨some "Guide\n".toList, some " /guide/".toList, some "^/guide/ ".toList⟩]
    sidebar := some [("/my%20guide".toList, [{ text := some " G".toList }]), ("/".toList, [])]
    footer := some { message := some [' '], copyright := some "C ".toList }
    editLink := some { pattern := some "/edit/:path".toList, text := some [] } }

theorem Site.wellFormed_of_resolve_loose :
    ∃ site, Site.resolve Draft.loose = .ok site ∧ site.WellFormed ∧
      ∀ pretty, ∃ v, (∀ v', Json.Spells v' (site.render .json pretty) ↔ v' = v) ∧
        UniqueKeys v := by
  have h : Site.resolve Draft.loose = .ok (Site.check Draft.loose).value := rfl
  exact ⟨_, h, Site.wellFormed_of_resolve h⟩

end Signpost
