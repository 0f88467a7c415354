import Signpost.Pattern.Size
import Signpost.Proofs.Site.Rules

/-!
# What a draft becomes

A draft that is accepted comes back as the draft of its site, and nothing in it is lost, merged or
put elsewhere: texts are trimmed, what was left out is spelled out by its default, optional texts
that are blank are left out, head tags take their table form, and sidebar keys are normalised. The
functions here say so field by field, without resolvers, fields and problems.
-/

namespace Signpost

namespace Draft

/-- A text that may be left out, trimmed; a blank one is left out. -/
def unlessBlank : Option Text → Option Text
  | none => none
  | some t => if t.all Text.isBlank then none else some (Text.trim t)

def Nav.tidied (d : Nav) : Nav where
  text := d.text.map Text.trim
  link := d.link.map Text.trim
  activeMatch := unlessBlank d.activeMatch

def Group.tidied (d : Group) : Group where
  text := d.text.map Text.trim
  items := some ((d.items.getD []).map Nav.tidied)
  collapsed := d.collapsed

/-- The table form of a tag; attributes and content stay as they were written. -/
def Head.tidied : Head → Head
  | .withContent tag attributes content => .table (some (Text.trim tag)) attributes (some content)
  | .simple tag attributes => .table (some (Text.trim tag)) attributes none
  | .table tag attributes content => .table (tag.map Text.trim) attributes content

def Social.tidied (d : Social) : Social where
  icon := d.icon.map Text.trim
  link := d.link.map Text.trim
  ariaLabel := unlessBlank d.ariaLabel

/-- The lines that are not blank; a footer without any is left out. -/
def Footer.tidied (d : Footer) : Option Footer :=
  let lines : Footer := ⟨unlessBlank d.message, unlessBlank d.copyright⟩
  if lines = {} then none else some lines

def Edit.tidied (d : Edit) : Edit where
  pattern := d.pattern.map Text.trim
  text := some ((unlessBlank d.text).getD "Edit this page".toList)

def Theme.tidied (d : Theme) : Theme where
  logo := d.logo.map Text.trim
  nav := some ((d.nav.getD []).map Nav.tidied)
  sidebar := some ((d.sidebar.getD []).map fun (key, groups) =>
    (Sidebar.areaOf key, groups.map Group.tidied))
  socialLinks := some ((d.socialLinks.getD []).map Social.tidied)
  footer := d.footer.bind Footer.tidied
  editLink := d.editLink.map Edit.tidied

/-- The draft with its texts trimmed, its defaults spelled out and its keys normalised. -/
def tidied (d : Draft) : Draft where
  lang := some ((unlessBlank d.lang).getD "en-US".toList)
  title := d.title.map Text.trim
  description := some (Text.trim (d.description.getD []))
  base := some (Text.withTrailingSlash (Text.trim (d.base.getD ['/'])))
  lastUpdated := some (d.lastUpdated.getD false)
  cleanUrls := some (d.cleanUrls.getD false)
  head := some ((d.head.getD []).map Head.tidied)
  theme := some (d.theme.getD {}).tidied

end Draft

open Draft (unlessBlank)

/-! ## Texts and lists -/

theorem optionalText_eq_unlessBlank {raw : Option Text} : optionalText raw = unlessBlank raw := by
  cases raw with
  | none => rfl
  | some t =>
      rw [optionalText_some, unlessBlank]
      by_cases hblank : Text.trim t = []
      · have hall : t.all Text.isBlank = true := List.all_eq_true.mpr (Text.trim_eq_nil.mp hblank)
        rw [if_pos hblank, if_pos hall]
      · have hall : ¬t.all Text.isBlank = true := fun h =>
          hblank (Text.trim_eq_nil.mpr (List.all_eq_true.mp h))
        rw [if_neg hblank, if_neg hall]

/-- A text that is asked for and there is the trimmed text. -/
theorem map_trim_of_optionalText {raw : Option Text} {t : Text} (h : optionalText raw = some t) :
    raw.map Text.trim = some t := (optionalText_eq_some.mp h).1

/-- Parts that come back tidied, in a list. -/
theorem map_toDraft_of_accepted {α β : Type} {R : α → β → Prop} {toDraft : β → α} {tidied : α → α}
    {as : List α} {bs : List β} (h : List.Forall₂ R as bs)
    (hpart : ∀ a b, R a b → toDraft b = tidied a) : bs.map toDraft = as.map tidied := by
  induction h with
  | nil => rfl
  | cons first _ ih => rw [List.map_cons, List.map_cons, hpart _ _ first, ih]

/-- A part that may be left out. -/
theorem option_toDraft_of_accepted {α β : Type} {R : α → β → Prop} {toDraft : β → α}
    {tidied : α → α} {a : Option α} {b : Option β} (h : Option.Rel R a b)
    (hpart : ∀ a b, R a b → toDraft b = tidied a) : b.map toDraft = a.map tidied := by
  cases h with
  | none => rfl
  | some h => exact congrArg some (hpart _ _ h)

/-! ## Parts of a site -/

section Resolution

variable {sizeTest : Pattern.SizeTest}

theorem NavItem.Accepted.toDraft_eq {raw : Draft.Nav} {item : NavItem}
    (h : NavItem.Accepted raw item) : item.toDraft = raw.tidied := by
  rw [NavItem.toDraft, Draft.Nav.tidied, map_trim_of_optionalText h.text, h.link.1,
    ← optionalText_eq_unlessBlank, h.activeMatch]

theorem SidebarGroup.Accepted.toDraft_eq {raw : Draft.Group} {group : SidebarGroup}
    (h : SidebarGroup.Accepted raw group) : group.toDraft = raw.tidied := by
  have hitems := map_toDraft_of_accepted h.items fun _ _ => NavItem.Accepted.toDraft_eq
  rw [SidebarGroup.toDraft, Draft.Group.tidied, map_trim_of_optionalText h.text, hitems,
    h.collapsed]

/-- The key of an accepted entry was normalised; its groups came back tidied. -/
theorem SidebarEntry.Accepted.toDraft_eq {raw : Text × List Draft.Group} {entry : SidebarEntry}
    (h : SidebarEntry.Accepted raw entry) :
    (entry.area, entry.groups.map SidebarGroup.toDraft) =
      (Sidebar.areaOf raw.1, raw.2.map Draft.Group.tidied) := by
  have hgroups := map_toDraft_of_accepted h.groups fun _ _ => SidebarGroup.Accepted.toDraft_eq
  rw [(Sidebar.area?_eq_ok.mp h.area).2, hgroups]

theorem Sidebar.Accepted.toDraft_eq {raw : Entries (List Draft.Group)} {sidebar : Sidebar}
    (h : Sidebar.Accepted raw sidebar) :
    sidebar.toDraft = raw.map fun (key, groups) =>
      (Sidebar.areaOf key, groups.map Draft.Group.tidied) :=
  map_toDraft_of_accepted h.entries fun _ _ => SidebarEntry.Accepted.toDraft_eq

/-- A tag that was accepted has a name, whichever form it was written in. -/
theorem HeadTag.Accepted.toDraft_eq {raw : Draft.Head} {tag : HeadTag}
    (h : HeadTag.Accepted raw tag) : tag.toDraft = raw.tidied := by
  rw [HeadTag.toDraft, ← h.tagName, ← h.attributes, ← h.content]
  cases raw with
  | withContent name attributes content => rfl
  | simple name attributes => rfl
  | table name attributes content =>
      cases name with
      | some name => rfl
      | none =>
          have hname := h.isTagName
          rw [← h.tagName] at hname
          exact nomatch hname

theorem SocialLink.Accepted.toDraft_eq {raw : Draft.Social} {social : SocialLink}
    (h : SocialLink.Accepted raw social) : social.toDraft = raw.tidied := by
  obtain ⟨name, hname, hicon⟩ := Option.bind_eq_some_iff.mp h.icon
  rw [Icon.ofName?_eq_some] at hicon
  rw [SocialLink.toDraft, Draft.Social.tidied, map_trim_of_optionalText hname, hicon, h.link.1,
    ← optionalText_eq_unlessBlank, h.ariaLabel]

theorem Footer.map_toDraft_resolve {raw : Draft.Footer} :
    (Footer.resolve raw).map Footer.toDraft = raw.tidied := by
  rw [Footer.resolve, Draft.Footer.tidied, optionalText_eq_unlessBlank,
    optionalText_eq_unlessBlank]
  cases unlessBlank raw.message <;> cases unlessBlank raw.copyright <;> rfl

theorem EditLink.Accepted.toDraft_eq {raw : Draft.Edit} {edit : EditLink}
    (h : EditLink.Accepted raw edit) : edit.toDraft = raw.tidied := by
  rw [EditLink.toDraft, Draft.Edit.tidied, h.pattern.1, ← h.text, optionalText_eq_unlessBlank]
  rfl

theorem Theme.Accepted.toDraft_eq {raw : Draft.Theme} {theme : Theme}
    (h : Theme.Accepted raw theme) : theme.toDraft = raw.tidied := by
  have hlogo : theme.logo = raw.logo.map Text.trim := by
    have hlogo : theme.logo.map id = raw.logo.map Text.trim :=
      option_toDraft_of_accepted h.logo fun _ _ hl => Option.some.inj hl.1.symm
    rwa [Option.map_id] at hlogo
  have hnav := map_toDraft_of_accepted h.nav fun _ _ => NavItem.Accepted.toDraft_eq
  have hsocial := map_toDraft_of_accepted h.socialLinks fun _ _ => SocialLink.Accepted.toDraft_eq
  have hedit := option_toDraft_of_accepted h.editLink fun _ _ => EditLink.Accepted.toDraft_eq
  have hfooter : theme.footer.map Footer.toDraft = raw.footer.bind Draft.Footer.tidied := by
    rw [← h.footer, Option.map_bind]
    exact congrArg raw.footer.bind (funext fun _ => Footer.map_toDraft_resolve)
  rw [Theme.toDraft, Draft.Theme.tidied, hlogo, hnav, h.sidebar.toDraft_eq, hsocial, hfooter, hedit]

/-! ## Sites -/

/-- The draft of a resolved site is the draft that it was resolved from, tidied. -/
theorem Site.toDraft_of_resolve [Pattern.SizeTest] {raw : Draft} {site : Site}
    (h : Site.resolve raw = .ok site) :
    site.toDraft = raw.tidied := by
  have hacc := Site.resolve_eq_ok.mp h
  have hhead := map_toDraft_of_accepted hacc.head fun _ _ => HeadTag.Accepted.toDraft_eq
  have hlang : (unlessBlank raw.lang).getD "en-US".toList = site.lang := by
    rw [← optionalText_eq_unlessBlank]
    exact hacc.lang
  have hdescription : Text.trim (raw.description.getD []) = site.description := by
    rw [← hacc.description]
    cases raw.description <;> rfl
  have hbase : Text.withTrailingSlash (Text.trim (raw.base.getD ['/'])) = site.base := by
    rw [← hacc.base]
    cases raw.base <;> rfl
  rw [Site.toDraft, Draft.tidied, map_trim_of_optionalText hacc.title, hlang, hdescription, hbase,
    hacc.lastUpdated, hacc.cleanUrls, hhead, hacc.theme.toDraft_eq]

end Resolution

/-- A draft with blank texts, white space around others, and a tag in a short form. -/
def Draft.untidy : Draft where
  lang := some [' ']
  title := some " X ".toList
  base := some "/docs".toList
  head := some [.simple " link ".toList [("rel".toList, " icon ".toList)]]
  theme := some {
    sidebar := some [("/my%20guide".toList, [{ text := some "G\n".toList }])]
    footer := some { message := some [' '] }
    editLink := some { pattern := some "/edit/:path".toList, text := some [] } }

/-- The draft that it comes back as. -/
def Draft.tidy : Draft where
  lang := some "en-US".toList
  title := some "X".toList
  description := some []
  base := some "/docs/".toList
  lastUpdated := some false
  cleanUrls := some false
  head := some [.table (some "link".toList) [("rel".toList, " icon ".toList)] none]
  theme := some {
    nav := some []
    sidebar := some [("/my guide/".toList, [{ text := some "G".toList, items := some [] }])]
    socialLinks := some []
    editLink := some { pattern := some "/edit/:path".toList, text := some "Edit this page".toList } }

theorem Site.toDraft_of_resolve_untidy :
    ∃ site, Site.resolve Draft.untidy = .ok site ∧ site.toDraft = Draft.untidy.tidied ∧
      Draft.untidy.tidied = Draft.tidy :=
  ⟨_, rfl, Site.toDraft_of_resolve rfl, rfl⟩

end Signpost
