import Mathlib.Data.List.Forall2
import Signpost.Pattern.Size
import Signpost.Proofs.Site.Rules

/-!
# Fields that are left out

A field that a draft leaves out counts as its default, so writing the default there changes
nothing: not the site, and not a single problem when there is none. `FilledIn` relates two drafts
the second of which writes some of the defaults that the first leaves out, at any depth: a theme
that is filled in may have its own fields filled in as well.
-/

namespace Signpost

/-- A field where `default` may be written if it was left out. What stands there afterwards differs
from what stood there, or from the default, by `R`. -/
inductive Filled {α : Type} (default : α) (R : α → α → Prop) : Option α → Option α → Prop where
  | absent : Filled default R none none
  | filled {a : α} (h : R default a) : Filled default R none (some a)
  | kept {a b : α} (h : R a b) : Filled default R (some a) (some b)

/-- The default reads the same when it is written. -/
theorem Filled.getD {α : Type} {default : α} {R : α → α → Prop} {raw raw' : Option α}
    (h : Filled default R raw raw') (hdefault : R default default) :
    R (raw.getD default) (raw'.getD default) := by
  cases h with
  | absent => exact hdefault
  | filled h => exact h
  | kept h => exact h

theorem Filled.getD_map {α : Type} {default : α} {f : α → α} {raw raw' : Option α}
    (h : Filled default Eq raw raw') (hdefault : f default = default) :
    (raw.map f).getD default = (raw'.map f).getD default := by
  cases h with
  | absent => rfl
  | filled h =>
      subst h
      exact hdefault.symm
  | kept h => rw [h]

namespace Draft

/-- A language may be left out by writing nothing in it, too. -/
inductive LangFilledIn : Option Text → Option Text → Prop where
  | kept (lang : Option Text) : LangFilledIn lang lang
  | absent : LangFilledIn none (some "en-US".toList)
  | blank {lang : Text} (h : Text.Blank lang) : LangFilledIn (some lang) (some "en-US".toList)

structure Group.FilledIn (d d' : Group) : Prop where
  text : d.text = d'.text
  items : Filled [] Eq d.items d'.items
  collapsed : d.collapsed = d'.collapsed

structure EntryFilledIn (entry entry' : Text × List Group) : Prop where
  key : entry.1 = entry'.1
  groups : List.Forall₂ Group.FilledIn entry.2 entry'.2

structure Edit.FilledIn (d d' : Edit) : Prop where
  pattern : d.pattern = d'.pattern
  text : Filled "Edit this page".toList Eq d.text d'.text

structure Theme.FilledIn (d d' : Theme) : Prop where
  logo : d.logo = d'.logo
  nav : Filled [] Eq d.nav d'.nav
  sidebar : Filled [] (List.Forall₂ EntryFilledIn) d.sidebar d'.sidebar
  socialLinks : Filled [] Eq d.socialLinks d'.socialLinks
  footer : d.footer = d'.footer
  editLink : Option.Rel Edit.FilledIn d.editLink d'.editLink

/-- The second draft is the first with some of the fields that it leaves out filled in with their
defaults. -/
structure FilledIn (d d' : Draft) : Prop where
  lang : LangFilledIn d.lang d'.lang
  title : d.title = d'.title
  description : Filled [] Eq d.description d'.description
  base : Filled ['/'] Eq d.base d'.base
  lastUpdated : Filled false Eq d.lastUpdated d'.lastUpdated
  cleanUrls : Filled false Eq d.cleanUrls d'.cleanUrls
  head : Filled [] Eq d.head d'.head
  theme : Filled {} Theme.FilledIn d.theme d'.theme

end Draft

/-! ## Checks of lists and of parts that may be absent -/

namespace Checked

variable {α β : Type} {R : α → α → Prop}

theorem eachFrom_congr {check : Nat → α → Checked β} {as as' : List α} (h : List.Forall₂ R as as')
    (hcheck : ∀ i a a', R a a' → check i a = check i a') (i : Nat) :
    eachFrom check i as = eachFrom check i as' := by
  induction h generalizing i with
  | nil => rfl
  | cons first _ ih => simp only [eachFrom, hcheck _ _ _ first, ih]

theorem each_congr {check : Nat → α → Checked β} {as as' : List α} (h : List.Forall₂ R as as')
    (hcheck : ∀ i a a', R a a' → check i a = check i a') : each check as = each check as' :=
  eachFrom_congr h hcheck 0

theorem optional_congr {check : α → Checked β} {a a' : Option α} (h : Option.Rel R a a')
    (hcheck : ∀ a a', R a a' → check a = check a') : optional check a = optional check a' := by
  cases h with
  | none => rfl
  | some h => simp only [optional, hcheck _ _ h]

end Checked

/-! ## Parts of the theme -/

section Resolution

variable {sizeTest : Pattern.SizeTest}

theorem SidebarGroup.resolve_filledIn {field : FieldPath} {d d' : Draft.Group}
    (h : d.FilledIn d') : SidebarGroup.resolve field d = SidebarGroup.resolve field d' := by
  unfold SidebarGroup.resolve
  rw [h.text, h.items.getD rfl, h.collapsed]

theorem Sidebar.resolveFrom_filledIn {field : FieldPath} {raw raw' : Entries (List Draft.Group)}
    (h : List.Forall₂ Draft.EntryFilledIn raw raw') (seen : List (Text × Text)) :
    Sidebar.resolveFrom field seen raw = Sidebar.resolveFrom field seen raw' := by
  induction h generalizing seen with
  | nil => rfl
  | @cons entry entry' _ _ first _ ih =>
      obtain ⟨key, groups⟩ := entry
      obtain ⟨key', groups'⟩ := entry'
      obtain rfl : key = key' := first.key
      have hgroups (keyField : FieldPath) :
          Checked.each (fun i group => SidebarGroup.resolve (keyField.push (.index i)) group) groups
            = Checked.each (fun i group => SidebarGroup.resolve (keyField.push (.index i)) group)
              groups' :=
        Checked.each_congr first.groups fun _ _ _ hgroup => SidebarGroup.resolve_filledIn hgroup
      simp only [Sidebar.resolveFrom, hgroups, ih]

theorem EditLink.text_filledIn {text text' : Option Text}
    (h : Filled "Edit this page".toList Eq text text') :
    (optionalText text).getD EditLink.defaultText =
      (optionalText text').getD EditLink.defaultText := by
  cases h with
  | absent => rfl
  | filled hdefault =>
      subst hdefault
      rfl
  | kept hsame => rw [hsame]

theorem EditLink.resolve_filledIn {field : FieldPath} {d d' : Draft.Edit} (h : d.FilledIn d') :
    EditLink.resolve field d = EditLink.resolve field d' := by
  unfold EditLink.resolve
  rw [h.pattern, EditLink.text_filledIn h.text]

theorem Theme.resolve_filledIn {field : FieldPath} {d d' : Draft.Theme} (h : d.FilledIn d') :
    Theme.resolve field d = Theme.resolve field d' := by
  have hsidebar : Sidebar.resolveFrom (field.field "sidebar") [] (d.sidebar.getD []) =
      Sidebar.resolveFrom (field.field "sidebar") [] (d'.sidebar.getD []) :=
    Sidebar.resolveFrom_filledIn (h.sidebar.getD .nil) []
  have hedit : Checked.optional (EditLink.resolve (field.field "editLink")) d.editLink =
      Checked.optional (EditLink.resolve (field.field "editLink")) d'.editLink :=
    Checked.optional_congr h.editLink fun _ _ hpart => EditLink.resolve_filledIn hpart
  unfold Theme.resolve Sidebar.resolve
  rw [h.logo, h.nav.getD rfl, hsidebar, h.socialLinks.getD rfl, h.footer, hedit]

/-! ## Sites -/

theorem Site.resolveLang_filledIn {lang lang' : Option Text} (h : Draft.LangFilledIn lang lang') :
    Site.resolveLang lang = Site.resolveLang lang' := by
  have hdefault : Site.resolveLang (some "en-US".toList) = pure Site.defaultLang := by rfl
  cases h with
  | kept => rfl
  | absent =>
      rw [hdefault]
      rfl
  | @blank lang hblank =>
      have hnone : optionalText (some lang) = none := by
        rw [optionalText_some, if_pos (Text.trim_eq_nil.mpr hblank)]
      rw [hdefault, Site.resolveLang, hnone]

theorem Site.resolveBase_filledIn {base base' : Option Text} (h : Filled ['/'] Eq base base') :
    Site.resolveBase base = Site.resolveBase base' := by
  cases h with
  | absent => rfl
  | filled hdefault =>
      subst hdefault
      rfl
  | kept hsame => rw [hsame]

theorem Site.check_filledIn {d d' : Draft} (h : d.FilledIn d') : Site.check d = Site.check d' := by
  have hdescription := h.description.getD_map (f := Text.trim) rfl
  have htheme : Theme.resolve (FieldPath.field [] "themeConfig") (d.theme.getD {}) =
      Theme.resolve (FieldPath.field [] "themeConfig") (d'.theme.getD {}) :=
    Theme.resolve_filledIn (h.theme.getD ⟨rfl, .absent, .absent, .absent, rfl, .none⟩)
  unfold Site.check
  rw [h.title, Site.resolveLang_filledIn h.lang, Site.resolveBase_filledIn h.base, h.head.getD rfl,
    htheme, hdescription, h.lastUpdated.getD rfl, h.cleanUrls.getD rfl]

/-- Filling in defaults changes nothing: neither the site that comes out, nor any of the problems
that are listed, nor their order. -/
theorem Site.resolve_defaults [Pattern.SizeTest] {d d' : Draft} (h : d.FilledIn d') :
    Site.resolve d' = Site.resolve d := by
  unfold Site.resolve
  rw [Site.check_filledIn h]

end Resolution

/-- A draft that leaves out what it can, with a blank language. -/
def Draft.sparse (title : Option Text) : Draft where
  lang := some [' ']
  title := title
  theme := some {
    sidebar := some [("/a".toList, [{ text := some ['A'] }])]
    editLink := some { pattern := some "/:path".toList } }

/-- That draft with every default spelled out. -/
def Draft.spelledOut (title : Option Text) : Draft where
  lang := some "en-US".toList
  title := title
  description := some []
  base := some ['/']
  lastUpdated := some false
  cleanUrls := some false
  head := some []
  theme := some {
    nav := some []
    sidebar := some [("/a".toList, [{ text := some ['A'], items := some [] }])]
    socialLinks := some []
    editLink := some { pattern := some "/:path".toList, text := some "Edit this page".toList } }

theorem Draft.sparse_filledIn (title : Option Text) :
    (Draft.sparse title).FilledIn (Draft.spelledOut title) where
  lang := .blank (Text.trim_eq_nil.mp rfl)
  title := rfl
  description := .filled rfl
  base := .filled rfl
  lastUpdated := .filled rfl
  cleanUrls := .filled rfl
  head := .filled rfl
  theme := .kept {
    logo := rfl
    nav := .filled rfl
    sidebar := .kept (.cons ⟨rfl, .cons ⟨rfl, .filled rfl, rfl⟩ .nil⟩ .nil)
    socialLinks := .filled rfl
    footer := rfl
    editLink := .some ⟨rfl, .filled rfl⟩ }

/-- With a title both drafts are accepted, and without one both are refused for the same reason. -/
theorem Site.resolve_defaults_sparse :
    (Draft.sparse (some ['X'])).FilledIn (Draft.spelledOut (some ['X'])) ∧
      Site.resolve (Draft.spelledOut (some ['X'])) = Site.resolve (Draft.sparse (some ['X'])) ∧
      (Site.resolve (Draft.sparse (some ['X']))).toBool = true ∧
      (Draft.sparse none).FilledIn (Draft.spelledOut none) ∧
      Site.resolve (Draft.spelledOut none) = Site.resolve (Draft.sparse none) ∧
      Site.resolve (Draft.sparse none) = .error [⟨FieldPath.field [] "title", .titleMissing⟩] := by
  refine ⟨Draft.sparse_filledIn _, ?_, rfl, Draft.sparse_filledIn _, ?_, rfl⟩
  · exact Site.resolve_defaults (Draft.sparse_filledIn _)
  · exact Site.resolve_defaults (Draft.sparse_filledIn _)

end Signpost
