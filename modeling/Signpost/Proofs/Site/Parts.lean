import Mathlib.Data.List.Nodup
import Mathlib.Data.List.Range
import Signpost.Pattern.Size
import Signpost.Proofs.Site.Reporting

/-!
# Problems part by part

A draft is checked in parts: its fields, and the elements of its lists. Each part has a path of its
own, none of which leads to another part, and is checked without regard to the rest of the draft.
`Site.problems_apart` draws the conclusions: the problems of a draft are those of its parts in
order, each part can be told by its path, and drafts that agree outside a path have the same
problems outside of it.
-/

namespace Signpost

namespace Checked

variable {α β : Type}

theorem problems_bind {c : Checked α} {f : α → Checked β} :
    (c >>= f).problems = c.problems ++ (f c.value).problems := rfl

theorem problems_pure {a : α} : (pure a : Checked α).problems = [] := rfl

theorem problems_eachFrom {check : Nat → α → Checked β} {i : Nat} {as : List α} :
    (eachFrom check i as).problems = (as.zipIdx i).flatMap fun a => (check a.2 a.1).problems := by
  induction as generalizing i with
  | nil => rfl
  | cons a as ih =>
      rw [eachFrom, problems_bind, problems_bind_pure, ih]
      rfl

end Checked

namespace Draft

/-- A part of a draft: a field that is checked as a whole, or an element of a list together with its
position. -/
inductive Part where
  | title (raw : Option Text)
  | lang (raw : Option Text)
  | base (raw : Option Text)
  | head (i : Nat) (raw : Draft.Head)
  | logo (raw : Option Text)
  | nav (i : Nat) (raw : Draft.Nav)
  | sidebar (raw : Entries (List Draft.Group))
  | social (i : Nat) (raw : Draft.Social)
  | editLink (raw : Option Draft.Edit)

namespace Part

def path : Part → FieldPath
  | title _ => FieldPath.field [] "title"
  | lang _ => FieldPath.field [] "lang"
  | base _ => FieldPath.field [] "base"
  | head i _ => (FieldPath.field [] "head").push (.index i)
  | logo _ => Element.themePath.field "logo"
  | nav i _ => (Element.themePath.field "nav").push (.index i)
  | sidebar _ => Element.themePath.field "sidebar"
  | social i _ => (Element.themePath.field "socialLinks").push (.index i)
  | editLink _ => Element.themePath.field "editLink"

/-- The problems that a part has by itself at its path. -/
def problems [Pattern.SizeTest] (part : Part) : List Diagnostic :=
  match part with
  | title raw => (Site.resolveTitle raw).problems
  | lang raw => (Site.resolveLang raw).problems
  | base raw => (Site.resolveBase raw).problems
  | head _ raw => (HeadTag.resolve part.path raw).problems
  | logo raw => (Checked.optional (fun link => Link.check (some link) part.path) raw).problems
  | nav _ raw => (NavItem.resolve part.path raw).problems
  | sidebar raw => (Sidebar.resolve part.path raw).problems
  | social _ raw => (SocialLink.resolve part.path raw).problems
  | editLink raw => (Checked.optional (EditLink.resolve part.path) raw).problems

end Part

/-- The elements of a list as parts, each with its position. -/
def partsOf {α : Type} (part : Nat → α → Part) (raw : Option (List α)) : List Part :=
  (raw.getD []).zipIdx.map fun a => part a.2 a.1

def Theme.parts (raw : Draft.Theme) : List Part :=
  .logo raw.logo :: (partsOf .nav raw.nav ++ .sidebar (raw.sidebar.getD []) ::
    (partsOf .social raw.socialLinks ++ [.editLink raw.editLink]))

/-- The parts of a draft in the order in which they are checked. -/
def parts (raw : Draft) : List Part :=
  .title raw.title :: .lang raw.lang :: .base raw.base ::
    (partsOf .head raw.head ++ (raw.theme.getD {}).parts)

/-- Two drafts that have the same parts, apart from those at a path or below it. -/
def AgreeOutside (path : FieldPath) (raw raw' : Draft) : Prop :=
  raw.parts.filter (!path.isPrefixOf ·.path) = raw'.parts.filter (!path.isPrefixOf ·.path)

namespace Part

theorem problems_within [Pattern.SizeTest] (part : Part) :
    ∀ d ∈ part.problems, part.path <+: d.field := by
  cases part with
  | title raw => exact Site.resolveTitle_within
  | lang raw => exact Site.resolveLang_within
  | base raw => exact Site.resolveBase_within
  | head i raw => exact HeadTag.resolve_within
  | logo raw => exact Theme.logo_within
  | nav i raw => exact NavItem.resolve_within
  | sidebar raw => exact Theme.sidebar_within
  | social i raw => exact SocialLink.resolve_within
  | editLink raw => exact Theme.editLink_within

/-- Neither of two parts stands at the path of the other or below it. -/
def Apart (part other : Part) : Prop := ¬part.path <+: other.path ∧ ¬other.path <+: part.path

end Part

theorem forall_mem_partsOf {α : Type} {part : Nat → α → Part} {raw : Option (List α)}
    {P : Part → Prop} :
    (∀ p ∈ partsOf part raw, P p) ↔ ∀ a ∈ (raw.getD []).zipIdx, P (part a.2 a.1) :=
  List.forall_mem_map

/-- The elements of a list stand apart by their positions. -/
theorem pairwise_partsOf {α : Type} {part : Nat → α → Part} {field : FieldPath}
    {raw : Option (List α)} (h : ∀ i a, (part i a).path = field.push (.index i)) :
    (partsOf part raw).Pairwise Part.Apart := by
  have hdistinct : ((raw.getD []).zipIdx.map Prod.snd).Nodup := by
    rw [List.zipIdx_map_snd]
    exact List.nodup_range'
  refine List.pairwise_map.mpr ((List.pairwise_map.mp hdistinct).imp fun {a b} hne => ?_)
  simpa [Part.Apart, h, FieldPath.push, eq_comm] using hne

theorem pairwise_parts (raw : Draft) : raw.parts.Pairwise Part.Apart := by
  have hhead : (partsOf .head raw.head).Pairwise Part.Apart := pairwise_partsOf fun _ _ => rfl
  have hnav : (partsOf .nav (raw.theme.getD {}).nav).Pairwise Part.Apart :=
    pairwise_partsOf fun _ _ => rfl
  have hsocial : (partsOf .social (raw.theme.getD {}).socialLinks).Pairwise Part.Apart :=
    pairwise_partsOf fun _ _ => rfl
  simp only [parts, Theme.parts, List.pairwise_cons, List.pairwise_append, List.forall_mem_cons,
    List.forall_mem_append, forall_mem_partsOf, hhead, hnav, hsocial]
  simp [Part.Apart, Part.path, FieldPath.field, FieldPath.push]

/-! ## Problems by their paths -/

namespace Part

variable {sizeTest : Pattern.SizeTest} {part other : Part} {path : FieldPath}

theorem filter_problems_eq_self (h : path <+: part.path) :
    part.problems.filter (path.isPrefixOf ·.field) = part.problems := by
  refine List.filter_eq_self.mpr fun d hd => ?_
  exact List.isPrefixOf_iff_prefix.mpr (h.trans (part.problems_within d hd))

theorem Apart.symm (h : Apart part other) : Apart other part := ⟨h.2, h.1⟩

/-- Of two paths that lead to one field, one leads to the other. -/
theorem filter_problems_eq_nil (h : Apart part other) :
    other.problems.filter (part.path.isPrefixOf ·.field) = [] := by
  refine List.filter_eq_nil_iff.mpr fun d hd hpart => ?_
  rcases List.prefix_or_prefix_of_prefix (List.isPrefixOf_iff_prefix.mp hpart)
      (other.problems_within d hd) with hp | hp
  · exact h.1 hp
  · exact h.2 hp

theorem filter_flatMap_problems_eq_nil [Pattern.SizeTest] {others : List Part}
    (h : ∀ other ∈ others, Apart part other) :
    (others.flatMap problems).filter (part.path.isPrefixOf ·.field) = [] := by
  rw [List.filter_flatMap, List.flatMap_eq_nil_iff]
  exact fun other ho => filter_problems_eq_nil (h other ho)

/-- What lies outside a path was found in parts outside of it. -/
theorem filter_flatMap_problems (parts : List Part) :
    (parts.flatMap problems).filter (!path.isPrefixOf ·.field) =
      (parts.filter (!path.isPrefixOf ·.path)).flatMap fun part =>
        part.problems.filter (!path.isPrefixOf ·.field) := by
  induction parts with
  | nil => rfl
  | cons part parts ih =>
      rw [List.flatMap_cons, List.filter_append, ih, List.filter_cons]
      split
      · rfl
      · rename_i hpath
        have hinside : path <+: part.path := by simpa using hpath
        rw [List.filter_eq_nil_iff.mpr, List.nil_append]
        intro d hd
        simpa using hinside.trans (part.problems_within d hd)

end Part

end Draft

/-! ## Drafts -/

theorem Checked.problems_each_partsOf [Pattern.SizeTest] {α β : Type}
    {part : Nat → α → Draft.Part} {check : Nat → α → Checked β} {raw : Option (List α)}
    (h : ∀ i a, (part i a).problems = (check i a).problems) :
    (Checked.each check (raw.getD [])).problems =
      (Draft.partsOf part raw).flatMap Draft.Part.problems := by
  rw [Checked.each, Checked.problems_eachFrom, Draft.partsOf, List.flatMap_map]
  simp only [h]

theorem Theme.problems_resolve [Pattern.SizeTest] (raw : Draft.Theme) :
    (Theme.resolve Draft.Element.themePath raw).problems =
      raw.parts.flatMap Draft.Part.problems := by
  have hnav : (NavItem.resolveAll (Draft.Element.themePath.field "nav") (raw.nav.getD [])).problems
      = (Draft.partsOf .nav raw.nav).flatMap Draft.Part.problems :=
    Checked.problems_each_partsOf fun _ _ => rfl
  have hsocial : (Checked.each (fun i link => SocialLink.resolve
      ((Draft.Element.themePath.field "socialLinks").push (.index i)) link)
      (raw.socialLinks.getD [])).problems =
        (Draft.partsOf .social raw.socialLinks).flatMap Draft.Part.problems :=
    Checked.problems_each_partsOf fun _ _ => rfl
  simp only [Theme.resolve, Checked.problems_bind, Checked.problems_pure, hnav, hsocial,
    Draft.Theme.parts, List.flatMap_cons, List.flatMap_append, List.flatMap_nil, List.append_nil]
  rfl

theorem Site.problems_check [Pattern.SizeTest] (raw : Draft) :
    (Site.check raw).problems = raw.parts.flatMap Draft.Part.problems := by
  have hhead : (Checked.each (fun i tag => HeadTag.resolve
      ((FieldPath.field [] "head").push (.index i)) tag) (raw.head.getD [])).problems =
        (Draft.partsOf .head raw.head).flatMap Draft.Part.problems :=
    Checked.problems_each_partsOf fun _ _ => rfl
  simp only [Site.check, Checked.problems_bind, Checked.problems_pure, hhead,
    Theme.problems_resolve, Draft.parts, List.flatMap_cons, List.flatMap_append, List.append_nil]
  rfl

/-- The problems of a draft are those that its parts have by themselves, in the order of the parts.
The problems of one part are exactly those reported at its path or below it. Two drafts that agree
outside a path have the same problems outside of it, in the same order. -/
theorem Site.problems_apart [Pattern.SizeTest] (raw : Draft) :
    (Site.check raw).problems = raw.parts.flatMap Draft.Part.problems ∧
      (∀ part ∈ raw.parts, (Site.check raw).problems.filter (part.path.isPrefixOf ·.field) =
        part.problems) ∧
      ∀ (path : FieldPath) (raw' : Draft), Draft.AgreeOutside path raw raw' →
        (Site.check raw).problems.filter (!path.isPrefixOf ·.field) =
          (Site.check raw').problems.filter (!path.isPrefixOf ·.field) := by
  refine ⟨Site.problems_check raw, fun part hmem => ?_, fun path raw' h => ?_⟩
  · obtain ⟨before, after, hparts⟩ := List.append_of_mem hmem
    have hapart := Draft.pairwise_parts raw
    rw [hparts, List.pairwise_append, List.pairwise_cons] at hapart
    obtain ⟨-, ⟨hafter, -⟩, hbefore⟩ := hapart
    have hbefore := Draft.Part.filter_flatMap_problems_eq_nil fun other ho =>
      (hbefore other ho part List.mem_cons_self).symm
    have hafter := Draft.Part.filter_flatMap_problems_eq_nil hafter
    rw [Site.problems_check, hparts, List.flatMap_append, List.flatMap_cons, List.filter_append,
      List.filter_append, hbefore, hafter, List.nil_append, List.append_nil]
    exact Draft.Part.filter_problems_eq_self List.prefix_rfl
  · rw [Site.problems_check, Site.problems_check, Draft.Part.filter_flatMap_problems,
      Draft.Part.filter_flatMap_problems, show _ = _ from h]

/-- A draft with a blank title and with navigation links of the given texts. -/
def Draft.withNavTexts (texts : List Text) : Draft where
  title := some []
  theme := some { nav := some (texts.map fun text => ⟨some text, some ['/'], none⟩) }

/-- Giving the first of two links a text leaves the report on the title and on the second link. -/
theorem Site.problems_apart_nav :
    Draft.Part.nav 1 ⟨some [], some ['/'], none⟩ ∈ (Draft.withNavTexts [[], []]).parts ∧
      Draft.AgreeOutside ((Draft.Element.themePath.field "nav").push (.index 0))
        (Draft.withNavTexts [[], []]) (Draft.withNavTexts [['A'], []]) ∧
      (Site.check (Draft.withNavTexts [[], []])).problems.filter
          (((Draft.Element.themePath.field "nav").push (.index 1)).isPrefixOf ·.field) =
        [⟨((Draft.Element.themePath.field "nav").push (.index 1)).field "text", .textBlank⟩] ∧
      (Site.check (Draft.withNavTexts [['A'], []])).problems.filter
          (!((Draft.Element.themePath.field "nav").push (.index 0)).isPrefixOf ·.field) =
        [⟨FieldPath.field [] "title", .titleBlank⟩,
          ⟨((Draft.Element.themePath.field "nav").push (.index 1)).field "text", .textBlank⟩] := by
  have hmem : Draft.Part.nav 1 ⟨some [], some ['/'], none⟩ ∈ (Draft.withNavTexts [[], []]).parts := by
    simp [Draft.withNavTexts, Draft.parts, Draft.Theme.parts, Draft.partsOf]
  have hagree : Draft.AgreeOutside ((Draft.Element.themePath.field "nav").push (.index 0))
      (Draft.withNavTexts [[], []]) (Draft.withNavTexts [['A'], []]) := rfl
  obtain ⟨-, hpart, houtside⟩ := Site.problems_apart (Draft.withNavTexts [[], []])
  exact ⟨hmem, hagree, hpart _ hmem, (houtside _ _ hagree).symm⟩

end Signpost
