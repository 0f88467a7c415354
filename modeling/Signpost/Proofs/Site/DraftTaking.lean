import Mathlib.Data.List.Forall2
import Signpost.Proofs.Document.Taking
import Signpost.Site.Basic
import Signpost.Site.DraftShape

/-!
# Taking drafts back

Each part of a draft is taken back from its written form: no field is lost, renamed, or taken for
another, whichever of them are absent. The forms of the larger parts are kept general, for a format
may rearrange what is inside a table, and only that they are taken back is needed.
-/

namespace Signpost.Draft

open Document
open Document.Value (member?)

/-- A field that may be absent fills its place when it is written, and leaves it blank when not. -/
theorem fills_optional {ρ α : Type} {shape : Shape ρ} {name : String} {value : Decoder α}
    {set : Option α → ρ → ρ} {write : α → Value} {a : Option α} {seen : List Text}
    {record record' : ρ} {pairs : List (Text × Value)}
    (known : shape.field? name.toList = some (optionalField name value set))
    (fresh : name.toList ∉ seen) (taken : ∀ x, a = some x → value.Takes (write x) x)
    (blank : set none record = record)
    (rest : shape.Fills (name.toList :: seen) (set a record) pairs record') :
    shape.Fills seen record (member? name write a ++ pairs) record' := by
  cases a with
  | none =>
      rw [blank] at rest
      exact rest.mono (List.subset_cons_self _ _)
  | some x => exact .cons known fresh (Slot.takes_of (Decoder.takes_optional (taken x rfl))) rest

theorem takes_text_of {a : Option Text} : ∀ x, a = some x → Decoder.text.Takes (.text x) x :=
  fun x _ => Decoder.takes_text x

theorem takes_flag_of {a : Option Bool} : ∀ x, a = some x → Decoder.flag.Takes (.flag x) x :=
  fun x _ => Decoder.takes_flag x

theorem Nav.fills (d : Nav) : Nav.shape.Fills [] {} (member? "text" .text d.text ++
    member? "link" .text d.link ++ member? "activeMatch" .text d.activeMatch) d := by
  rw [List.append_assoc, ← List.append_nil (member? "activeMatch" _ _)]
  refine fills_optional rfl (by decide) takes_text_of rfl ?_
  refine fills_optional rfl (by decide) takes_text_of rfl ?_
  exact fills_optional rfl (by decide) takes_text_of rfl .nil

theorem Nav.takes (d : Nav) : Nav.shape.decode.Takes d.toValue d := (Nav.fills d).takes

theorem Nav.takes_list (items : List Nav) :
    (Decoder.list Nav.shape.decode).Takes (Nav.listValue items) items := by
  refine Decoder.takes_list ?_
  rw [List.forall₂_map_left_iff, List.forall₂_same]
  exact fun d _ => Nav.takes d

theorem Group.fills (d : Group) {items : List Nav → Value}
    (hitems : ∀ x, d.items = some x → (Decoder.list Nav.shape.decode).Takes (items x) x) :
    Group.shape.Fills [] {} (member? "text" .text d.text ++ member? "items" items d.items ++
      member? "collapsed" .flag d.collapsed) d := by
  rw [List.append_assoc, ← List.append_nil (member? "collapsed" _ _)]
  refine fills_optional rfl (by decide) takes_text_of rfl ?_
  refine fills_optional rfl (by decide) hitems rfl ?_
  exact fills_optional rfl (by decide) takes_flag_of rfl .nil

theorem Group.takes (d : Group) : Group.shape.decode.Takes d.toValue d :=
  (Group.fills d fun x _ => Nav.takes_list x).takes

theorem takes_textEntries (entries : Entries Text) :
    (Decoder.entries Decoder.text).Takes (textEntries entries) entries := by
  refine Decoder.takes_entries ?_
  rw [List.forall₂_map_left_iff, List.forall₂_same]
  exact fun entry _ => ⟨rfl, Decoder.takes_text entry.2⟩

/-- A tag table may leave out a map without attributes. -/
theorem HeadTable.fills (t : HeadTable) {a : Option (Entries Text)} {write : Entries Text → Value}
    (ha : a.getD [] = t.attributes)
    (hwrite : ∀ x, a = some x → (Decoder.entries Decoder.text).Takes (write x) x) :
    HeadTable.shape.Fills [] {} (member? "tagName" .text t.tag ++
      member? "attributes" write a ++ member? "content" .text t.content) t := by
  obtain ⟨tag, entries, content⟩ := t
  rw [List.append_assoc, ← List.append_nil (member? "content" _ _)]
  refine fills_optional rfl (by decide) takes_text_of rfl ?_
  have hcontent : HeadTable.shape.Fills ["attributes".toList, "tagName".toList]
      ⟨tag, entries, none⟩ (member? "content" .text content ++ []) ⟨tag, entries, content⟩ :=
    fills_optional rfl (by decide) takes_text_of rfl .nil
  cases a with
  | none =>
      obtain rfl : [] = entries := ha
      exact hcontent.mono (List.subset_cons_self _ _)
  | some x =>
      obtain rfl : x = entries := ha
      exact .cons rfl (by decide) (Slot.takes_of (hwrite x rfl)) hcontent

theorem Head.takes_table {pairs : List (Text × Value)} {t : HeadTable}
    (h : HeadTable.shape.Fills [] {} pairs t) :
    Head.decode.Takes (.table pairs) (.table t.tag t.attributes t.content) where
  present := nofun
  reads path node hs := by
    cases hs with
    | table opening inside =>
      have hread : HeadTable.shape.ofMembers path [] HeadTable.shape.blank _ = pure t :=
        h.ofMembers path inside
      rw [Head.decode, hread, Decoded.pure_bind]

/-- A tag that is written as a list is taken back with the length it has. -/
theorem Head.takes_list (tag : Text) (attributes : Entries Text) (content : Option Text) :
    Head.decode.Takes
      (.list ([.text tag, textEntries attributes] ++ (content.map Value.text).toList))
      (match content with
        | none => .simple tag attributes
        | some content => .withContent tag attributes content) where
  present := nofun
  reads path node hs := by
    cases hs with
    | list opening inside =>
      obtain _ | ⟨_, htag, inside⟩ := inside
      obtain _ | ⟨_, hattributes, inside⟩ := inside
      rw [Head.decode, Head.ofList, (Decoder.takes_text tag).reads _ _ htag, Decoded.pure_bind,
        Head.listAttributes, (takes_textEntries attributes).reads _ _ hattributes,
        Decoded.pure_bind]
      cases content with
      | none =>
          cases inside
          rfl
      | some content =>
          obtain _ | ⟨_, hcontent, inside⟩ := inside
          cases inside
          rw [Head.listContent, (Decoder.takes_text content).reads _ _ hcontent, Decoded.pure_bind]
          rfl

/-- A tag is taken back in the form in which it was written. -/
theorem Head.takes (d : Head) : Head.decode.Takes d.toValue d := by
  cases d with
  | withContent tag attributes content => exact Head.takes_list tag attributes (some content)
  | simple tag attributes => exact Head.takes_list tag attributes none
  | table tag attributes content =>
      refine Head.takes_table (HeadTable.fills ⟨tag, attributes, content⟩ ?_ ?_)
      · cases attributes <;> rfl
      · exact fun x _ => takes_textEntries x

theorem Social.fills (d : Social) : Social.shape.Fills [] {} (member? "icon" .text d.icon ++
    member? "link" .text d.link ++ member? "ariaLabel" .text d.ariaLabel) d := by
  rw [List.append_assoc, ← List.append_nil (member? "ariaLabel" _ _)]
  refine fills_optional rfl (by decide) takes_text_of rfl ?_
  refine fills_optional rfl (by decide) takes_text_of rfl ?_
  exact fills_optional rfl (by decide) takes_text_of rfl .nil

theorem Social.takes (d : Social) : Social.shape.decode.Takes d.toValue d := (Social.fills d).takes

theorem Footer.fills (d : Footer) : Footer.shape.Fills [] {} (member? "message" .text d.message ++
    member? "copyright" .text d.copyright) d := by
  rw [← List.append_nil (member? "copyright" _ _)]
  refine fills_optional rfl (by decide) takes_text_of rfl ?_
  exact fills_optional rfl (by decide) takes_text_of rfl .nil

theorem Footer.takes (d : Footer) : Footer.shape.decode.Takes d.toValue d := (Footer.fills d).takes

theorem Edit.fills (d : Edit) : Edit.shape.Fills [] {} (member? "pattern" .text d.pattern ++
    member? "text" .text d.text) d := by
  rw [← List.append_nil (member? "text" _ _)]
  refine fills_optional rfl (by decide) takes_text_of rfl ?_
  exact fills_optional rfl (by decide) takes_text_of rfl .nil

theorem Edit.takes (d : Edit) : Edit.shape.decode.Takes d.toValue d := (Edit.fills d).takes

/-- A sidebar is written as a map of its keys. -/
theorem takes_sidebar {pairs : List (Text × Value)} {entries : Entries (List Group)}
    (h : List.Forall₂ (fun m e => m.1 = e.1 ∧ (Decoder.list Group.shape.decode).Takes m.2 e.2)
      pairs entries) : sidebarDecode.Takes (.table pairs) entries where
  present := nofun
  reads path node hs := by
    cases hs with
    | table opening inside =>
      exact (Decoder.takes_entries h).reads path _ (.table opening inside)

theorem sidebar_takes (entries : Entries (List Group)) :
    sidebarDecode.Takes (sidebarValue entries) entries := by
  refine takes_sidebar ?_
  rw [List.forall₂_map_left_iff, List.forall₂_same]
  refine fun entry _ => ⟨rfl, Decoder.takes_list ?_⟩
  rw [List.forall₂_map_left_iff, List.forall₂_same]
  exact fun group _ => Group.takes group

theorem Social.takes_list (links : List Social) :
    (Decoder.list Social.shape.decode).Takes (.list (links.map Social.toValue)) links := by
  refine Decoder.takes_list ?_
  rw [List.forall₂_map_left_iff, List.forall₂_same]
  exact fun d _ => Social.takes d

theorem Theme.fills (d : Theme) {nav : List Nav → Value} (sidebar : Entries (List Group) → Value)
    {socialLinks : List Social → Value} {footer : Footer → Value} {editLink : Edit → Value}
    (hnav : ∀ x, d.nav = some x → (Decoder.list Nav.shape.decode).Takes (nav x) x)
    (hsidebar : ∀ x, d.sidebar = some x → sidebarDecode.Takes (sidebar x) x)
    (hsocialLinks : ∀ x, d.socialLinks = some x →
      (Decoder.list Social.shape.decode).Takes (socialLinks x) x)
    (hfooter : ∀ x, d.footer = some x → Footer.shape.decode.Takes (footer x) x)
    (heditLink : ∀ x, d.editLink = some x → Edit.shape.decode.Takes (editLink x) x) :
    Theme.shape.Fills [] {} (member? "logo" .text d.logo ++ member? "nav" nav d.nav ++
      member? "sidebar" sidebar d.sidebar ++ member? "socialLinks" socialLinks d.socialLinks ++
      member? "footer" footer d.footer ++ member? "editLink" editLink d.editLink) d := by
  simp only [List.append_assoc]
  rw [← List.append_nil (member? "editLink" _ _)]
  refine fills_optional rfl (by decide) takes_text_of rfl ?_
  refine fills_optional rfl (by decide) hnav rfl ?_
  refine fills_optional rfl (by decide) hsidebar rfl ?_
  refine fills_optional rfl (by decide) hsocialLinks rfl ?_
  refine fills_optional rfl (by decide) hfooter rfl ?_
  exact fills_optional rfl (by decide) heditLink rfl .nil

theorem Theme.takes (d : Theme) : Theme.shape.decode.Takes d.toValue d :=
  (Theme.fills d sidebarValue (fun x _ => Nav.takes_list x) (fun x _ => sidebar_takes x)
    (fun x _ => Social.takes_list x) (fun x _ => Footer.takes x) fun x _ => Edit.takes x).takes

theorem fills (d : Draft) (head : List Head → Value) (theme : Theme → Value)
    (hhead : ∀ x, d.head = some x → (Decoder.list Head.decode).Takes (head x) x)
    (htheme : ∀ x, d.theme = some x → Theme.shape.decode.Takes (theme x) x) :
    shape.Fills [] {} (member? "lang" .text d.lang ++ member? "title" .text d.title ++
      member? "description" .text d.description ++ member? "base" .text d.base ++
      member? "lastUpdated" .flag d.lastUpdated ++ member? "cleanUrls" .flag d.cleanUrls ++
      member? "head" head d.head ++ member? "themeConfig" theme d.theme) d := by
  simp only [List.append_assoc]
  rw [← List.append_nil (member? "themeConfig" _ _)]
  refine fills_optional rfl (by decide) takes_text_of rfl ?_
  refine fills_optional rfl (by decide) takes_text_of rfl ?_
  refine fills_optional rfl (by decide) takes_text_of rfl ?_
  refine fills_optional rfl (by decide) takes_text_of rfl ?_
  refine fills_optional rfl (by decide) takes_flag_of rfl ?_
  refine fills_optional rfl (by decide) takes_flag_of rfl ?_
  refine fills_optional rfl (by decide) hhead rfl ?_
  exact fills_optional rfl (by decide) htheme rfl .nil

/-- Whatever draft is written, it is taken back. -/
theorem takes (d : Draft) : shape.decode.Takes d.toValue d := by
  refine (fills d (fun tags => .list (tags.map Head.toValue)) Theme.toValue ?_ ?_).takes
  · intro tags _
    refine Decoder.takes_list ?_
    rw [List.forall₂_map_left_iff, List.forall₂_same]
    exact fun tag _ => Head.takes tag
  · exact fun theme _ => Theme.takes theme

/-! ## The order of fields

The fields of a record are parts of a structure, so each two of them can be set in either order.
-/

theorem Nav.commutes : Nav.shape.fields.Pairwise Slot.Commutes := by
  refine .cons ?_ (.cons ?_ (.cons ?_ .nil))
  all_goals
    repeat refine List.forall_mem_cons.mpr ⟨Slot.commutes_of fun _ _ _ => rfl, ?_⟩
    exact List.forall_mem_nil _

theorem Group.commutes : Group.shape.fields.Pairwise Slot.Commutes := by
  refine .cons ?_ (.cons ?_ (.cons ?_ .nil))
  all_goals
    repeat refine List.forall_mem_cons.mpr ⟨Slot.commutes_of fun _ _ _ => rfl, ?_⟩
    exact List.forall_mem_nil _

theorem HeadTable.commutes : HeadTable.shape.fields.Pairwise Slot.Commutes := by
  refine .cons ?_ (.cons ?_ (.cons ?_ .nil))
  all_goals
    repeat refine List.forall_mem_cons.mpr ⟨Slot.commutes_of fun _ _ _ => rfl, ?_⟩
    exact List.forall_mem_nil _

theorem Social.commutes : Social.shape.fields.Pairwise Slot.Commutes := by
  refine .cons ?_ (.cons ?_ (.cons ?_ .nil))
  all_goals
    repeat refine List.forall_mem_cons.mpr ⟨Slot.commutes_of fun _ _ _ => rfl, ?_⟩
    exact List.forall_mem_nil _

theorem Footer.commutes : Footer.shape.fields.Pairwise Slot.Commutes := by
  refine .cons ?_ (.cons ?_ .nil)
  all_goals
    repeat refine List.forall_mem_cons.mpr ⟨Slot.commutes_of fun _ _ _ => rfl, ?_⟩
    exact List.forall_mem_nil _

theorem Edit.commutes : Edit.shape.fields.Pairwise Slot.Commutes := by
  refine .cons ?_ (.cons ?_ .nil)
  all_goals
    repeat refine List.forall_mem_cons.mpr ⟨Slot.commutes_of fun _ _ _ => rfl, ?_⟩
    exact List.forall_mem_nil _

theorem Theme.commutes : Theme.shape.fields.Pairwise Slot.Commutes := by
  refine .cons ?_ (.cons ?_ (.cons ?_ (.cons ?_ (.cons ?_ (.cons ?_ .nil)))))
  all_goals
    repeat refine List.forall_mem_cons.mpr ⟨Slot.commutes_of fun _ _ _ => rfl, ?_⟩
    exact List.forall_mem_nil _

theorem commutes : shape.fields.Pairwise Slot.Commutes := by
  refine .cons ?_ (.cons ?_ (.cons ?_ (.cons ?_ (.cons ?_ (.cons ?_ (.cons ?_ (.cons ?_ .nil)))))))
  all_goals
    repeat refine List.forall_mem_cons.mpr ⟨Slot.commutes_of fun _ _ _ => rfl, ?_⟩
    exact List.forall_mem_nil _

end Signpost.Draft

namespace Signpost

open Document
open Document.Value (member?)

/-! ## Sites

The written form of a site is the one of its draft, but for tags: a resolved tag is written with its
map of attributes even when that is empty.
-/

theorem NavItem.listValue_eq (items : List NavItem) :
    Value.list (items.map NavItem.toValue) = Draft.Nav.listValue (items.map NavItem.toDraft) := by
  rw [Draft.Nav.listValue, List.map_map]
  rfl

theorem SidebarGroup.toValue_eq (group : SidebarGroup) :
    group.toValue = group.toDraft.toValue := by
  rw [SidebarGroup.toValue, NavItem.listValue_eq]
  rfl

theorem Sidebar.toValue_eq (sidebar : Sidebar) :
    sidebar.toValue = Draft.sidebarValue sidebar.toDraft := by
  rw [Sidebar.toValue, Draft.sidebarValue, Sidebar.toDraft, List.map_map]
  refine congrArg Value.table (List.map_congr_left fun entry _ => ?_)
  rw [funext SidebarGroup.toValue_eq, Function.comp_apply]
  dsimp only
  rw [List.map_map]
  rfl

theorem SocialLink.listValue_eq (links : List SocialLink) :
    Value.list (links.map SocialLink.toValue) =
      .list ((links.map SocialLink.toDraft).map Draft.Social.toValue) := by
  rw [List.map_map]
  rfl

theorem Theme.toValue_eq (theme : Theme) : theme.toValue = theme.toDraft.toValue := by
  obtain ⟨logo, nav, sidebar, socialLinks, footer, editLink⟩ := theme
  rw [Theme.toValue, NavItem.listValue_eq, Sidebar.toValue_eq, SocialLink.listValue_eq]
  simp only [Draft.Theme.toValue, Theme.toDraft, List.append_assoc]
  cases footer <;> cases editLink <;> rfl

theorem HeadTag.takes (tag : HeadTag) : Draft.Head.decode.Takes tag.toValue tag.toDraft :=
  Draft.Head.takes_table (Draft.HeadTable.fills ⟨some tag.tagName, tag.attributes, tag.content⟩
    (a := some tag.attributes) rfl fun x _ => Draft.takes_textEntries x)

/-- Whatever site is written, its draft is taken back. -/
theorem Site.takes (site : Site) : Draft.shape.decode.Takes site.toValue site.toDraft := by
  have hhead : (Decoder.list Draft.Head.decode).Takes (.list (site.head.map HeadTag.toValue))
      (site.head.map HeadTag.toDraft) := by
    refine Decoder.takes_list ?_
    rw [List.forall₂_map_left_iff, List.forall₂_map_right_iff, List.forall₂_same]
    exact fun tag _ => HeadTag.takes tag
  have htheme := Draft.Theme.takes site.theme.toDraft
  rw [← Theme.toValue_eq] at htheme
  refine (Draft.fills site.toDraft (fun _ => .list (site.head.map HeadTag.toValue))
    (fun _ => site.theme.toValue) ?_ ?_).takes
  · rintro _ ⟨⟩
    exact hhead
  · rintro _ ⟨⟩
    exact htheme

end Signpost
