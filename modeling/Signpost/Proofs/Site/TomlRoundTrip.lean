import Signpost.Pattern.Size
import Signpost.Proofs.Site.Accepted
import Signpost.Proofs.Site.DraftTaking
import Signpost.Proofs.Toml.Arrangement
import Signpost.Site.Render
import Signpost.Site.Source

/-!
# Sites written as TOML

Taking in the TOML text of a site gives the draft of the site, but for the order of its sidebar: an
entry without groups is written as a value and one with groups as tables, so the entries without
groups come back first. No key of the text is unknown.
-/

namespace Signpost.Draft

open Document
open Document.Value (member?)
open Toml

/-! ## The order of a sidebar -/

/-- The entries without groups, then the others; each of the two classes keeps its order. -/
def bareEntriesFirst (entries : Entries (List Group)) : Entries (List Group) :=
  entries.filter (·.2.isEmpty) ++ entries.filter (!·.2.isEmpty)

/-- The theme with the bare entries of its sidebar first. -/
def Theme.bareFirst (d : Theme) : Theme := { d with sidebar := d.sidebar.map bareEntriesFirst }

/-- The draft with the bare entries of its sidebar first. -/
def bareFirst (d : Draft) : Draft := { d with theme := d.theme.map Theme.bareFirst }

/-! ## Parts of a draft -/

section Members

variable {α : Type} {name : String} {write : α → Value} {a : Option α}

theorem map_member? :
    (member? name write a).map arrangedMember = member? name (fun x => arranged (write x)) a := by
  cases a <;> rfl

theorem forall_mem_member? {P : Text × Value → Prop} :
    (∀ m ∈ member? name write a, P m) ↔ ∀ x, a = some x → P (name.toList, write x) := by
  cases a <;> simp [member?]

end Members

variable (room : Nat)

theorem Nav.carries (d : Nav) : Carries (room + 1) Nav.shape.decode d.toValue d := by
  refine carries_record Nav.commutes ?_ ?_
  · simp only [List.map_append, map_member?]
    exact Nav.fills d
  · simp only [List.forall_mem_append, forall_mem_member?]
    exact ⟨⟨fun _ _ => trivial, fun _ _ => trivial⟩, fun _ _ => trivial⟩

theorem Nav.carries_list (items : List Nav) :
    Carries (room + 1) (Decoder.list Nav.shape.decode) (Nav.listValue items) items := by
  have hlist := Toml.carries_list (f := id) (fun _ => rfl)
    fun d (_ : d ∈ items) => Nav.carries room d
  rwa [List.map_id] at hlist

theorem Group.carries (d : Group) : Carries (room + 2) Group.shape.decode d.toValue d := by
  refine carries_record Group.commutes ?_ ?_
  · simp only [List.map_append, map_member?]
    exact Group.fills d fun x _ => (Nav.carries_list room x).taken
  · simp only [List.forall_mem_append, forall_mem_member?]
    exact ⟨⟨fun _ _ => trivial, fun x _ => (Nav.carries_list room x).fits⟩, fun _ _ => trivial⟩

theorem Group.carries_list (groups : List Group) :
    Carries (room + 2) (Decoder.list Group.shape.decode) (.list (groups.map Group.toValue))
      groups := by
  have hlist := Toml.carries_list (f := id) (fun _ => rfl)
    fun d (_ : d ∈ groups) => Group.carries room d
  rwa [List.map_id] at hlist

theorem carries_textEntries {entries : Entries Text} (hkeys : (entries.map Prod.fst).Nodup) :
    Carries (room + 1) (Decoder.entries Decoder.text) (textEntries entries) entries where
  fits := by
    refine membersFit_iff.mpr ⟨?_, List.forall_mem_map.mpr fun _ _ => trivial⟩
    rwa [List.map_map]
  taken := by
    rw [textEntries, arranged_table_of_plain (List.forall_mem_map.mpr fun _ _ => rfl)]
    exact takes_textEntries entries

theorem Social.carries (d : Social) : Carries (room + 1) Social.shape.decode d.toValue d := by
  refine carries_record Social.commutes ?_ ?_
  · simp only [List.map_append, map_member?]
    exact Social.fills d
  · simp only [List.forall_mem_append, forall_mem_member?]
    exact ⟨⟨fun _ _ => trivial, fun _ _ => trivial⟩, fun _ _ => trivial⟩

theorem Social.carries_list (links : List Social) :
    Carries (room + 1) (Decoder.list Social.shape.decode) (.list (links.map Social.toValue))
      links := by
  have hlist := Toml.carries_list (f := id) (fun _ => rfl)
    fun d (_ : d ∈ links) => Social.carries room d
  rwa [List.map_id] at hlist

theorem Footer.carries (d : Footer) : Carries (room + 1) Footer.shape.decode d.toValue d := by
  refine carries_record Footer.commutes ?_ ?_
  · simp only [List.map_append, map_member?]
    exact Footer.fills d
  · simp only [List.forall_mem_append, forall_mem_member?]
    exact ⟨fun _ _ => trivial, fun _ _ => trivial⟩

theorem Edit.carries (d : Edit) : Carries (room + 1) Edit.shape.decode d.toValue d := by
  refine carries_record Edit.commutes ?_ ?_
  · simp only [List.map_append, map_member?]
    exact Edit.fills d
  · simp only [List.forall_mem_append, forall_mem_member?]
    exact ⟨fun _ _ => trivial, fun _ _ => trivial⟩

/-- A list of groups is a value of its own exactly when it holds none. -/
theorem isPlainValue_groups (groups : List Group) :
    isPlainValue (.list (groups.map Group.toValue)) = groups.isEmpty := by
  cases groups with
  | nil => rfl
  | cons group rest =>
      have htables : (rest.map Group.toValue).all isTable :=
        List.all_eq_true.mpr (List.forall_mem_map.mpr fun _ _ => rfl)
      show (!false && !(true && (rest.map Group.toValue).all isTable)) = false
      rw [htables]
      rfl

theorem carries_sidebar {entries : Entries (List Group)} (hkeys : (entries.map Prod.fst).Nodup) :
    Carries (room + 3) sidebarDecode (sidebarValue entries) (bareEntriesFirst entries) where
  fits := by
    refine membersFit_iff.mpr ⟨?_, List.forall_mem_map.mpr fun e _ => ?_⟩
    · rwa [List.map_map]
    · exact (Group.carries_list room e.2).fits
  taken := by
    rw [sidebarValue, arranged, arranged_members, List.filter_map, List.filter_map,
      ← List.map_append, List.map_map]
    refine takes_sidebar ?_
    simp only [Function.comp_def, isPlainValue_groups]
    rw [List.forall₂_map_left_iff, bareEntriesFirst, List.forall₂_same]
    exact fun e _ => ⟨rfl, (Group.carries_list room e.2).taken⟩

theorem Theme.carries {d : Theme}
    (hkeys : ∀ entries, d.sidebar = some entries → (entries.map Prod.fst).Nodup) :
    Carries (room + 4) Theme.shape.decode d.toValue d.bareFirst := by
  refine carries_record Theme.commutes ?_ ?_
  · have hsidebar : member? "sidebar" (fun x => arranged (sidebarValue x)) d.sidebar =
        member? "sidebar" (fun _ => arranged (sidebarValue (d.sidebar.getD [])))
          d.bareFirst.sidebar := by
      rw [Theme.bareFirst]
      cases d.sidebar <;> rfl
    simp only [List.map_append, map_member?]
    rw [hsidebar]
    refine Theme.fills d.bareFirst _ (fun x _ => (Nav.carries_list room x).taken) ?_
      (fun x _ => (Social.carries_list room x).taken) (fun x _ => (Footer.carries room x).taken)
      fun x _ => (Edit.carries room x).taken
    intro x hx
    obtain ⟨entries, hentries, rfl⟩ := Option.map_eq_some_iff.mp hx
    rw [hentries]
    exact (carries_sidebar room (hkeys entries hentries)).taken
  · simp only [List.forall_mem_append, forall_mem_member?]
    exact ⟨⟨⟨⟨⟨fun _ _ => trivial, fun x _ => (Nav.carries_list (room + 2) x).fits⟩,
      fun x hx => (carries_sidebar room (hkeys x hx)).fits⟩,
      fun x _ => (Social.carries_list (room + 2) x).fits⟩,
      fun x _ => (Footer.carries (room + 2) x).fits⟩, fun x _ => (Edit.carries (room + 2) x).fits⟩

end Signpost.Draft

namespace Signpost

open Document
open Document.Value (member?)
open Toml

/-! ## Sites -/

theorem HeadTag.carries (room : Nat) {tag : HeadTag}
    (hnames : (tag.attributes.map Prod.fst).Nodup) :
    Carries (room + 2) Draft.Head.decode tag.toValue tag.toDraft := by
  have hattributes := Draft.carries_textEntries room hnames
  have hfills : Draft.HeadTable.shape.Fills [] {} ((member? "tagName" .text (some tag.tagName) ++
      member? "attributes" Draft.textEntries (some tag.attributes) ++
      member? "content" .text tag.content).map arrangedMember)
      ⟨some tag.tagName, tag.attributes, tag.content⟩ := by
    simp only [List.map_append, Draft.map_member?]
    refine Draft.HeadTable.fills ⟨some tag.tagName, tag.attributes, tag.content⟩ rfl ?_
    rintro _ ⟨⟩
    exact hattributes.taken
  constructor
  · refine membersFit_of_fills hfills ?_
    simp only [List.forall_mem_append, Draft.forall_mem_member?]
    refine ⟨List.forall_mem_cons.mpr ⟨trivial, ?_⟩, fun _ _ => trivial⟩
    exact List.forall_mem_singleton.mpr hattributes.fits
  · rw [HeadTag.toValue, arranged]
    exact Draft.Head.takes_table (fills_arranged Draft.HeadTable.commutes hfills)

/-- No area of the sidebar and no attribute of a tag is there twice. -/
structure Site.KeysDistinct (site : Site) : Prop where
  areas : (site.theme.sidebar.map SidebarEntry.area).Nodup
  names : ∀ tag ∈ site.head, (tag.attributes.map Prod.fst).Nodup

theorem HeadTag.Accepted.names {raw : Draft.Head} {tag : HeadTag} (h : HeadTag.Accepted raw tag) :
    (tag.attributes.map Prod.fst).Nodup := by
  refine List.Nodup.of_map Text.lower ?_
  rw [List.map_map]
  exact h.wellNamed.distinct

theorem Site.Accepted.keysDistinct [Pattern.SizeTest] {raw : Draft} {site : Site}
    (h : Site.Accepted raw site) : site.KeysDistinct where
  areas := h.theme.sidebar.areas
  names := forall_mem_of_accepted h.head fun _ _ ht => ht.names

theorem Site.carries (room : Nat) {site : Site} (h : site.KeysDistinct) :
    Carries (room + 5) Draft.shape.decode site.toValue site.toDraft.bareFirst := by
  have hhead : Carries (room + 4) (Decoder.list Draft.Head.decode)
      (.list (site.head.map HeadTag.toValue)) (site.head.map HeadTag.toDraft) :=
    carries_list (fun _ => rfl) fun tag hmem => HeadTag.carries (room + 2) (h.names tag hmem)
  have htheme : Carries (room + 4) Draft.Theme.shape.decode site.theme.toValue
      site.theme.toDraft.bareFirst := by
    rw [Theme.toValue_eq]
    refine Draft.Theme.carries room ?_
    rintro _ ⟨⟩
    rw [Sidebar.toDraft, List.map_map]
    exact h.areas
  refine carries_record Draft.commutes ?_ ?_
  · refine Draft.fills site.toDraft.bareFirst
      (fun _ => arranged (.list (site.head.map HeadTag.toValue)))
      (fun _ => arranged site.theme.toValue) ?_ ?_
    · rintro _ ⟨⟩
      exact hhead.taken
    · rintro _ ⟨⟩
      exact htheme.taken
  · simp only [List.forall_mem_cons]
    exact ⟨trivial, trivial, trivial, trivial, trivial, trivial, hhead.fits, htheme.fits,
      List.forall_mem_nil _⟩

/-- A resolved site is read back from its TOML text as its draft, the entries without groups
first. -/
theorem Site.read_render_toml [Pattern.SizeTest] {raw : Draft} {site : Site}
    (h : Site.resolve raw = .ok site)
    (pretty : Bool) :
    Draft.read .toml (site.render .toml pretty) = .ok (site.toDraft.bareFirst, []) := by
  have hkeys := (Site.resolve_eq_ok.mp h).keysDistinct
  have hdecode := decode_write (by decide) (Site.carries 0 hkeys)
  rw [Draft.read, Site.render, Format.write, Site.toValue, hdecode]
  rfl

/-- A draft with a tag and two areas, of which the second has no groups. -/
def Draft.withAreas : Draft where
  title := some ['X']
  head := some [.table (some "link".toList) [("rel".toList, "icon".toList)] none]
  theme := some { sidebar := some [("/a".toList, [{ text := some ['G'] }]), ("/b".toList, [])] }

/-- The site of that draft. -/
def Site.withAreas : Site where
  lang := Site.defaultLang
  title := ['X']
  description := []
  base := Site.defaultBase
  lastUpdated := false
  cleanUrls := false
  head := [⟨"link".toList, [("rel".toList, "icon".toList)], none⟩]
  theme := { sidebar := [⟨"/a/".toList, [⟨['G'], [], none⟩]⟩, ⟨"/b/".toList, []⟩] }

/-- The second area comes back first. -/
theorem Site.read_render_toml_areas :
    Site.resolve Draft.withAreas = .ok Site.withAreas ∧
      Draft.read .toml (Site.withAreas.render .toml false)
        = .ok (Site.withAreas.toDraft.bareFirst, []) ∧
      Draft.bareEntriesFirst Site.withAreas.theme.sidebar.toDraft =
        [("/b/".toList, []), ("/a/".toList, [⟨some ['G'], some [], none⟩])] := by
  have h : Site.resolve Draft.withAreas = .ok Site.withAreas := rfl
  exact ⟨h, Site.read_render_toml h false, rfl⟩

end Signpost
