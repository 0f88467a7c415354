import Signpost.Proofs.Document.Listing
import Signpost.Proofs.Site.Places

/-!
# The paths of unknown keys

Unknown keys of a config are told apart by the texts of their paths. Each text shows by which
members and elements the key is reached, and by nothing else, so two keys have one text only if they
stand at one place.
-/

namespace Signpost

open Document Document.Decoded

namespace Draft

variable {ρ α : Type} {name : String} {value : Decoder α} {set : Option α → ρ → ρ}

/-! ## Every part of a draft -/

theorem listsBelow_field (h : value.ListsBelow) :
    (optionalField name value set).read.ListsBelow :=
  Slot.listsBelow_of h.optional

theorem listsBelow_text {set : Option Text → ρ → ρ} :
    (optionalField name .text set).read.ListsBelow :=
  listsBelow_field Decoder.listsBelow_text

theorem listsBelow_flag {set : Option Bool → ρ → ρ} :
    (optionalField name .flag set).read.ListsBelow :=
  listsBelow_field Decoder.listsBelow_flag

theorem Nav.listsBelow : Nav.shape.decode.ListsBelow := by
  refine Shape.listsBelow (List.forall_mem_cons.mpr ⟨listsBelow_text, ?_⟩)
  exact List.forall_mem_cons.mpr ⟨listsBelow_text, List.forall_mem_singleton.mpr listsBelow_text⟩

theorem Group.listsBelow : Group.shape.decode.ListsBelow := by
  refine Shape.listsBelow (List.forall_mem_cons.mpr ⟨listsBelow_text, ?_⟩)
  refine List.forall_mem_cons.mpr ⟨listsBelow_field Nav.listsBelow.list, ?_⟩
  exact List.forall_mem_singleton.mpr listsBelow_flag

theorem Social.listsBelow : Social.shape.decode.ListsBelow := by
  refine Shape.listsBelow (List.forall_mem_cons.mpr ⟨listsBelow_text, ?_⟩)
  exact List.forall_mem_cons.mpr ⟨listsBelow_text, List.forall_mem_singleton.mpr listsBelow_text⟩

theorem Footer.listsBelow : Footer.shape.decode.ListsBelow := by
  refine Shape.listsBelow (List.forall_mem_cons.mpr ⟨listsBelow_text, ?_⟩)
  exact List.forall_mem_singleton.mpr listsBelow_text

theorem Edit.listsBelow : Edit.shape.decode.ListsBelow := by
  refine Shape.listsBelow (List.forall_mem_cons.mpr ⟨listsBelow_text, ?_⟩)
  exact List.forall_mem_singleton.mpr listsBelow_text

theorem Head.lists_listEnd (path : FieldPath) (tag : Text) (attributes : Entries Text)
    (content : Text) (items : Items) :
    (Head.listEnd path tag attributes content items).Lists path.IsBelow := by
  cases items with
  | close _ => exact lists_pure _
  | cut _ _ => exact lists_fail _
  | item node follow rest =>
      rw [Head.listEnd]
      split
      · exact lists_fail _
      · have hskip := Decoder.lists_skip (path.push (.index 3)) node
        exact (hskip.mono fun _ => FieldPath.IsBelow.of_element).bind fun _ => lists_fail _

theorem Head.lists_listContent (path : FieldPath) (tag : Text) (attributes : Entries Text)
    (items : Items) : (Head.listContent path tag attributes items).Lists path.IsBelow := by
  cases items with
  | close _ => exact lists_pure _
  | cut _ _ => exact lists_fail _
  | item node _ rest =>
      rw [Head.listContent]
      exact (Decoder.listsBelow_text.at_element path 2 node).bind fun content =>
        Head.lists_listEnd path tag attributes content rest

theorem Head.lists_listAttributes (path : FieldPath) (tag : Text) (items : Items) :
    (Head.listAttributes path tag items).Lists path.IsBelow := by
  cases items with
  | close _ => exact lists_fail _
  | cut _ _ => exact lists_fail _
  | item node _ rest =>
      rw [Head.listAttributes]
      exact (Decoder.listsBelow_text.entries.at_element path 1 node).bind fun attributes =>
        Head.lists_listContent path tag attributes rest

theorem Head.lists_ofList (path : FieldPath) (items : Items) :
    (Head.ofList path items).Lists path.IsBelow := by
  cases items with
  | close _ => exact lists_fail _
  | cut _ _ => exact lists_fail _
  | item node _ rest =>
      rw [Head.ofList]
      exact (Decoder.listsBelow_text.at_element path 0 node).bind fun tag =>
        Head.lists_listAttributes path tag rest

theorem HeadTable.listsBelow : ∀ slot ∈ HeadTable.shape.fields, slot.read.ListsBelow := by
  refine List.forall_mem_cons.mpr ⟨listsBelow_text, ?_⟩
  refine List.forall_mem_cons.mpr ⟨Slot.listsBelow_of Decoder.listsBelow_text.entries, ?_⟩
  exact List.forall_mem_singleton.mpr listsBelow_text

theorem Head.listsBelow : Head.decode.ListsBelow := by
  intro path node
  cases node with
  | list _ items => exact Head.lists_ofList path items
  | table _ members =>
      exact (Shape.lists_ofMembers HeadTable.listsBelow path [] HeadTable.shape.blank members).map _
  | _ => exact lists_fail _

theorem listsBelow_sidebar : sidebarDecode.ListsBelow := by
  intro path node
  cases node with
  | list opening items => exact (Group.listsBelow.list path (.list opening items)).map _
  | table opening members => exact Group.listsBelow.list.entries path (.table opening members)
  | _ => exact lists_fail _

theorem Theme.listsBelow : Theme.shape.decode.ListsBelow := by
  refine Shape.listsBelow (List.forall_mem_cons.mpr ⟨listsBelow_text, ?_⟩)
  refine List.forall_mem_cons.mpr ⟨listsBelow_field Nav.listsBelow.list, ?_⟩
  refine List.forall_mem_cons.mpr ⟨listsBelow_field listsBelow_sidebar, ?_⟩
  refine List.forall_mem_cons.mpr ⟨listsBelow_field Social.listsBelow.list, ?_⟩
  refine List.forall_mem_cons.mpr ⟨listsBelow_field Footer.listsBelow, ?_⟩
  exact List.forall_mem_singleton.mpr (listsBelow_field Edit.listsBelow)

theorem listsBelow : shape.decode.ListsBelow := by
  refine Shape.listsBelow (List.forall_mem_cons.mpr ⟨listsBelow_text, ?_⟩)
  refine List.forall_mem_cons.mpr ⟨listsBelow_text, ?_⟩
  refine List.forall_mem_cons.mpr ⟨listsBelow_text, ?_⟩
  refine List.forall_mem_cons.mpr ⟨listsBelow_text, ?_⟩
  refine List.forall_mem_cons.mpr ⟨listsBelow_flag, ?_⟩
  refine List.forall_mem_cons.mpr ⟨listsBelow_flag, ?_⟩
  refine List.forall_mem_cons.mpr ⟨listsBelow_field Head.listsBelow.list, ?_⟩
  exact List.forall_mem_singleton.mpr (listsBelow_field Theme.listsBelow)

/-! ## The whole draft -/

theorem exists_root {format : Format} {content : Text} {r : Draft × List FieldPath}
    (hread : Draft.read format content = .ok r) : ∃ root, format.root? content = some root := by
  cases format with
  | json => exact ⟨_, rfl⟩
  | toml =>
      cases hfound : Toml.read? content with
      | some root => exact ⟨root, hfound⟩
      | none =>
          rw [Draft.read, Toml.decode, hfound] at hread
          cases hread

/-- Every unknown key that is listed is reached from the root by members and elements. -/
theorem exists_way {format : Format} {content : Text} {draft : Draft} {ignored : List FieldPath}
    (hread : Draft.read format content = .ok (draft, ignored)) :
    ∀ p ∈ ignored, ∃ way, p = FieldPath.along way := by
  obtain ⟨root, hroot⟩ := exists_root hread
  exact listsBelow [] root _ _ (decode_root hread hroot)

end Draft

/-- The text of a path shows exactly the members and elements on the way to its place: two ways have
one text if and only if they agree in those. And the path of an unknown key in a config of either
format is the path of a way. -/
theorem FieldPath.texts_tell_ways :
    (∀ way way' : List Descent,
      (FieldPath.along way).render = (FieldPath.along way').render ↔
        way.filter Descent.IsShown = way'.filter Descent.IsShown) ∧
      ∀ (format : Format) (content : Text) (draft : Draft) (ignored : List FieldPath),
        Draft.read format content = .ok (draft, ignored) →
          ∀ p ∈ ignored, ∃ way, p = FieldPath.along way :=
  ⟨fun _ _ => FieldPath.render_along_eq_iff, fun _ _ _ _ => Draft.exists_way⟩

/-- Two unknown keys: one has a dot where the path of the other has one. -/
def Draft.dottedKeys : Value :=
  .table [("themeConfig.navv".toList, .null),
    ("themeConfig".toList, .table [("navv".toList, .null)])]

theorem Draft.read_dottedKeys : Draft.read .json (Json.compact dottedKeys) =
    .ok ({ theme := some {} }, [[.key "themeConfig.navv".toList],
      [.field "themeConfig".toList, .field "navv".toList]]) := rfl

/-- Their texts differ. -/
theorem FieldPath.texts_tell_ways_dotted :
    Draft.read .json (Json.compact Draft.dottedKeys) = .ok ({ theme := some {} },
        [[.key "themeConfig.navv".toList], [.field "themeConfig".toList, .field "navv".toList]]) ∧
      (∃ way, [.key "themeConfig.navv".toList] = FieldPath.along way) ∧
      (FieldPath.along [.member "themeConfig.navv".toList]).render ≠
        (FieldPath.along
          [.member "themeConfig".toList, .present, .member "navv".toList]).render := by
  refine ⟨Draft.read_dottedKeys, ?_, fun h => ?_⟩
  · exact texts_tell_ways.2 _ _ _ _ Draft.read_dottedKeys _ List.mem_cons_self
  · exact absurd ((texts_tell_ways.1 _ _).mp h) (by decide)

end Signpost
