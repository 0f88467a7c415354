import Signpost.Proofs.Document.Passing
import Signpost.Proofs.Json.Soundness
import Signpost.Proofs.Json.Spelling
import Signpost.Site.Source

/-!
# Unknown keys of a draft

A member that no part of a draft has a field for is passed over, with whatever stands in it: the
draft is the same without it, and its path is listed once, at its place in the text.
-/

namespace Signpost.Draft

open Document

/-! ## What the parts of a draft are read as -/

def Nav.role : Role := .record
  [("text".toList, .whole), ("link".toList, .whole), ("activeMatch".toList, .whole)]

def Group.role : Role := .record
  [("text".toList, .whole), ("items".toList, .list Nav.role), ("collapsed".toList, .whole)]

def Social.role : Role := .record
  [("icon".toList, .whole), ("link".toList, .whole), ("ariaLabel".toList, .whole)]

def Footer.role : Role := .record [("message".toList, .whole), ("copyright".toList, .whole)]

def Edit.role : Role := .record [("pattern".toList, .whole), ("text".toList, .whole)]

/-- A sidebar has any keys; a bare list of groups may stand in its place. -/
def sidebarRole : Role := .entries (.list Group.role)

def Theme.role : Role := .record
  [("logo".toList, .whole), ("nav".toList, .list Nav.role), ("sidebar".toList, sidebarRole),
    ("socialLinks".toList, .list Social.role), ("footer".toList, Footer.role),
    ("editLink".toList, Edit.role)]

/-- A head tag with an unknown key is refused, so no key of it is passed over. -/
def role : Role := .record
  [("lang".toList, .whole), ("title".toList, .whole), ("description".toList, .whole),
    ("base".toList, .whole), ("lastUpdated".toList, .whole), ("cleanUrls".toList, .whole),
    ("head".toList, .whole), ("themeConfig".toList, Theme.role)]

/-! ## Each part is read as its role -/

theorem readsAs_field {ρ α : Type} {name : String} {value : Decoder α} {set : Option α → ρ → ρ}
    {r : Role} (h : value.Reads r) : (optionalField name value set).ReadsAs (name.toList, r) where
  name := rfl
  reads := (Decoder.reads_optional h).map set

theorem readsAs_text {ρ : Type} {name : String} {set : Option Text → ρ → ρ} :
    (optionalField name Decoder.text set).ReadsAs (name.toList, .whole) :=
  readsAs_field Decoder.reads_text

theorem readsAs_flag {ρ : Type} {name : String} {set : Option Bool → ρ → ρ} :
    (optionalField name Decoder.flag set).ReadsAs (name.toList, .whole) :=
  readsAs_field Decoder.reads_flag

theorem reads_listOf {α : Type} {value : Decoder α} {r : Role} (h : value.Reads r) :
    (Decoder.list value).Reads (.list r) :=
  Decoder.reads_list fun _ => h

theorem Nav.reads : Nav.shape.decode.Reads Nav.role := by
  refine (Shape.fits_record (List.cons_ne_nil _ _) rfl ?_).reads
  exact .cons readsAs_text (.cons readsAs_text (.cons readsAs_text .nil))

theorem Group.reads : Group.shape.decode.Reads Group.role := by
  refine (Shape.fits_record (List.cons_ne_nil _ _) rfl ?_).reads
  refine .cons readsAs_text (.cons (readsAs_field (reads_listOf Nav.reads)) ?_)
  exact .cons readsAs_flag .nil

theorem Social.reads : Social.shape.decode.Reads Social.role := by
  refine (Shape.fits_record (List.cons_ne_nil _ _) rfl ?_).reads
  exact .cons readsAs_text (.cons readsAs_text (.cons readsAs_text .nil))

theorem Footer.reads : Footer.shape.decode.Reads Footer.role := by
  refine (Shape.fits_record (List.cons_ne_nil _ _) rfl ?_).reads
  exact .cons readsAs_text (.cons readsAs_text .nil)

theorem Edit.reads : Edit.shape.decode.Reads Edit.role := by
  refine (Shape.fits_record (List.cons_ne_nil _ _) rfl ?_).reads
  exact .cons readsAs_text (.cons readsAs_text .nil)

/-- The list form of a sidebar, filed under its one key. -/
theorem sidebarList_reads : Decoder.Reads (fun path node => do
    let groups ← Decoder.list Group.shape.decode path node
    return [(rootKey, groups)]) sidebarRole :=
  (Decoder.reads_list fun _ => Group.reads).map _

theorem sidebarTable_reads :
    (Decoder.entries (Decoder.list Group.shape.decode)).Reads sidebarRole :=
  Decoder.reads_entries fun _ => ⟨.list Group.role, rfl, reads_listOf Group.reads⟩

theorem sidebar_reads : sidebarDecode.Reads sidebarRole where
  whole {path node r} hcoherent hok := by
    cases node with
    | list opening items => exact sidebarList_reads.whole hcoherent hok
    | table opening members => exact sidebarTable_reads.whole hcoherent hok
    | _ => cases hok
  follows {path tree tree' node node' a ignored} hext hnode hnode' hok := by
    cases hnode with
    | list opening inside =>
        cases hext with
        | list hext =>
          cases hnode' with
          | list opening' inside' =>
            exact sidebarList_reads.follows (.list hext) (.list opening inside)
              (.list opening' inside') hok
    | table opening inside =>
        cases hext with
        | table hext =>
          cases hnode' with
          | table opening' inside' =>
            exact sidebarTable_reads.follows (.table hext) (.table opening inside)
              (.table opening' inside') hok
    | _ => cases hok

theorem textEntries_reads : (Decoder.entries Decoder.text).Reads .whole :=
  Decoder.reads_entries fun _ => ⟨.whole, rfl, Decoder.reads_text⟩

theorem HeadTable.fits : HeadTable.shape.Fits .whole := by
  refine Shape.fits_whole (List.cons_ne_nil _ _) rfl ?_
  refine List.forall_mem_cons.mpr ⟨readsAs_text.reads, ?_⟩
  refine List.forall_mem_cons.mpr ⟨textEntries_reads.map _, ?_⟩
  exact List.forall_mem_singleton.mpr readsAs_text.reads

theorem Head.listEnd_item_ne_ok {path : FieldPath} {tag content : Text}
    {attributes : Entries Text} {node : Node} {follow : Follow} {rest : Items}
    {r : Head × List FieldPath} :
    Head.listEnd path tag attributes content (.item node follow rest) ≠ Except.ok r := by
  intro hok
  rw [Head.listEnd] at hok
  split at hok
  · cases hok
  · obtain ⟨_, _, _, -, hfail, -⟩ := Decoded.bind_eq_ok.mp hok
    cases hfail

theorem Head.listEnd_reads (path : FieldPath) (tag : Text) (attributes : Entries Text)
    (content : Text) : ReadsItems (Head.listEnd path tag attributes content) .whole path 3 where
  whole {items r} _ hok := by
    cases items with
    | close _ => rfl
    | cut _ _ => cases hok
    | item node follow rest => exact absurd hok Head.listEnd_item_ne_ok
  follows {trees trees' items items' a ignored} hext hitems hitems' hok := by
    cases hitems with
    | close _ =>
        cases hext
        cases hitems'
        obtain ⟨rfl, -⟩ := Prod.mk.inj (Except.ok.inj hok)
        rfl
    | item _ _ _ => exact absurd hok Head.listEnd_item_ne_ok

theorem Head.listContent_reads (path : FieldPath) (tag : Text) (attributes : Entries Text) :
    ReadsItems (Head.listContent path tag attributes) .whole path 2 := by
  refine ReadsItems.item Decoder.reads_text (Head.listEnd_reads path tag attributes) ?_
    nofun rfl
  rintro after after' _ ⟨⟩
  exact ⟨rfl, rfl⟩

theorem Head.listAttributes_reads (path : FieldPath) (tag : Text) :
    ReadsItems (Head.listAttributes path tag) .whole path 1 :=
  .item textEntries_reads (Head.listContent_reads path tag) nofun nofun rfl

theorem Head.ofList_reads (path : FieldPath) : ReadsItems (Head.ofList path) .whole path 0 :=
  .item Decoder.reads_text (Head.listAttributes_reads path) nofun nofun rfl

theorem Head.reads : Head.decode.Reads .whole where
  whole {path node r} hcoherent hok := by
    cases node with
    | list opening items => exact (Head.ofList_reads path).whole hcoherent hok
    | table opening members =>
        obtain ⟨t, htable, -⟩ := Decoded.map_eq_ok.mp hok
        exact Shape.ofMembers_whole HeadTable.fits hcoherent htable
    | _ => cases hok
  follows {path tree tree' node node' a ignored} hext hnode hnode' hok := by
    cases hnode with
    | list opening inside =>
        cases hext with
        | list hext =>
          cases hnode' with
          | list opening' inside' => exact (Head.ofList_reads path).follows hext inside inside' hok
    | table opening inside =>
        cases hext with
        | table hext =>
          cases hnode' with
          | table opening' inside' =>
            obtain ⟨t, htable, rfl⟩ := Decoded.map_eq_ok.mp hok
            exact Decoded.map_eq_ok.mpr
              ⟨t, Shape.ofMembers_follows HeadTable.fits hext inside inside' htable, rfl⟩
    | _ => cases hok

theorem Theme.reads : Theme.shape.decode.Reads Theme.role := by
  refine (Shape.fits_record (List.cons_ne_nil _ _) rfl ?_).reads
  refine .cons readsAs_text ?_
  refine .cons (readsAs_field (reads_listOf Nav.reads)) ?_
  refine .cons (readsAs_field sidebar_reads) ?_
  refine .cons (readsAs_field (reads_listOf Social.reads)) ?_
  exact .cons (readsAs_field Footer.reads) (.cons (readsAs_field Edit.reads) .nil)

theorem reads : shape.decode.Reads role := by
  refine (Shape.fits_record (List.cons_ne_nil _ _) rfl ?_).reads
  refine .cons readsAs_text (.cons readsAs_text (.cons readsAs_text (.cons readsAs_text ?_)))
  refine .cons readsAs_flag (.cons readsAs_flag ?_)
  refine .cons (readsAs_field (Decoder.reads_list fun _ => Head.reads)) ?_
  exact .cons (readsAs_field Theme.reads) .nil

end Signpost.Draft

namespace Signpost.Json

open Document

variable {α : Type} {value : Decoder α} {role : Role} {t t' : Text}

/-- Only JSON is decoded. -/
theorem exists_isText_of_decode (h : value.Reads role) {r : α × List FieldPath}
    (hok : decode value t = .ok r) : ∃ tree, IsText tree t := by
  obtain ⟨node, hread, hvalue⟩ := decode_eq_ok.mp hok
  have hcoherent := coherent_read t
  rw [hread] at hcoherent
  exact isText_of_read hread (h.whole hcoherent hvalue)

/-- A text with more unknown members is decoded as the same value, whatever its layout. -/
theorem decode_extends (h : value.Reads role) {tree tree' : Tree} {a : α} {ignored : List FieldPath}
    (hext : tree.Extends role tree') (ht : IsText tree t) (ht' : IsText tree' t')
    (hok : decode value t = .ok (a, ignored)) :
    decode value t' = .ok (a, tree'.unknown role []) := by
  obtain ⟨node, hnode, hdecode⟩ := ht.exists_node
  obtain ⟨node', hnode', hdecode'⟩ := ht'.exists_node
  exact hdecode'.mpr (h.follows hext hnode hnode' (hdecode.mp hok))

end Signpost.Json

namespace Signpost

open Document

theorem Draft.read_json_eq_ok {t : Text} {r : Draft × List FieldPath} :
    Draft.read .json t = .ok r ↔ Json.decode Draft.shape.decode t = .ok r := by
  rw [Draft.read]
  cases Json.decode Draft.shape.decode t with
  | error e => exact ⟨nofun, nofun⟩
  | ok found => exact ⟨fun h => congrArg _ (Except.ok.inj h), fun h => congrArg _ (Except.ok.inj h)⟩

/-- Every JSON text that is accepted is one of some tree, and the unknown keys listed are those of
the tree, in source order. None is listed exactly when no unknown member was put in. Putting one
more unknown member into the tree, whatever its value and its layout, leaves the draft as it is and
adds the path of the member, once and at its place. -/
theorem Draft.read_json_inserted {t : Text} {d : Draft} {ignored : List FieldPath}
    (h : Draft.read .json t = .ok (d, ignored)) :
    (∃ tree, Json.IsText tree t) ∧ ∀ tree, Json.IsText tree t →
      ignored = tree.unknown Draft.role [] ∧
      (ignored = [] ↔ ¬∃ tree₀ p, Tree.Inserted Draft.role [] tree₀ p tree) ∧
      ∀ p tree' t', Tree.Inserted Draft.role [] tree p tree' → Json.IsText tree' t' →
        Draft.read .json t' = .ok (d, tree'.unknown Draft.role []) ∧
        ∃ before after, ignored = before ++ after ∧
          tree'.unknown Draft.role [] = before ++ p :: after := by
  have hok := Draft.read_json_eq_ok.mp h
  refine ⟨Json.exists_isText_of_decode Draft.reads hok, fun tree ht => ?_⟩
  have hself := Json.decode_extends Draft.reads (.refl _ tree) ht ht hok
  obtain ⟨-, rfl⟩ := Prod.mk.inj (Except.ok.inj (hok.symm.trans hself))
  refine ⟨rfl, Tree.unknown_eq_nil, fun p tree' t' inside ht' => ⟨?_, inside.unknown⟩⟩
  exact Draft.read_json_eq_ok.mpr (Json.decode_extends Draft.reads inside.extends ht ht' hok)

/-- A config whose sidebar is a bare list of one group with the members. -/
def Draft.groupValue (members : List (Text × Value)) : Value :=
  .table [("themeConfig".toList, .table [("sidebar".toList, .list [.table members])])]

/-- The path of a member of that group. -/
def Draft.groupPath (name : String) : FieldPath :=
  [.field "themeConfig".toList, .field "sidebar".toList, .index 0, .field name.toList]

/-- In a group of a bare list one unknown key stands; another one with a table for its value is
put in front of it. -/
theorem Draft.read_json_inserted_group :
    Draft.read .json (Json.compact (groupValue [("colapsed".toList, .flag true)])) =
        .ok ({ theme := some { sidebar := some [(rootKey, [{}])] } }, [groupPath "colapsed"]) ∧
      Draft.read .json (Json.pretty 0 (groupValue
          [("lnk".toList, .table [("x".toList, .null)]), ("colapsed".toList, .flag true)])) =
        .ok ({ theme := some { sidebar := some [(rootKey, [{}])] } },
          [groupPath "lnk", groupPath "colapsed"]) := by
  have hbare := (Json.spells_compact (groupValue [("colapsed".toList, .flag true)])).isText
    Json.gap_nil Json.gap_nil
  have hextended := (Json.spells_pretty 0 (groupValue
    [("lnk".toList, .table [("x".toList, .null)]), ("colapsed".toList, .flag true)])).isText
    Json.gap_nil Json.gap_nil
  rw [List.append_nil, List.nil_append] at hbare hextended
  refine ⟨rfl, ((Draft.read_json_inserted rfl).2 _ hbare).2.2 (groupPath "lnk") _ _ ?_ hextended
    |>.1⟩
  refine @Tree.Inserted.member _ Theme.role _ _ [] [] _ _ _ rfl ?_
  refine @Tree.Inserted.member _ sidebarRole _ _ [] [] _ _ _ rfl ?_
  refine @Tree.Inserted.element _ _ _ [] [] _ _ ?_
  exact @Tree.Inserted.here Group.role _ [] _ "lnk".toList _ rfl

end Signpost
