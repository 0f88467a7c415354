import Mathlib.Data.List.Forall2
import Signpost.Proofs.Document.Taking
import Signpost.Proofs.Toml.Assembly
import Signpost.Toml.Decode

/-!
# What a written document shows

A document cannot put a plain value behind a table, so the members of a table come back in another
order: first the plain ones, then the tables, each of the two classes in its own order. Nothing else
changes. The order of the fields of a record does not matter to its decoder; the order of a map does.
-/

namespace Signpost.Toml

open Document

/-! ## The order of members -/

mutual

/-- A value as it comes back from a document. -/
def arranged : Value → Value
  | .table members => .table (members.filter (isPlainValue ·.2) ++ arrangedTables members)
  | .list items => if isRows (.list items) then .list (arrangedRows items) else .list items
  | v => v

/-- The members of a table that are tables themselves. -/
def arrangedTables : List (Text × Value) → List (Text × Value)
  | [] => []
  | (k, v) :: rest =>
    if isPlainValue v then arrangedTables rest else (k, arranged v) :: arrangedTables rest

/-- The tables of a list. -/
def arrangedRows : List Value → List Value
  | [] => []
  | v :: rest => arranged v :: arrangedRows rest

end

/-- A member as it comes back, wherever it stands. -/
def arrangedMember (m : Text × Value) : Text × Value := (m.1, arranged m.2)

theorem arranged_of_plain {v : Value} (h : isPlainValue v = true) : arranged v = v := by
  cases v with
  | null => rfl
  | flag b => rfl
  | text t => rfl
  | list items =>
      rw [isPlainValue, Bool.and_eq_true, Bool.not_eq_true', Bool.not_eq_true'] at h
      · rw [arranged, h.2]
        rfl
      · exact nofun
  | table members => exact nomatch h

theorem arrangedTables_eq (members : List (Text × Value)) :
    arrangedTables members = (members.filter (!isPlainValue ·.2)).map arrangedMember := by
  induction members with
  | nil => rfl
  | cons m rest ih =>
      rw [arrangedTables, List.filter_cons, ih]
      cases isPlainValue m.2 <;> rfl

theorem arrangedRows_eq (items : List Value) : arrangedRows items = items.map arranged := by
  induction items with
  | nil => rfl
  | cons v rest ih => rw [arrangedRows, List.map_cons, ih]

/-- The plain members come first, then the tables, each as it comes back. -/
theorem arranged_members (members : List (Text × Value)) :
    members.filter (isPlainValue ·.2) ++ arrangedTables members =
      (members.filter (isPlainValue ·.2) ++ members.filter (!isPlainValue ·.2)).map
        arrangedMember := by
  have hplain : (members.filter (isPlainValue ·.2)).map arrangedMember =
      members.filter (isPlainValue ·.2) := by
    rw [List.map_congr_left (g := id), List.map_id]
    intro m hmem
    exact congrArg (Prod.mk m.1) (arranged_of_plain (List.mem_filter.mp hmem).2)
  rw [List.map_append, hplain, arrangedTables_eq]

theorem perm_arranged (members : List (Text × Value)) :
    (members.map arrangedMember).Perm
      (members.filter (isPlainValue ·.2) ++ arrangedTables members) := by
  rw [arranged_members]
  exact (List.filter_append_perm _ members).symm.map arrangedMember

theorem arranged_list {items : List Value} (h : items.all isTable) :
    arranged (.list items) = .list (items.map arranged) := by
  cases items with
  | nil => rfl
  | cons v rest =>
      rw [arranged, if_pos, arrangedRows_eq]
      rwa [isRows, ← List.all_cons]

/-- Members without tables among them come back in their order. -/
theorem arranged_table_of_plain {members : List (Text × Value)}
    (h : ∀ m ∈ members, isPlainValue m.2 = true) : arranged (.table members) = .table members := by
  have hnone : members.filter (!isPlainValue ·.2) = [] :=
    List.filter_eq_nil_iff.mpr fun m hmem => by simp [h m hmem]
  rw [arranged, arrangedTables_eq, hnone, List.filter_eq_self.mpr h]
  exact congrArg Value.table (List.append_nil members)

/-! ## What is read -/

/-- A cell shows a member. -/
def CellShows (c : Text × Cell) (m : Text × Value) : Prop := c.1 = m.1 ∧ c.2.toNode.Shows m.2

theorem membersOf_shows {cells : Cells} {members : List (Text × Value)}
    (h : List.Forall₂ CellShows cells members) : (membersOf cells).Shows members := by
  induction h with
  | nil => exact .close _
  | @cons c m _ _ first _ ih =>
      obtain ⟨key, cell⟩ := c
      obtain ⟨key', v⟩ := m
      obtain ⟨rfl, hvalue⟩ := first
      exact .member _ _ hvalue ih

theorem lineNode_shows {v : Value} (h : Plain v) : (lineNode v).Shows v := by
  cases h with
  | flag b => exact .flag b _
  | text t => exact .text t _
  | noItems => exact .list _ (.close _)

theorem lineCells_show {room : Nat} {members : List (Text × Value)}
    (hfit : MembersFit room members) :
    List.Forall₂ CellShows (lineCells members) (members.filter (isPlainValue ·.2)) := by
  induction members with
  | nil => exact .nil
  | cons m rest ih =>
      rw [lineCells_cons, List.filter_cons]
      split
      · rename_i hplain
        exact .cons ⟨rfl, lineNode_shows (hfit.2.1.plain hplain)⟩ (ih hfit.2.2)
      · exact ih hfit.2.2

mutual

theorem innerCells_show (members : List (Text × Value)) {room : Nat}
    (hfit : MembersFit room members) :
    List.Forall₂ CellShows (innerCells members) (arrangedTables members) := by
  match members, hfit with
  | [], _ => exact .nil
  | (k, v) :: rest, hfit =>
      have hfirst := memberCells_show k v hfit.2.1
      have hrest := innerCells_show rest hfit.2.2
      rw [innerCells, arrangedTables]
      split at hfirst
      · rw [if_pos ‹_›, List.forall₂_nil_right_iff.mp hfirst]
        exact hrest
      · rw [if_neg ‹_›]
        exact List.rel_append hfirst hrest

theorem memberCells_show (k : Text) (v : Value) {room : Nat} (hfit : Fits room v) :
    List.Forall₂ CellShows (memberCells k v)
      (if isPlainValue v then [] else [(k, arranged v)]) := by
  match room, v, hfit with
  | _, .flag _, _ => exact .nil
  | _, .text _, _ => exact .nil
  | _, .list [], _ => exact .nil
  | room + 1, .list (v :: rest), hfit =>
      have hrows : isRows (.list (v :: rest)) = true := RowsFit.isRows hfit
      have hplain : ¬isPlainValue (.list (v :: rest)) = true := by simp [isPlainValue, hrows]
      rw [memberCells, if_pos hrows, if_neg hplain, arranged, if_pos hrows]
      exact .cons ⟨rfl, .list _ (rowCells_show (v :: rest) hfit)⟩ .nil
  | room + 1, .table members, hfit =>
      have hinside := List.rel_append (lineCells_show hfit) (innerCells_show members hfit)
      have hplain : ¬isPlainValue (.table members) = true := Bool.false_ne_true
      rw [memberCells, if_neg hplain, arranged]
      exact .cons ⟨rfl, .table _ (membersOf_shows hinside)⟩ .nil

theorem rowCells_show (items : List Value) {room : Nat} (hfit : RowsFit room items) :
    (itemsOf (rowCells items)).Shows (arrangedRows items) := by
  match items, hfit with
  | [], _ => exact .close _
  | .table members :: rest, hfit =>
      have hinside := List.rel_append (lineCells_show hfit.1) (innerCells_show members hfit.1)
      rw [rowCells, itemsOf, arrangedRows, arranged]
      exact .item _ (.table _ (membersOf_shows hinside)) (rowCells_show rest hfit.2)

end

/-! ## What is taken back -/

/-- The value fits its place in a document, and what comes back for it is taken as `a`. -/
structure Carries {α : Type} (room : Nat) (decoder : Decoder α) (v : Value) (a : α) : Prop where
  fits : Fits room v
  taken : decoder.Takes (arranged v) a

theorem rowsFit_map {α : Type} {room : Nat} {write : α → Value} {items : List α}
    (htable : ∀ a, isTable (write a) = true) (hfit : ∀ a ∈ items, Fits (room + 1) (write a)) :
    RowsFit room (items.map write) := by
  induction items with
  | nil => trivial
  | cons a rest ih =>
      obtain ⟨hfirst, hrest⟩ := List.forall_mem_cons.mp hfit
      rw [List.map_cons]
      match write a, htable a, hfirst with
      | .table _, _, hfirst => exact ⟨hfirst, ih hrest⟩

theorem carries_list {α β : Type} {room : Nat} {decoder : Decoder α} {write : β → Value}
    {f : β → α} {items : List β} (htable : ∀ b, isTable (write b) = true)
    (h : ∀ b ∈ items, Carries (room + 1) decoder (write b) (f b)) :
    Carries (room + 1) (Decoder.list decoder) (.list (items.map write)) (items.map f) where
  fits := by
    have hfit := rowsFit_map htable fun b hmem => (h b hmem).fits
    cases items with
    | nil => trivial
    | cons b rest => exact hfit
  taken := by
    have htables : (items.map write).all isTable :=
      List.all_eq_true.mpr (List.forall_mem_map.mpr fun b _ => htable b)
    rw [arranged_list htables]
    refine Decoder.takes_list ?_
    rw [List.map_map, List.forall₂_map_left_iff, List.forall₂_map_right_iff, List.forall₂_same]
    exact fun b hmem => (h b hmem).taken

section Records

variable {ρ : Type} {room : Nat} {shape : Shape ρ} {record : ρ} {members : List (Text × Value)}

theorem fills_arranged (hcomm : shape.fields.Pairwise Slot.Commutes)
    (h : shape.Fills [] shape.blank (members.map arrangedMember) record) :
    shape.Fills [] shape.blank (members.filter (isPlainValue ·.2) ++ arrangedTables members)
      record :=
  h.perm hcomm (perm_arranged members)

theorem membersFit_of_fills (h : shape.Fills [] shape.blank (members.map arrangedMember) record)
    (hfit : ∀ m ∈ members, Fits room m.2) : MembersFit room members := by
  refine membersFit_iff.mpr ⟨?_, hfit⟩
  have hnodup := h.nodup
  rwa [List.map_map] at hnodup

/-- A record is taken back whatever the order of its members. -/
theorem carries_record (hcomm : shape.fields.Pairwise Slot.Commutes)
    (h : shape.Fills [] shape.blank (members.map arrangedMember) record)
    (hfit : ∀ m ∈ members, Fits room m.2) :
    Carries (room + 1) shape.decode (.table members) record where
  fits := membersFit_of_fills h hfit
  taken := by
    rw [arranged]
    exact (fills_arranged hcomm h).takes

end Records

/-- What a table carries is taken from the document that the table is written as. -/
theorem decode_write {α : Type} {decoder : Decoder α} {a : α} {room : Nat}
    {members : List (Text × Value)} (hroom : room < depthLimit)
    (h : Carries (room + 1) decoder (.table members) a) :
    decode decoder (write (.table members)) = .ok (a, []) := by
  have hfit : MembersFit room members := h.fits
  have hinside := List.rel_append (lineCells_show hfit) (innerCells_show members hfit)
  have hshows : Node.Shows (.table .nowhere (membersOf (lineCells members ++ innerCells members)))
      (arranged (.table members)) := by
    rw [arranged]
    exact .table _ (membersOf_shows hinside)
  rw [decode, read?_write_eq_some hroom hfit]
  dsimp only
  rw [h.taken.reads [] _ hshows]
  rfl

end Signpost.Toml
