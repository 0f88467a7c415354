import Mathlib.Data.List.Nodup
import Signpost.Proofs.Toml.Lines

/-!
# Assembling written tables

The parts of a document are added one after another. Adding the parts of a table to cells that hold
none of its keys appends one cell for each table inside it, so the assembled document holds what was
written: below each table its plain values first, then the tables inside it.
-/

namespace Signpost.Toml

open Document

/-! ## Cells by key -/

namespace Cells

variable {cells : Cells} {key : Text}

/-- The cells hold nothing under the key. -/
def Lacks (cells : Cells) (key : Text) : Prop := key ∉ cells.map Prod.fst

theorem Lacks.cell? (h : cells.Lacks key) : cells.cell? key = none := by
  rw [Cells.cell?, Option.map_eq_none_iff, List.find?_eq_none]
  intro entry hmem heq
  exact h (List.mem_map.mpr ⟨entry, hmem, by simpa using heq⟩)

theorem Lacks.cell?_append (h : cells.Lacks key) (cell : Cell) :
    Cells.cell? (cells ++ [(key, cell)]) key = some cell := by
  have hnone := h.cell?
  rw [Cells.cell?, Option.map_eq_none_iff] at hnone
  rw [Cells.cell?, List.find?_append, hnone]
  simp

theorem Lacks.set (h : cells.Lacks key) (cell : Cell) : Cells.set cells key cell = cells := by
  induction cells with
  | nil => rfl
  | cons entry rest ih =>
      obtain ⟨hne, hrest⟩ := List.ne_and_not_mem_of_not_mem_cons h
      rw [Cells.set, List.map_cons]
      dsimp only
      rw [if_neg (Ne.symm hne)]
      exact congrArg _ (ih hrest)

theorem Lacks.set_append (h : cells.Lacks key) (cell cell' : Cell) :
    Cells.set (cells ++ [(key, cell)]) key cell' = cells ++ [(key, cell')] := by
  have hset := h.set cell'
  rw [Cells.set] at hset ⊢
  rw [List.map_append, hset]
  simp

theorem Lacks.without (h : cells.Lacks key) : Cells.without cells key = cells := by
  rw [Cells.without, List.filter_eq_self]
  intro entry hmem
  rw [bne_iff_ne]
  rintro rfl
  exact h (List.mem_map_of_mem hmem)

theorem Lacks.append {others : Cells} (h : cells.Lacks key) (h' : others.Lacks key) :
    Lacks (cells ++ others) key := by
  rw [Lacks, List.map_append, List.mem_append, not_or]
  exact ⟨h, h'⟩

theorem lacks_singleton {other : Text} {cell : Cell} (h : key ≠ other) :
    Lacks [(other, cell)] key := by
  rw [Lacks, List.map_singleton, List.mem_singleton]
  exact h

end Cells

/-! ## Values -/

/-- The cells of the plain values of a table. -/
def lineCells (members : List (Text × Value)) : Cells :=
  (members.filter (isPlainValue ·.2)).map fun (k, v) => (k, .value (lineNode v))

theorem lineCells_cons (k : Text) (v : Value) (rest : List (Text × Value)) :
    lineCells ((k, v) :: rest) =
      (if isPlainValue v then [(k, .value (lineNode v))] else []) ++ lineCells rest := by
  rw [lineCells, List.filter_cons]
  split <;> rfl

theorem addValue_nil {cells : Cells} {key : Text} (h : cells.Lacks key) (node : Node) :
    Cells.addValue [] key node cells = some (cells ++ [(key, .value node)]) := by
  rw [Cells.addValue, Cells.update, h.cell?]
  rfl

/-- The values of a table are added behind the cells that are there. -/
theorem addValues_linePairs {room : Nat} {members : List (Text × Value)} {cells : Cells}
    (hfit : MembersFit room members) (hfresh : ∀ k ∈ members.map Prod.fst, cells.Lacks k) :
    Cells.addValues (linePairs members) cells = some (cells ++ lineCells members) := by
  induction members generalizing cells with
  | nil => exact congrArg some (List.append_nil cells).symm
  | cons m rest ih =>
      obtain ⟨k, v⟩ := m
      obtain ⟨hk, hv, hrest⟩ := hfit
      obtain ⟨hlacks, hothers⟩ := List.forall_mem_cons.mp hfresh
      rw [linePairs_cons, lineCells_cons]
      split
      · have hmore : ∀ k' ∈ rest.map Prod.fst, Cells.Lacks (cells ++ [(k, .value (lineNode v))]) k' := by
          intro k' hmem
          refine (hothers k' hmem).append (Cells.lacks_singleton ?_)
          rintro rfl
          exact hk hmem
        rw [Cells.addValues, List.singleton_append, List.foldlM_cons]
        dsimp only
        rw [addValue_nil hlacks, ← List.append_assoc]
        exact ih hrest hmore
      · exact ih hrest hothers

/-! ## Parts below a key -/

/-- What a part does to the table that its path leads to. -/
def Part.change (part : Part) (parent : Cells) : Option Cells :=
  { part with path := [] : Part }.add parent

theorem update_origin (change : Cells → Option Cells) (path : List Text) (origin origin' : Origin)
    (cells : Cells) :
    Cells.update false (fun _ => change) path origin cells =
      Cells.update false (fun _ => change) path origin' cells := by
  cases path with
  | nil => rfl
  | cons k path => rw [Cells.update, Cells.update]

theorem Part.add_eq (part : Part) (cells : Cells) :
    part.add cells = Cells.update false (fun _ => part.change) part.path .defined cells := by
  obtain ⟨row, path, key, pairs⟩ := part
  cases row <;> rfl

section Under

variable {cells : Cells} {k : Text} (h : cells.Lacks k) (part : Part)
include h

/-- A part below a key changes the table of the key. -/
theorem Part.add_under_table (origin : Origin) (inner : Cells) :
    (part.under k).add (cells ++ [(k, .table origin inner)]) =
      (part.add inner).map fun inner => cells ++ [(k, .table origin inner)] := by
  rw [Part.add_eq, Part.add_eq, update_origin _ part.path .defined origin]
  show Cells.update false (fun _ => part.change) (k :: part.path) .defined _ = _
  rw [Cells.update, h.cell?_append]
  simp only [h.set_append]
  cases Cells.update false (fun _ => part.change) part.path origin inner <;> rfl

/-- A part below the key of a list of tables changes the last of them. -/
theorem Part.add_under_rows (before : List Cells) (last : Cells) :
    (part.under k).add (cells ++ [(k, .rows (before ++ [last]))]) =
      (part.add last).map fun last => cells ++ [(k, .rows (before ++ [last]))] := by
  rw [Part.add_eq, Part.add_eq]
  show Cells.update false (fun _ => part.change) (k :: part.path) .defined _ = _
  rw [Cells.update, h.cell?_append]
  dsimp only
  rw [List.reverse_concat]
  dsimp only
  rw [List.reverse_reverse]
  simp only [h.set_append]
  cases Cells.update false (fun _ => part.change) part.path .defined last <;> rfl

/-- A part below a key that is not there makes the table of the key. -/
theorem Part.add_under_none :
    (part.under k).add cells =
      (part.add []).map fun inner => cells ++ [(k, .table .passed inner)] := by
  rw [Part.add_eq, Part.add_eq, update_origin _ part.path .defined .passed]
  show Cells.update false (fun _ => part.change) (k :: part.path) .defined _ = _
  rw [Cells.update, h.cell?]
  simp only [Bool.false_eq_true, if_false]
  cases Cells.update false (fun _ => part.change) part.path .passed [] <;> rfl

end Under

/-! ## Runs of parts -/

/-- Adds parts one after another. -/
def addParts (inner : List Part) (cells : Cells) : Option Cells :=
  inner.foldlM (fun cells part => part.add cells) cells

theorem addParts_cons (part : Part) (inner : List Part) (cells : Cells) :
    addParts (part :: inner) cells = (part.add cells).bind (addParts inner) := List.foldlM_cons

theorem addParts_append (inner others : List Part) (cells : Cells) :
    addParts (inner ++ others) cells = (addParts inner cells).bind (addParts others) :=
  List.foldlM_append

section Under

variable {cells : Cells} {k : Text} (h : cells.Lacks k)
include h

theorem addParts_under_table (inner : List Part) (origin : Origin) (members : Cells) :
    addParts (inner.map (Part.under k)) (cells ++ [(k, .table origin members)]) =
      (addParts inner members).map fun members => cells ++ [(k, .table origin members)] := by
  induction inner generalizing members with
  | nil => rfl
  | cons part inner ih =>
      rw [List.map_cons, addParts_cons, addParts_cons, Part.add_under_table h]
      cases part.add members with
      | none => rfl
      | some members => exact ih members

theorem addParts_under_rows (inner : List Part) (before : List Cells) (last : Cells) :
    addParts (inner.map (Part.under k)) (cells ++ [(k, .rows (before ++ [last]))]) =
      (addParts inner last).map fun last => cells ++ [(k, .rows (before ++ [last]))] := by
  induction inner generalizing last with
  | nil => rfl
  | cons part inner ih =>
      rw [List.map_cons, addParts_cons, addParts_cons, Part.add_under_rows h]
      cases part.add last with
      | none => rfl
      | some last => exact ih last

/-- The first of the parts makes the table, and the others find it. -/
theorem addParts_under_none {inner : List Part} (hne : inner ≠ []) :
    addParts (inner.map (Part.under k)) cells =
      (addParts inner []).map fun members => cells ++ [(k, .table .passed members)] := by
  cases inner with
  | nil => exact absurd rfl hne
  | cons part inner =>
      rw [List.map_cons, addParts_cons, addParts_cons, Part.add_under_none h]
      cases part.add [] with
      | none => rfl
      | some members => exact addParts_under_table h inner .passed members

/-- The header of a table defines it with the values below it. -/
theorem addHeader {room : Nat} {members : List (Text × Value)} (hfit : MembersFit room members) :
    Part.add ⟨false, [], k, linePairs members⟩ cells =
      some (cells ++ [(k, .table .defined (lineCells members))]) := by
  have hvalues : Cells.addValues (linePairs members) [] = some ([] ++ lineCells members) :=
    addValues_linePairs hfit fun _ _ => List.not_mem_nil
  show Cells.defineTable [] k (linePairs members) cells = _
  rw [Cells.defineTable, Cells.update, h.cell?]
  simp only [bind, Option.bind_some, hvalues, h.without]
  rfl

/-- The first header of a list of tables makes the list. -/
theorem addFirstRow {room : Nat} {members : List (Text × Value)} (hfit : MembersFit room members) :
    Part.add ⟨true, [], k, linePairs members⟩ cells =
      some (cells ++ [(k, .rows [lineCells members])]) := by
  have hvalues : Cells.addValues (linePairs members) [] = some ([] ++ lineCells members) :=
    addValues_linePairs hfit fun _ _ => List.not_mem_nil
  show Cells.addRow [] k (linePairs members) cells = _
  rw [Cells.addRow, Cells.update, hvalues, h.cell?]
  rfl

/-- A later header of the list adds a table to it. -/
theorem addRow {room : Nat} {members : List (Text × Value)} (hfit : MembersFit room members)
    (before : List Cells) :
    Part.add ⟨true, [], k, linePairs members⟩ (cells ++ [(k, .rows before)]) =
      some (cells ++ [(k, .rows (before ++ [lineCells members]))]) := by
  have hvalues : Cells.addValues (linePairs members) [] = some ([] ++ lineCells members) :=
    addValues_linePairs hfit fun _ _ => List.not_mem_nil
  show Cells.addRow [] k (linePairs members) _ = _
  rw [Cells.addRow, Cells.update, hvalues, h.cell?_append]
  simp only [bind, Option.bind_some, h.set_append]
  rfl

end Under

/-! ## Cells of written tables -/

mutual

/-- The cells of the tables inside a table. -/
def innerCells : List (Text × Value) → Cells
  | [] => []
  | (k, v) :: rest => memberCells k v ++ innerCells rest

/-- The cells of one member. -/
def memberCells (k : Text) : Value → Cells
  | .table members =>
    [(k, .table (if members.isEmpty || members.any (isPlainValue ·.2) then .defined else .passed)
      (lineCells members ++ innerCells members))]
  | .list items => if isRows (.list items) then [(k, .rows (rowCells items))] else []
  | _ => []

/-- The tables of a list. -/
def rowCells : List Value → List Cells
  | [] => []
  | .table members :: rest => (lineCells members ++ innerCells members) :: rowCells rest
  | _ :: rest => rowCells rest

end

/-- A table without a header has members, and none of them is plain. -/
theorem plain_of_no_header {members : List (Text × Value)}
    (h : ¬(members.isEmpty || members.any (isPlainValue ·.2)) = true) :
    members ≠ [] ∧ ∀ m ∈ members, isPlainValue m.2 = false := by
  rw [Bool.not_eq_true, Bool.or_eq_false_iff, List.any_eq_false] at h
  refine ⟨?_, fun m hmem => Bool.eq_false_iff.mpr (h.2 m hmem)⟩
  rintro rfl
  exact nomatch h.1

theorem lineCells_eq_nil {members : List (Text × Value)}
    (h : ∀ m ∈ members, isPlainValue m.2 = false) : lineCells members = [] := by
  rw [lineCells, List.filter_eq_nil_iff.mpr fun m hmem => Bool.eq_false_iff.mp (h m hmem)]
  rfl

mutual

/-- A value that does not stand on a line of its own is written as parts. -/
theorem memberParts_ne_nil (k : Text) (v : Value) {room : Nat} (hfit : Fits room v)
    (hplain : isPlainValue v = false) : memberParts k v ≠ [] := by
  match room, v, hfit with
  | _, .flag _, _ => exact nomatch hplain
  | _, .text _, _ => exact nomatch hplain
  | _, .list [], _ => exact nomatch hplain
  | room + 1, .list (.table members :: rest), hfit =>
      rw [memberParts, if_pos (RowsFit.isRows hfit), rowParts]
      exact List.cons_ne_nil _ _
  | room + 1, .table members, hfit =>
      rw [memberParts]
      split
      · exact List.cons_ne_nil _ _
      · rename_i hheader
        obtain ⟨hne, hnone⟩ := plain_of_no_header hheader
        rw [List.nil_append, Ne, List.map_eq_nil_iff]
        exact innerParts_ne_nil members hfit hne hnone

theorem innerParts_ne_nil (members : List (Text × Value)) {room : Nat}
    (hfit : MembersFit room members) (hne : members ≠ [])
    (hnone : ∀ m ∈ members, isPlainValue m.2 = false) : innerParts members ≠ [] := by
  match members, hfit with
  | [], _ => exact absurd rfl hne
  | (k, v) :: rest, hfit =>
      rw [innerParts]
      exact List.append_ne_nil_of_left_ne_nil
        (memberParts_ne_nil k v hfit.2.1 (hnone _ List.mem_cons_self)) _

end

/-- The plain values leave the keys of the tables free. -/
theorem lineCells_lacks {room : Nat} {members : List (Text × Value)}
    (hfit : MembersFit room members) {m : Text × Value} (hmem : m ∈ members)
    (hplain : isPlainValue m.2 = false) : (lineCells members).Lacks m.1 := by
  rw [Cells.Lacks, lineCells, List.map_map]
  intro hkey
  obtain ⟨m', hmem', heq⟩ := List.mem_map.mp hkey
  obtain ⟨hin, hplain'⟩ := List.mem_filter.mp hmem'
  obtain rfl := List.inj_on_of_nodup_map (membersFit_iff.mp hfit).1 hin hmem heq
  exact nomatch hplain.symm.trans hplain'

theorem memberCells_lacks {k key : Text} (h : key ≠ k) (v : Value) :
    (memberCells k v).Lacks key := by
  unfold memberCells
  split
  · exact Cells.lacks_singleton h
  · split
    · exact Cells.lacks_singleton h
    · exact List.not_mem_nil
  · exact List.not_mem_nil

/-! ## Adding what was written -/

mutual

/-- The parts of a table add the cells of the tables inside it. -/
theorem addParts_innerParts (members : List (Text × Value)) {room : Nat} {cells : Cells}
    (hfit : MembersFit room members)
    (hfresh : ∀ m ∈ members, isPlainValue m.2 = false → cells.Lacks m.1) :
    addParts (innerParts members) cells = some (cells ++ innerCells members) := by
  match members, hfit with
  | [], _ => exact congrArg some (List.append_nil cells).symm
  | (k, v) :: rest, hfit =>
      obtain ⟨hk, hv, hrest⟩ := hfit
      obtain ⟨hfirst, hothers⟩ := List.forall_mem_cons.mp hfresh
      have hmore : ∀ m ∈ rest, isPlainValue m.2 = false →
          Cells.Lacks (cells ++ memberCells k v) m.1 := by
        intro m hmem hplain
        refine (hothers m hmem hplain).append (memberCells_lacks ?_ v)
        rintro rfl
        exact hk (List.mem_map_of_mem hmem)
      rw [innerParts, addParts_append, addParts_memberParts k v hv hfirst, innerCells,
        ← List.append_assoc]
      exact addParts_innerParts rest hrest hmore

theorem addParts_memberParts (k : Text) (v : Value) {room : Nat} {cells : Cells}
    (hfit : Fits room v) (hfresh : isPlainValue v = false → cells.Lacks k) :
    addParts (memberParts k v) cells = some (cells ++ memberCells k v) := by
  match room, v, hfit with
  | _, .flag _, _ => exact congrArg some (List.append_nil cells).symm
  | _, .text _, _ => exact congrArg some (List.append_nil cells).symm
  | _, .list [], _ => exact congrArg some (List.append_nil cells).symm
  | room + 1, .list (v :: rest), hfit =>
      have hrows : isRows (.list (v :: rest)) = true := RowsFit.isRows hfit
      have hlacks := hfresh (by simp [isPlainValue, hrows])
      rw [memberParts, if_pos hrows, memberCells, if_pos hrows]
      have hfirst : RowsFit room (v :: rest) := hfit
      match v, hfirst with
      | .table members, hfirst =>
          have hinner := addParts_innerParts members hfirst.1 fun m => lineCells_lacks hfirst.1
          have hunder := addParts_under_rows hlacks (innerParts members) [] (lineCells members)
          rw [hinner, Option.map_some] at hunder
          rw [rowParts, rowCells, List.cons_append, addParts_cons, addFirstRow hlacks hfirst.1,
            Option.bind_some, addParts_append, ← List.nil_append [lineCells members], hunder]
          exact addParts_rowParts k rest hfirst.2 hlacks [lineCells members ++ innerCells members]
  | room + 1, .table members, hfit =>
      have hlacks := hfresh rfl
      have hinner := addParts_innerParts members hfit fun m => lineCells_lacks hfit
      rw [memberParts, memberCells]
      split
      · rw [List.singleton_append, addParts_cons, addHeader hlacks hfit, Option.bind_some,
          addParts_under_table hlacks, hinner]
        rfl
      · rename_i hheader
        obtain ⟨hne, hnone⟩ := plain_of_no_header hheader
        rw [lineCells_eq_nil hnone] at hinner ⊢
        have hsome : innerParts members ≠ [] := innerParts_ne_nil members hfit hne hnone
        rw [List.nil_append, addParts_under_none hlacks hsome, hinner]
        rfl

theorem addParts_rowParts (k : Text) (items : List Value) {room : Nat} {cells : Cells}
    (hfit : RowsFit room items) (hlacks : cells.Lacks k) (before : List Cells) :
    addParts (rowParts k items) (cells ++ [(k, .rows before)]) =
      some (cells ++ [(k, .rows (before ++ rowCells items))]) := by
  match items, hfit with
  | [], _ =>
      rw [rowCells, List.append_nil]
      rfl
  | .table members :: rest, hfit =>
      have hinner := addParts_innerParts members hfit.1 fun m => lineCells_lacks hfit.1
      have hunder := addParts_under_rows hlacks (innerParts members) before (lineCells members)
      rw [hinner, Option.map_some] at hunder
      rw [rowParts, rowCells, List.cons_append, addParts_cons, addRow hlacks hfit.1,
        Option.bind_some, addParts_append, hunder]
      have hrest := addParts_rowParts k rest hfit.2 hlacks
        (before ++ [lineCells members ++ innerCells members])
      rwa [← List.append_cons] at hrest

end

/-- A written table is read as its plain values, followed by the tables inside it. -/
theorem read?_write_eq_some {room : Nat} {members : List (Text × Value)} (hroom : room < depthLimit)
    (hfit : MembersFit room members) :
    read? (write (.table members)) =
      some (.table .nowhere (membersOf (lineCells members ++ innerCells members))) := by
  have hvalues : Cells.addValues (linePairs members) [] = some ([] ++ lineCells members) :=
    addValues_linePairs hfit fun _ _ => List.not_mem_nil
  have hinner := addParts_innerParts members hfit fun m => lineCells_lacks hfit
  rw [addParts] at hinner
  rw [read?_write hroom hfit, hvalues, List.nil_append]
  simp only [bind, Option.bind_some, hinner]
  rfl

end Signpost.Toml
