import Signpost.Document.Node

/-!
# Tables under construction

A document defines its tables piece by piece: by headers, by dotted keys, and by tables within a
line. No key is defined twice. A table that a header only passes through may be defined by a later
header; one that dotted keys made may only be extended by dotted keys.
-/

namespace Signpost.Toml

open Document

/-- How a table came about. -/
inductive Origin where
  /-- It has a definition of its own. -/
  | defined
  /-- A header for a table inside it passed through. -/
  | passed
  /-- Dotted keys made it. -/
  | dotted
deriving DecidableEq, Repr

/-- What stands behind a key. -/
inductive Cell where
  | value (node : Node)
  | table (origin : Origin) (members : List (Text × Cell))
  /-- A list of tables, each from a header of its own. -/
  | rows (rows : List (List (Text × Cell)))

abbrev Cells := List (Text × Cell)

namespace Cells

def cell? (cells : Cells) (key : Text) : Option Cell := (cells.find? (·.1 == key)).map (·.2)

def set (cells : Cells) (key : Text) (cell : Cell) : Cells :=
  cells.map fun (k, c) => if k = key then (k, cell) else (k, c)

/-- The cells without a key. -/
def without (cells : Cells) (key : Text) : Cells := cells.filter (·.1 != key)

/-- Changes the cells of the table that `path` leads to, making tables on the way where there are
none. Dotted keys pass only through tables that are not defined by themselves. The change is told
how the table came about. -/
def update (byDots : Bool) (change : Origin → Cells → Option Cells) :
    (path : List Text) → Origin → Cells → Option Cells
  | [], origin, cells => change origin cells
  | key :: path, _, cells =>
    match cells.cell? key with
    | none => do
      let origin := if byDots then Origin.dotted else Origin.passed
      let inner ← update byDots change path origin []
      return cells ++ [(key, .table origin inner)]
    | some (.value _) => none
    | some (.table origin inner) =>
      if byDots && origin = .defined then none
      else do
        let inner ← update byDots change path origin inner
        return set cells key (.table origin inner)
    | some (.rows rows) =>
      match rows.reverse with
      | [] => none
      | last :: before => do
        let last ← update byDots change path .defined last
        return set cells key (.rows (before.reverse ++ [last]))

/-- Adds a value under a dotted key. The last table on its way must be one that dotted keys made,
and without dots the table itself. -/
def addValue (path : List Text) (key : Text) (node : Node) (cells : Cells) : Option Cells :=
  update true (fun origin inner =>
    if !path.isEmpty && origin != .dotted then none
    else match inner.cell? key with
      | some _ => none
      | none => some (inner ++ [(key, .value node)])) path .defined cells

def addValues (pairs : List (List Text × Text × Node)) (cells : Cells) : Option Cells :=
  pairs.foldlM (fun cells (path, key, node) => addValue path key node cells) cells

/-- Defines a table by its header and values. A table that headers passed through keeps its members
and moves behind the other members of its parent. -/
def defineTable (path : List Text) (key : Text) (pairs : List (List Text × Text × Node))
    (cells : Cells) : Option Cells :=
  update false (fun _ parent => do
    let members ← match parent.cell? key with
      | none => some []
      | some (.table .passed members) => some members
      | some _ => none
    let members ← addValues pairs members
    return without parent key ++ [(key, .table .defined members)]) path .defined cells

/-- Adds a row to a list of tables by its header and values. -/
def addRow (path : List Text) (key : Text) (pairs : List (List Text × Text × Node))
    (cells : Cells) : Option Cells :=
  update false (fun _ parent => do
    let row ← addValues pairs []
    match parent.cell? key with
    | none => return parent ++ [(key, .rows [row])]
    | some (.rows rows) => return set parent key (.rows (rows ++ [row]))
    | some _ => none) path .defined cells

end Cells

mutual

def Cell.toNode : Cell → Node
  | .value node => node
  | .table _ members => .table .nowhere (membersOf members)
  | .rows rows => .list .nowhere (itemsOf rows)

def membersOf : List (Text × Cell) → Members
  | [] => .close .nowhere
  | (key, cell) :: rest => .member ⟨.ok key, .nowhere⟩ cell.toNode (membersOf rest)

def itemsOf : List (List (Text × Cell)) → Items
  | [] => .close .nowhere
  | row :: rest => .item (.table .nowhere (membersOf row)) ⟨.nowhere, none⟩ (itemsOf rest)

end

end Signpost.Toml
