import Signpost.Toml.Moment
import Signpost.Toml.Number
import Signpost.Toml.Quoted
import Signpost.Toml.Table

/-!
# Reading TOML

A document is a list of lines: values under keys, headers of tables, comments. It is read into a
tree of found values. Lists and tables within a line nest at most 80 deep, and no key has 80 parts
or more.
-/

namespace Signpost.Toml

open Document

/-- How deep values may nest, and the number of parts that a key must not reach. -/
def depthLimit : Nat := 80

/-- Drops blanks. -/
def dropBlanks (t : Text) : Text := t.dropWhile isBlank

/-- What follows a line: blanks, perhaps a comment, and a line break or the end of the text. -/
def endLine? (t : Text) : Option Text :=
  let rest := match dropBlanks t with
    | '#' :: t => t.dropWhile isPlain
    | t => t
  match rest with
  | [] => some []
  | t => dropNewline? t

/-- Drops blanks, line breaks and comments. -/
def dropFiller : (inComment : Bool) → Text → Text
  | _, [] => []
  | inComment, c :: t =>
    if inComment && isPlain c then dropFiller true t
    else if isBlank c || c = '\n' then dropFiller false t
    else if c = '\r' && t.head? == some '\n' then dropFiller false t
    else if c = '#' then dropFiller true t
    else c :: t

/-- A character of a key without quotes. -/
def isBareKeyChar (c : Char) : Bool := Text.isAlphanumeric c || c = '_' || c = '-'

def keyPart? (t : Text) : Option (Text × Text) :=
  match t with
  | '"' :: _ => readLine? t
  | '\'' :: _ => readLine? t
  | t =>
    let part := t.takeWhile isBareKeyChar
    if part.isEmpty then none else some (part, t.drop part.length)

/-- The parts of a key between dots. Each part has a character, so the length of the text is fuel
enough. -/
def keyParts? : (fuel : Nat) → Text → Option (List Text × Text)
  | 0, _ => none
  | fuel + 1, t => do
    let (part, rest) ← keyPart? (dropBlanks t)
    match dropBlanks rest with
    | '.' :: rest =>
      let (parts, rest) ← keyParts? fuel rest
      return (part :: parts, rest)
    | rest => return ([part], rest)

/-- A key: the parts before the last one, and the last one. -/
def key? (t : Text) : Option ((List Text × Text) × Text) := do
  let (parts, rest) ← keyParts? (t.length + 1) t
  let last ← parts.getLast?
  if depthLimit ≤ parts.length then none else some ((parts.dropLast, last), rest)

/-- The name under which a date or time is found as a table with one text. -/
def momentKey : Text := "$__toml_private_datetime".toList

def Moment.toNode (m : Moment) : Node :=
  .table .nowhere
    (.member ⟨.ok momentKey, .nowhere⟩ (.text m.render .nowhere) (.close .nowhere))

def Number.toNode : Number → Node
  | .integer n => .integer n .nowhere
  | .float x => .float x .nowhere

def readScalar? (t : Text) : Option (Node × Text) :=
  if startsDay t || startsClock t then (readMoment? t).map fun (m, rest) => (m.toNode, rest)
  else (readNumber? t).map fun (n, rest) => (n.toNode, rest)

mutual

/-- The value at the head of a text; `depth` is how much deeper values may nest. -/
def readValue? : (fuel depth : Nat) → Text → Option (Node × Text)
  | 0, _, _ => none
  | fuel + 1, depth, t =>
    match t with
    | [] => none
    | 't' :: 'r' :: 'u' :: 'e' :: rest => some (.flag true .nowhere, rest)
    | 'f' :: 'a' :: 'l' :: 's' :: 'e' :: rest => some (.flag false .nowhere, rest)
    | '[' :: rest =>
      match depth with
      | 0 => none
      | depth + 1 =>
        (readItems? fuel depth (dropFiller false rest)).map fun (items, rest) =>
          (.list .nowhere items, rest)
    | '{' :: rest =>
      match depth with
      | 0 => none
      | depth + 1 => do
        let (pairs, rest) ← match dropBlanks rest with
          | '}' :: rest => some ([], rest)
          | rest => readPairs? fuel depth rest
        let cells ← Cells.addValues pairs []
        return (.table .nowhere (membersOf cells), rest)
    | c :: _ =>
      if c = '"' || c = '\'' then (readText? t).map fun (text, rest) => (.text text .nowhere, rest)
      else readScalar? t

/-- The elements of a list up to its closing bracket, from the one at the head of the text on. -/
def readItems? : (fuel depth : Nat) → Text → Option (Items × Text)
  | 0, _, _ => none
  | fuel + 1, depth, t =>
    match t with
    | ']' :: rest => some (.close .nowhere, rest)
    | t => do
      let (node, rest) ← readValue? fuel depth t
      let (items, rest) ← match dropFiller false rest with
        | ',' :: rest => readItems? fuel depth (dropFiller false rest)
        | ']' :: rest => some (.close .nowhere, rest)
        | _ => none
      return (.item node ⟨.nowhere, none⟩ items, rest)

/-- The values of a table within a line up to its closing brace. -/
def readPairs? : (fuel depth : Nat) → Text → Option (List (List Text × Text × Node) × Text)
  | 0, _, _ => none
  | fuel + 1, depth, t => do
    let ((path, key), rest) ← key? t
    let rest ← after? '=' rest
    let (node, rest) ← readValue? fuel depth (dropBlanks rest)
    match dropBlanks rest with
    | ',' :: rest =>
      let (pairs, rest) ← readPairs? fuel depth rest
      return ((path, key, node) :: pairs, rest)
    | '}' :: rest => return ([(path, key, node)], rest)
    | _ => none

end

/-- A line of a document. -/
inductive Line where
  | pair (path : List Text) (key : Text) (value : Node)
  | header (row : Bool) (path : List Text) (key : Text)

/-- A header behind its opening brackets. -/
def readHeader? (row : Bool) (t : Text) : Option (Line × Text) := do
  let ((path, key), rest) ← key? t
  let rest ← after? ']' rest
  let rest ← if row then after? ']' rest else some rest
  let rest ← endLine? rest
  return (.header row path key, rest)

def readPair? (t : Text) : Option (Line × Text) := do
  let ((path, key), rest) ← key? t
  let rest ← after? '=' rest
  let (node, rest) ← readValue? (2 * rest.length + 1) depthLimit (dropBlanks rest)
  let rest ← endLine? rest
  return (.pair path key node, rest)

/-- The lines of a document; each uses up a character, so the length of the text is fuel enough. -/
def readDocument? : (fuel : Nat) → Text → Option (List Line)
  | 0, _ => none
  | fuel + 1, t =>
    match dropBlanks t with
    | [] => some []
    | c :: rest => do
      if c = '#' || c = '\n' || c = '\r' then
        readDocument? fuel (← endLine? (c :: rest))
      else
        let (line, rest) ← match c, rest with
          | '[', '[' :: rest => readHeader? true rest
          | '[', rest => readHeader? false rest
          | c, rest => readPair? (c :: rest)
        let lines ← readDocument? fuel rest
        return line :: lines

/-- A header and the values under it. -/
structure Part where
  row : Bool
  path : List Text
  key : Text
  pairs : List (List Text × Text × Node)

/-- The values before the first header, and the parts that headers start. -/
def parts (lines : List Line) : List (List Text × Text × Node) × List Part :=
  lines.foldr (fun line (pairs, parts) =>
    match line with
    | .pair path key node => ((path, key, node) :: pairs, parts)
    | .header row path key => ([], ⟨row, path, key, pairs⟩ :: parts)) ([], [])

def Part.add (part : Part) (cells : Cells) : Option Cells :=
  if part.row then cells.addRow part.path part.key part.pairs
  else cells.defineTable part.path part.key part.pairs

/-- The value of a document; a mark of byte order in front does not count. -/
def read? (t : Text) : Option Node := do
  let t := match t with
    | '\uFEFF' :: t => t
    | t => t
  let lines ← readDocument? (t.length + 1) t
  let (pairs, parts) := parts lines
  let cells ← Cells.addValues pairs []
  let cells ← parts.foldlM (fun cells part => part.add cells) cells
  return .table .nowhere (membersOf cells)

end Signpost.Toml
