import Signpost.Document.Value

/-!
# Writing JSON

A value is written compactly, or with each element and member on a line of its own, indented by
two spaces a level. Inside a text only quotes, backslashes and controls are escaped.
-/

namespace Signpost.Json

open Document (Value)

def writeChar (c : Char) : Text :=
  if c = '"' then "\\\"".toList
  else if c = '\\' then "\\\\".toList
  else if c = '\x08' then "\\b".toList
  else if c = '\t' then "\\t".toList
  else if c = '\n' then "\\n".toList
  else if c = '\x0c' then "\\f".toList
  else if c = '\r' then "\\r".toList
  else if c.toNat < 0x20 then "\\u".toList ++ Text.padStart 4 '0' (Text.hex c.toNat)
  else [c]

def writeText (t : Text) : Text := '"' :: t.flatMap writeChar ++ ['"']

def writeFlag (b : Bool) : Text := if b then "true".toList else "false".toList

mutual

/-- A value without any white space. -/
def compact : Value → Text
  | .null => "null".toList
  | .flag b => writeFlag b
  | .text t => writeText t
  | .list items => '[' :: compactItems items ++ [']']
  | .table members => '{' :: compactMembers members ++ ['}']

def compactItems : List Value → Text
  | [] => []
  | [v] => compact v
  | v :: rest => compact v ++ ',' :: compactItems rest

def compactMembers : List (Text × Value) → Text
  | [] => []
  | [(k, v)] => writeText k ++ ':' :: compact v
  | (k, v) :: rest => writeText k ++ ':' :: compact v ++ ',' :: compactMembers rest

end

/-- A line break and the indentation of a level. -/
def newLine (level : Nat) : Text := '\n' :: List.replicate (2 * level) ' '

mutual

/-- A value at an indentation level, an element or member a line. -/
def pretty (level : Nat) : Value → Text
  | .null => "null".toList
  | .flag b => writeFlag b
  | .text t => writeText t
  | .list [] => "[]".toList
  | .list (v :: rest) => '[' :: prettyItems (level + 1) (v :: rest) ++ newLine level ++ [']']
  | .table [] => "\x7b\x7d".toList
  | .table (m :: rest) => '{' :: prettyMembers (level + 1) (m :: rest) ++ newLine level ++ ['}']

/-- Elements on lines of their own. -/
def prettyItems (level : Nat) : List Value → Text
  | [] => []
  | [v] => newLine level ++ pretty level v
  | v :: rest => newLine level ++ pretty level v ++ ',' :: prettyItems level rest

/-- Members on lines of their own. -/
def prettyMembers (level : Nat) : List (Text × Value) → Text
  | [] => []
  | [(k, v)] => newLine level ++ writeText k ++ ": ".toList ++ pretty level v
  | (k, v) :: rest =>
    newLine level ++ writeText k ++ ": ".toList ++ pretty level v ++ ',' :: prettyMembers level rest

end

end Signpost.Json
