import Signpost.Document.Value
import Signpost.Toml.Reader

/-!
# Writing TOML

Below its header a table lists its plain values, and behind them come the tables inside it, each
with a header of its own. A list of tables becomes one header for each of them. A text is written
in the form that needs the fewest escapes.
-/

namespace Signpost.Toml

open Document (Value)

/-- A control character that must be escaped in every form of text. -/
def needsEscape (c : Char) : Bool :=
  (c.toNat < 0x20 || c.toNat = 0x7F) && c != '\t' && c != '\n'

/-- The greatest number of times that a character stands in a row; `run` is the number of times it
just stood. -/
def longestRun (x : Char) : (run : Nat) → Text → Nat
  | run, [] => run
  | run, c :: t => if c = x then longestRun x (run + 1) t else max run (longestRun x 0 t)

/-- The forms of a text. -/
inductive TextForm where
  | basic
  | literal
  | basicLines
  | literalLines
deriving DecidableEq, Repr

/-- The form with the fewest escapes; texts of one line go before texts of several. -/
def TextForm.best (t : Text) : TextForm :=
  let escapes := t.any needsEscape
  let backslash := t.any (· == '\\')
  let newline := t.any (· == '\n')
  let doubles := longestRun '"' 0 t
  let singles := longestRun '\'' 0 t
  if !escapes && !backslash && doubles = 0 && !newline then .basic
  else if !escapes && singles = 0 && !newline then .literal
  else if !escapes && !backslash && doubles ≤ 2 then .basicLines
  else if !escapes && singles ≤ 2 then .literalLines
  else if newline then .basicLines
  else .basic

/-- The characters between double quotes. In several lines, where `lines` holds, line breaks stand
as they are and only the third double quote in a row is escaped; `quotes` counts those before. -/
def writeBasic (lines : Bool) : (quotes : Nat) → Text → Text
  | _, [] => []
  | quotes, c :: t =>
    if c = '"' then
      if lines && quotes < 2 then c :: writeBasic lines (quotes + 1) t
      else '\\' :: c :: writeBasic lines 0 t
    else if c = '\\' then '\\' :: '\\' :: writeBasic lines 0 t
    else if c = '\t' then '\\' :: 't' :: writeBasic lines 0 t
    else if c = '\n' then
      if lines then c :: writeBasic lines 0 t else '\\' :: 'n' :: writeBasic lines 0 t
    else if c = '\x08' then '\\' :: 'b' :: writeBasic lines 0 t
    else if c = '\x0c' then '\\' :: 'f' :: writeBasic lines 0 t
    else if c = '\r' then '\\' :: 'r' :: writeBasic lines 0 t
    else if needsEscape c then
      '\\' :: 'u' :: Text.padStart 4 '0' (Text.upper (Text.hex c.toNat)) ++ writeBasic lines 0 t
    else c :: writeBasic lines 0 t

def writeAs (form : TextForm) (t : Text) : Text :=
  let opening := if t.any (· == '\n') then ['\n'] else []
  match form with
  | .basic => '"' :: writeBasic false 0 t ++ ['"']
  | .literal => '\'' :: t ++ ['\'']
  | .basicLines => "\"\"\"".toList ++ opening ++ writeBasic true 0 t ++ "\"\"\"".toList
  | .literalLines => "'''".toList ++ opening ++ t ++ "'''".toList

def writeText (t : Text) : Text := writeAs (TextForm.best t) t

/-- A key: bare where it can be, else a text of one line. -/
def writeKey (k : Text) : Text :=
  if !k.isEmpty && k.all isBareKeyChar then k
  else match TextForm.best k with
    | .literal => writeAs .literal k
    | _ => writeAs .basic k

def writePath (path : List Text) : Text := Text.join ['.'] (path.map writeKey)

def isTable : Value → Bool
  | .table _ => true
  | _ => false

/-- Whether a value is a list of tables and of nothing else. -/
def isRows : Value → Bool
  | .list (v :: rest) => isTable v && rest.all isTable
  | _ => false

mutual

/-- A value within a line; there is no null, so null is left out. -/
def inlineText : Value → Text
  | .null => []
  | .flag b => if b then "true".toList else "false".toList
  | .text t => writeText t
  | .list items => '[' :: Text.join ", ".toList (inlineItems items) ++ [']']
  | .table members =>
    "\x7b ".toList ++ Text.join ", ".toList (inlineMembers members) ++ " \x7d".toList

/-- The elements of a list within a line. -/
def inlineItems : List Value → List Text
  | [] => []
  | v :: rest => inlineText v :: inlineItems rest

/-- The members of a table within a line. -/
def inlineMembers : List (Text × Value) → List Text
  | [] => []
  | (k, v) :: rest => (writeKey k ++ " = ".toList ++ inlineText v) :: inlineMembers rest

end

/-- Whether a value stands on a line of its own, below the header of its table. -/
def isPlainValue : Value → Bool
  | .null => false
  | v => !isTable v && !isRows v

/-- The lines of the plain values of a table. -/
def valueLines (members : List (Text × Value)) : Text :=
  (members.filter (isPlainValue ·.2)).flatMap fun (k, v) =>
    writeKey k ++ " = ".toList ++ inlineText v ++ ['\n']

/-- The header of a table, unless the tables inside it are enough to tell that it is there. -/
def tableHeader (path : List Text) (members : List (Text × Value)) : Text :=
  if members.isEmpty || members.any (isPlainValue ·.2) then
    '\n' :: '[' :: writePath path ++ "]\n".toList
  else []

def rowHeader (path : List Text) : Text := "\n[[".toList ++ writePath path ++ "]]\n".toList

mutual

def innerTables (path : List Text) : List (Text × Value) → Text
  | [] => []
  | (k, v) :: rest => memberTables (path ++ [k]) v ++ innerTables path rest

def memberTables (path : List Text) : Value → Text
  | .table members => tableHeader path members ++ valueLines members ++ innerTables path members
  | .list items => if isRows (.list items) then rowTables path items else []
  | _ => []

def rowTables (path : List Text) : List Value → Text
  | [] => []
  | .table members :: rest =>
    rowHeader path ++ valueLines members ++ innerTables path members ++ rowTables path rest
  | _ :: rest => rowTables path rest

end

/-- A document; only tables can be written as one. -/
def write : Value → Text
  | .table members =>
    match valueLines members ++ innerTables [] members with
    | '\n' :: t => t
    | t => t
  | _ => []

end Signpost.Toml
