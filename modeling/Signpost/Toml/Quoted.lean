import Signpost.Text.Basic

/-!
# Texts in TOML

A text stands between double quotes, where a backslash starts an escape, or between single quotes,
where every character stands for itself. Three quotes open and close a text of several lines; a
line break directly behind the opening quotes does not count, and every line break is read as a line
feed.
-/

namespace Signpost.Toml

def isBlank (c : Char) : Bool := c = ' ' || c = '\t'

/-- A character that may stand in a comment or text: a tab, or any but a control character. -/
def isPlain (c : Char) : Bool := c = '\t' || (0x20 ≤ c.toNat && c.toNat != 0x7F)

/-- What follows a line break. -/
def dropNewline? : Text → Option Text
  | '\n' :: t => some t
  | '\r' :: '\n' :: t => some t
  | _ => none

/-- Drops blanks and line breaks. -/
def dropLines : Text → Text
  | [] => []
  | '\r' :: '\n' :: t => dropLines t
  | c :: t => if isBlank c || c = '\n' then dropLines t else c :: t

/-- The character of an escape with a number of so many digits behind its letter. -/
def numbered? (digits : Nat) (t : Text) : Option (Char × Nat) := do
  let values ← (t.take digits).mapM Text.hexValue?
  let n := values.foldl (fun n d => n * 16 + d) 0
  if values.length = digits ∧ n.isValidChar then some (Char.ofNat n, digits + 1) else none

/-- The character of the escape behind a backslash, and how many characters spell it. -/
def escape? : Text → Option (Char × Nat)
  | 'b' :: _ => some ('\x08', 1)
  | 't' :: _ => some ('\t', 1)
  | 'n' :: _ => some ('\n', 1)
  | 'f' :: _ => some ('\x0c', 1)
  | 'r' :: _ => some ('\r', 1)
  | '"' :: _ => some ('"', 1)
  | '\\' :: _ => some ('\\', 1)
  | 'u' :: t => numbered? 4 t
  | 'U' :: t => numbered? 8 t
  | _ => none

/-- Reads on to the closing double quote after dropping `skip` characters; also gives what follows
the quote. -/
def readBasic : (skip : Nat) → Text → Option (Text × Text)
  | _, [] => none
  | skip + 1, _ :: t => readBasic skip t
  | 0, c :: t =>
    if c = '"' then some ([], t)
    else if c = '\\' then
      match escape? t with
      | none => none
      | some (x, n) => (readBasic n t).map fun (text, rest) => (x :: text, rest)
    else if isPlain c then (readBasic 0 t).map fun (text, rest) => (c :: text, rest)
    else none

def readLiteral : Text → Option (Text × Text)
  | [] => none
  | c :: t =>
    if c = '\'' then some ([], t)
    else if isPlain c then (readLiteral t).map fun (text, rest) => (c :: text, rest)
    else none

/-- The text that ends with a run of at least three quotes: up to two quotes in front of the closing
three belong to the text. -/
def closeRun? (quote : Char) (t : Text) : Option (Text × Text) :=
  let run := t.takeWhile (· == quote)
  if run.length ≤ 5 then some (run.drop 3, t.drop run.length) else none

/-- How many characters a line-ending backslash drops, `t` being the text behind it. -/
def foldedLength? (t : Text) : Option Nat :=
  (dropNewline? (t.dropWhile isBlank)).map fun rest => t.length - (dropLines rest).length

/-- Reads the lines up to three closing quotes after dropping `skip` characters. A backslash is an
escape where `escapes` holds. -/
def readLines (quote : Char) (escapes : Bool) : (skip : Nat) → Text → Option (Text × Text)
  | _, [] => none
  | skip + 1, _ :: t => readLines quote escapes skip t
  | 0, c :: t =>
    if c = quote && Text.startsWith [quote, quote] t then closeRun? quote (c :: t)
    else if c = '\\' && escapes then
      match foldedLength? t with
      | some n => readLines quote escapes n t
      | none =>
        match escape? t with
        | none => none
        | some (x, n) => (readLines quote escapes n t).map fun (text, rest) => (x :: text, rest)
    else if c = '\r' && t.head? == some '\n' then readLines quote escapes 0 t
    else if c = '\n' || isPlain c then
      (readLines quote escapes 0 t).map fun (text, rest) => (c :: text, rest)
    else none

/-- A text of several lines, `t` being what follows the opening quotes. -/
def readMultiline (quote : Char) (t : Text) : Option (Text × Text) :=
  readLines quote (quote = '"') 0 ((dropNewline? t).getD t)

/-- A text of one line. -/
def readLine? : Text → Option (Text × Text)
  | '"' :: t => readBasic 0 t
  | '\'' :: t => readLiteral t
  | _ => none

def readText? (t : Text) : Option (Text × Text) :=
  match t with
  | '"' :: '"' :: '"' :: t => readMultiline '"' t
  | '\'' :: '\'' :: '\'' :: t => readMultiline '\'' t
  | t => readLine? t

end Signpost.Toml
