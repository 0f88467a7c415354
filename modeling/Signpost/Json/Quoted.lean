import Signpost.Document.Node

/-!
# Texts between quotes

A JSON text stands between double quotes. Taking it in resolves every escape; passing over it only
checks that each escape is spelled correctly, so a text with an unpaired surrogate can be passed
over although it cannot be taken in.
-/

namespace Signpost.Json

open Document (Fault Spot)

/-- The next four bytes as hexadecimal digits. -/
def fourDigits (t : Text) : Except Fault Nat :=
  if Text.byteLength t < 4 then .error ⟨.endInText, ⟨[], 0⟩⟩
  else match (t.take 4).mapM Text.hexValue? with
    | some [a, b, c, d] => .ok (((a * 16 + b) * 16 + c) * 16 + d)
    | _ => .error ⟨.badEscape, ⟨t, 4⟩⟩

/-- The character of an escape by one letter. -/
def letterEscape? (c : Char) : Option Char :=
  match c with
  | '"' => some '"'
  | '\\' => some '\\'
  | '/' => some '/'
  | 'b' => some '\x08'
  | 'f' => some '\x0c'
  | 'n' => some '\n'
  | 'r' => some '\r'
  | 't' => some '\t'
  | _ => none

/-- The second half of a surrogate pair, which must follow the first half `high` at once. -/
def lowSurrogate (high : Nat) (t : Text) : Except Fault (Char × Nat) :=
  match t with
  | [] => .error ⟨.endInText, ⟨[], 0⟩⟩
  | '\\' :: [] => .error ⟨.endInText, ⟨[], 0⟩⟩
  | '\\' :: 'u' :: rest => do
    let low ← fourDigits rest
    if low < 0xDC00 || 0xDFFF < low then .error ⟨.loneSurrogate, ⟨rest, 4⟩⟩
    else .ok (Char.ofNat (0x10000 + (high - 0xD800) * 0x400 + (low - 0xDC00)), 11)
  | '\\' :: rest => .error ⟨.surrogateNotFollowed, ⟨rest, 1⟩⟩
  | _ => .error ⟨.surrogateNotFollowed, ⟨t, 1⟩⟩

/-- The character of the escape behind a backslash, and how many characters spell it. -/
def readEscape : Text → Except Fault (Char × Nat)
  | [] => .error ⟨.endInText, ⟨[], 0⟩⟩
  | 'u' :: rest => do
    let n ← fourDigits rest
    if 0xDC00 ≤ n && n ≤ 0xDFFF then .error ⟨.loneSurrogate, ⟨rest, 4⟩⟩
    else if 0xD800 ≤ n && n ≤ 0xDBFF then lowSurrogate n (rest.drop 4)
    else .ok (Char.ofNat n, 5)
  | c :: rest =>
    match letterEscape? c with
    | some x => .ok (x, 1)
    | none => .error ⟨.badEscape, ⟨c :: rest, 1⟩⟩

/-- How many characters spell the escape behind a backslash. -/
def passEscape : Text → Except Fault Nat
  | [] => .error ⟨.endInText, ⟨[], 0⟩⟩
  | 'u' :: rest => do
    let _ ← fourDigits rest
    return 5
  | c :: rest =>
    match letterEscape? c with
    | some _ => .ok 1
    | none => .error ⟨.badEscape, ⟨c :: rest, 1⟩⟩

/-- Takes in the text up to the closing quote, after dropping `skip` characters; also gives what
follows the quote. -/
def readQuoted : Nat → Text → Except Fault (Text × Text)
  | _, [] => .error ⟨.endInText, ⟨[], 0⟩⟩
  | skip + 1, _ :: t => readQuoted skip t
  | 0, c :: t =>
    if c = '"' then .ok ([], t)
    else if c = '\\' then
      match readEscape t with
      | .error fault => .error fault
      | .ok (x, n) => (readQuoted n t).map fun (text, rest) => (x :: text, rest)
    else if c.toNat < 0x20 then .error ⟨.controlInText, ⟨c :: t, 1⟩⟩
    else (readQuoted 0 t).map fun (text, rest) => (c :: text, rest)

/-- Passes over a text up to the closing quote, after dropping `skip` characters. -/
def passQuoted : Nat → Text → Except Fault Text
  | _, [] => .error ⟨.endInText, ⟨[], 0⟩⟩
  | skip + 1, _ :: t => passQuoted skip t
  | 0, c :: t =>
    if c = '"' then .ok t
    else if c = '\\' then
      match passEscape t with
      | .error fault => .error fault
      | .ok n => passQuoted n t
    else if c.toNat < 0x20 then .error ⟨.controlInText, ⟨c :: t, 0⟩⟩
    else passQuoted 0 t

end Signpost.Json
