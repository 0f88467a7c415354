import Signpost.Pattern.Cursor

/-!
# Single characters and escapes

The smallest pieces of a pattern: a character, the dot, an assertion, or an escape. What stands
behind a backslash is a character that would otherwise have a meaning, a character given by its
number, a class or an assertion.
-/

namespace Signpost.Pattern

/-- A smallest piece of a pattern. -/
inductive Atom where
  | literal (literal : Literal)
  | dot (span : Span)
  | assertion (span : Span) (kind : Assertion)
  | property (cls : PropertyClass)
  | shorthand (cls : ShorthandClass)
deriving Repr

namespace Atom

def span : Atom → Span
  | literal l => l.span
  | dot span => span
  | assertion span _ => span
  | property cls => cls.span
  | shorthand cls => cls.span

def toTerm : Atom → Term
  | literal l => .literal l
  | dot span => .dot span
  | assertion span kind => .assertion span kind
  | property cls => .property cls
  | shorthand cls => .shorthand cls

/-- The member of a class made of an atom; a dot is none and neither is an assertion. -/
def toClassSet : Atom → Except Fault ClassSet
  | literal l => .ok (.literal l)
  | property cls => .ok (.property cls)
  | shorthand cls => .ok (.shorthand cls)
  | atom => .error ⟨.classEscape, atom.span⟩

/-- The end of a range in a class, which must be a character. -/
def toBound : Atom → Except Fault Literal
  | literal l => .ok l
  | atom => .error ⟨.classBoundary, atom.span⟩

end Atom

namespace Escape

def metaCharacters : Text := "\\.+*?()|[]\x7b\x7d^$#&-~".toList

/-- Whether a backslash may stand before a character to no effect: before every ASCII character
that is no letter, no digit and no angle bracket. -/
def isEscapable (c : Char) : Bool :=
  metaCharacters.any (· == c) ||
    (c.toNat ≤ 0x7F && !Text.isAlphanumeric c && c != '<' && c != '>')

/-- The character with a number, unless none has it. -/
def character? (n : Nat) : Option Char :=
  if h : n.isValidChar then some (Char.ofNatAux n h) else none

/-- The number of digits behind `\x`, `\u` and `\U`. -/
def digitCount (letter : Char) : Nat :=
  if letter = 'x' then 2 else if letter = 'u' then 4 else 8

/-- The next `n` hexadecimal digits as a number. -/
def hexDigits : (n value : Nat) → Cursor → Except Fault (Nat × Cursor)
  | 0, value, c => .ok (value, c)
  | n + 1, value, c =>
    match c.rest with
    | [] => .error (c.faultAt .escapeAtEnd)
    | d :: _ =>
      match Text.hexValue? d with
      | none => .error (c.faultHere .hexDigit)
      | some v => hexDigits n (value * 16 + v) c.nextSkip

/-- The hexadecimal digits up to a closing brace, `brace` being the place of the opening one, and
the cursor at the closing one. -/
def bracedDigits (brace : Nat) : (fuel : Nat) → Text → Cursor → Except Fault (Text × Cursor)
  | 0, _, c => .error ⟨.escapeAtEnd, c.since brace⟩
  | fuel + 1, digits, c =>
    match c.rest with
    | [] => .error ⟨.escapeAtEnd, c.since brace⟩
    | '}' :: _ => .ok (digits.reverse, c)
    | d :: _ =>
      if Text.isHexDigit d then bracedDigits brace fuel (d :: digits) c.nextSkip
      else .error (c.faultHere .hexDigit)

/-- A character given by its number; the cursor is at the letter behind the backslash at `start`. -/
def hex (start : Nat) (letter : Char) (c : Cursor) : Except Fault (Literal × Cursor) := do
  let c := c.nextSkip
  match c.rest with
  | [] => .error (c.faultAt .escapeAtEnd)
  | '{' :: rest =>
    let (digits, close) ← bracedDigits c.offset (rest.length + 1) [] c.nextSkip
    let behind := close.nextSkip
    if digits.isEmpty then .error ⟨.hexEmpty, behind.since c.offset⟩
    else match character? (digits.foldl (fun n d => n * 16 + (Text.hexValue? d).getD 0) 0) with
      | none => .error ⟨.hexNoCharacter, ⟨c.offset + 1, close.offset⟩⟩
      | some char => .ok (⟨behind.since start, char, false⟩, behind)
  | _ =>
    let (value, behind) ← hexDigits (digitCount letter) 0 c
    match character? value with
    | none => .error ⟨.hexNoCharacter, behind.since c.offset⟩
    | some char => .ok (⟨behind.since start, char, letter = 'x'⟩, behind)

/-- The characters up to a closing brace, white space skipped where it does not count, and the
cursor at the brace. -/
def bracedName : (fuel : Nat) → Text → Cursor → Except Fault (Text × Cursor)
  | 0, _, c => .error (c.faultAt .escapeAtEnd)
  | fuel + 1, name, c =>
    match c.rest with
    | [] => .error (c.faultAt .escapeAtEnd)
    | '}' :: _ => .ok (name.reverse, c)
    | d :: _ => bracedName fuel (d :: name) c.nextSkip

/-- The parts of a text before and behind the first occurrence of a separator. -/
def cut? (sep : Text) : Text → Option (Text × Text)
  | [] => none
  | c :: t =>
    if Text.startsWith sep (c :: t) then some ([], (c :: t).drop sep.length)
    else (cut? sep t).map fun (a, b) => (c :: a, b)

/-- The name and the value in a property escape. The separator `!=` counts before `:`, and that
before `=`. -/
def nameAndValue (t : Text) : Text × Option Text :=
  match ((cut? "!=".toList t).or (cut? [':'] t)).or (cut? ['='] t) with
  | some (name, value) => (name, some value)
  | none => (t, none)

/-- An escape for a property; the cursor is at the letter behind the backslash at `start`. -/
def property (start : Nat) (negated : Bool) (c : Cursor) :
    Except Fault (PropertyClass × Cursor) := do
  let c := c.nextSkip
  match c.rest with
  | [] => .error (c.faultAt .escapeAtEnd)
  | '{' :: rest =>
    let (text, close) ← bracedName (rest.length + 1) [] c.nextSkip
    let (name, value) := nameAndValue text
    .ok (⟨close.next.since start, negated, name, value⟩, close.next)
  | '\\' :: _ => .error (c.faultHere .propertySyntax)
  | letter :: _ => .ok (⟨c.nextSkip.since start, negated, [letter], none⟩, c.nextSkip)

def isBoundaryLetter (c : Char) : Bool := Text.isLetter c || c = '-'

/-- The letters of the name of a word boundary and the place behind them. -/
def boundaryName : (fuel : Nat) → Text → Cursor → Text × Cursor
  | 0, name, c => (name.reverse, c)
  | fuel + 1, name, c =>
    match c.rest with
    | d :: _ =>
      if isBoundaryLetter d then boundaryName fuel (d :: name) c.nextSkip else (name.reverse, c)
    | [] => (name.reverse, c)

def boundaryNamed? (name : Text) : Option Assertion :=
  if name = "start".toList then some .wordStart
  else if name = "end".toList then some .wordEnd
  else if name = "start-half".toList then some .halfStart
  else if name = "end-half".toList then some .halfEnd
  else none

/-- The assertion of `\b` at `start`, the cursor being behind it. Braces with a letter or a hyphen
first name a kind of boundary; other braces say how often to repeat. -/
def boundary (start : Nat) (c : Cursor) : Except Fault (Atom × Cursor) :=
  let plain := (Atom.assertion (c.since start) .boundary, c)
  match c.rest with
  | '{' :: rest =>
    let inside := c.nextSkip
    match inside.rest with
    | [] => .error ⟨.boundaryAtEnd, inside.since start⟩
    | d :: _ =>
      if !isBoundaryLetter d then .ok plain
      else
        let (name, close) := boundaryName (rest.length + 1) [] inside
        match close.rest with
        | '}' :: _ =>
          match boundaryNamed? name with
          | some kind => .ok (.assertion (close.next.since start) kind, close.next)
          | none => .error ⟨.boundaryUnknown, ⟨inside.offset, close.offset⟩⟩
        | _ => .error ⟨.boundaryUnclosed, close.since c.offset⟩
  | _ => .ok plain

def special? : Char → Option Char
  | 'a' => some '\x07'
  | 'f' => some '\x0C'
  | 't' => some '\t'
  | 'n' => some '\n'
  | 'r' => some '\r'
  | 'v' => some '\x0B'
  | _ => none

def assertion? : Char → Option Assertion
  | 'A' => some .textStart
  | 'z' => some .textEnd
  | 'B' => some .noBoundary
  | '<' => some .wordStart
  | '>' => some .wordEnd
  | _ => none

def shorthand? : Char → Option (Shorthand × Bool)
  | 'd' => some (.digit, false)
  | 's' => some (.space, false)
  | 'w' => some (.word, false)
  | 'D' => some (.digit, true)
  | 'S' => some (.space, true)
  | 'W' => some (.word, true)
  | _ => none

/-- The escape at the cursor, which stands at a backslash. -/
def read (c : Cursor) : Except Fault (Atom × Cursor) := do
  let start := c.offset
  let c := c.next
  match c.rest with
  | [] => .error ⟨.escapeAtEnd, c.since start⟩
  | letter :: _ =>
    let behind := c.next
    let span := behind.since start
    if Text.isDigit letter then .error ⟨.backreference, span⟩
    else if letter = 'x' ∨ letter = 'u' ∨ letter = 'U' then
      let (literal, behind) ← hex start letter c
      return (.literal literal, behind)
    else if letter = 'p' ∨ letter = 'P' then
      let (cls, behind) ← property start (letter = 'P') c
      return (.property cls, behind)
    else if letter = 'b' then boundary start behind
    else if isEscapable letter then return (.literal ⟨span, letter, false⟩, behind)
    else match special? letter, assertion? letter, shorthand? letter with
      | some char, _, _ => return (.literal ⟨span, char, false⟩, behind)
      | _, some kind, _ => return (.assertion span kind, behind)
      | _, _, some (kind, negated) => return (.shorthand ⟨span, kind, negated⟩, behind)
      | none, none, none => .error ⟨.escapeUnknown, span⟩

end Escape

namespace Atom

/-- The atom at the cursor, outside brackets. -/
def read (c : Cursor) : Except Fault (Atom × Cursor) :=
  match c.rest with
  | '\\' :: _ => Escape.read c
  | '.' :: _ => .ok (.dot c.here, c.next)
  | '^' :: _ => .ok (.assertion c.here .lineStart, c.next)
  | '$' :: _ => .ok (.assertion c.here .lineEnd, c.next)
  | char :: _ => .ok (.literal ⟨c.here, char, false⟩, c.next)
  | [] => .error (c.faultAt .escapeAtEnd)

/-- The atom at the cursor, between brackets, where only the backslash has a meaning. -/
def readInClass (c : Cursor) : Except Fault (Atom × Cursor) :=
  match c.rest with
  | '\\' :: _ => Escape.read c
  | char :: _ => .ok (.literal ⟨c.here, char, false⟩, c.next)
  | [] => .error (c.faultAt .escapeAtEnd)

end Atom

end Signpost.Pattern
