import Signpost.Pattern.Syntax

/-!
# Places in a pattern

A cursor is a place in a pattern: what is still to be read and how much has been read. Where the
flag `x` is in force, white space and comments, from `#` to the end of the line, may be skipped.
-/

namespace Signpost.Pattern

/-- A place in a pattern. -/
structure Cursor where
  rest : Text
  offset : Nat
  /-- Whether white space and comments do not count. -/
  ignoreSpace : Bool
deriving DecidableEq, Repr

namespace Cursor

def start (source : Text) : Cursor := ⟨source, 0, false⟩

def atEnd (c : Cursor) : Bool := c.rest.isEmpty

/-- The place behind the next `n` characters. -/
def drop (c : Cursor) (n : Nat) : Cursor :=
  { c with rest := c.rest.drop n, offset := c.offset + min n c.rest.length }

def next (c : Cursor) : Cursor := c.drop 1

def here (c : Cursor) : Span := ⟨c.offset, c.offset + 1⟩

def since (c : Cursor) (start : Nat) : Span := ⟨start, c.offset⟩

def faultAt (c : Cursor) (breach : Breach) : Fault := ⟨breach, .at c.offset⟩

def faultHere (c : Cursor) (breach : Breach) : Fault := ⟨breach, c.here⟩

/-- The length of the white space and comments at the head of a text; `comment` tells that it
begins inside a comment. -/
def blankLength : (comment : Bool) → Text → Nat
  | _, [] => 0
  | true, c :: rest => blankLength (c != '\n') rest + 1
  | false, c :: rest =>
    if Text.isBlank c then blankLength false rest + 1
    else if c = '#' then blankLength true rest + 1
    else 0

/-- The place behind white space and comments, where they do not count. -/
def skip (c : Cursor) : Cursor :=
  if c.ignoreSpace then c.drop (blankLength false c.rest) else c

/-- The place behind the next character and white space and comments after it. -/
def nextSkip (c : Cursor) : Cursor := c.next.skip

/-- What follows `lead`, when it is next. -/
def accept? (c : Cursor) (lead : String) : Option Cursor :=
  if Text.startsWith lead.toList c.rest then some (c.drop lead.length) else none

/-- The first character of a text behind white space; one comment sign is passed over as well. The
head of the text itself if there is nothing else. -/
def visible? (t : Text) : Option Char :=
  let rest := t.dropWhile Text.isBlank
  let rest := match rest with
    | '#' :: rest => rest.dropWhile Text.isBlank
    | rest => rest
  rest.head?.or t.head?

/-- The character behind the next one, white space not counted where it does not count. -/
def peek? (c : Cursor) : Option Char :=
  if c.ignoreSpace then visible? (c.rest.drop 1) else c.rest[1]?

end Cursor

end Signpost.Pattern
