import Signpost.Pattern.Escape

/-!
# Classes in brackets

A class lists characters, ranges, other classes and combinations of them. Operators of two equal
signs combine everything before them, back to the opening bracket, with what follows.
-/

namespace Signpost.Pattern

namespace ClassSet

/-- Items read so far, the last one first, and the part that they take up. -/
structure Items where
  span : Span
  reversed : List ClassSet
deriving Repr

namespace Items

def none (offset : Nat) : Items := ⟨.at offset, []⟩

def push (items : Items) (item : ClassSet) : Items :=
  if items.reversed.isEmpty then ⟨item.span, [item]⟩
  else ⟨⟨items.span.start, item.span.stop⟩, item :: items.reversed⟩

/-- The set of all items; a single item stands for itself. -/
def toClassSet (items : Items) : ClassSet :=
  match items.reversed with
  | [] => .nothing items.span
  | [item] => item
  | _ => .union items.span items.reversed.reverse

end Items

/-- A bracket that is still open: its beginning, whether it is negated, the operator and the set
before it that wait for the items being read, and these items. -/
structure Open where
  opening : Span
  negated : Bool
  pending : Option (SetOperation × ClassSet)
  items : Items
deriving Repr

namespace Open

/-- What the bracket holds if nothing more follows. -/
def content (bracket : Open) : ClassSet :=
  let last := bracket.items.toClassSet
  match bracket.pending with
  | some (op, left) => .operation ⟨left.span.start, last.span.stop⟩ op left last
  | none => last

/-- The bracket with one more item. -/
def push (bracket : Open) (item : ClassSet) : Open :=
  { bracket with items := bracket.items.push item }

/-- The bracket behind an operator that ends at a place. -/
def operate (bracket : Open) (op : SetOperation) (offset : Nat) : Open :=
  { bracket with pending := some (op, bracket.content), items := .none offset }

end Open

def leadingHyphens (start : Nat) : (fuel : Nat) → Items → Cursor → Except Fault (Items × Cursor)
  | 0, items, c => .ok (items, c)
  | fuel + 1, items, c =>
    match c.rest with
    | '-' :: _ =>
      let behind := c.nextSkip
      if behind.atEnd then .error ⟨.classUnclosed, .at start⟩
      else leadingHyphens start fuel (items.push (.literal ⟨c.here, '-', false⟩)) behind
    | _ => .ok (items, c)

/-- The beginning of a class: the bracket, a negation, hyphens that stand for themselves, and
failing these a closing bracket that does so. -/
def openBracket (c : Cursor) : Except Fault (Open × Cursor) := do
  let start := c.offset
  let unclosed (c : Cursor) : Except Fault (Open × Cursor) :=
    .error ⟨.classUnclosed, c.since start⟩
  let inside := c.nextSkip
  if inside.atEnd then unclosed inside
  else
    let negated := inside.rest.head? = some '^'
    let inside := if negated then inside.nextSkip else inside
    if inside.atEnd then unclosed inside
    else
      let (items, inside) ←
        leadingHyphens start (inside.rest.length + 1) (.none inside.offset) inside
      match items.reversed, inside.rest with
      | [], ']' :: _ =>
        let behind := inside.nextSkip
        if behind.atEnd then unclosed behind
        else return (⟨behind.since start, negated, none,
          items.push (.literal ⟨inside.here, ']', false⟩)⟩, behind)
      | _, _ => return (⟨inside.since start, negated, none, items⟩, inside)

/-- The classes of ASCII characters with a name. -/
def named? (name : Text) : Option (List (Char × Char)) :=
  [("alnum", [('0', '9'), ('A', 'Z'), ('a', 'z')]),
    ("alpha", [('A', 'Z'), ('a', 'z')]),
    ("ascii", [('\x00', '\x7F')]),
    ("blank", [('\t', '\t'), (' ', ' ')]),
    ("cntrl", [('\x00', '\x1F'), ('\x7F', '\x7F')]),
    ("digit", [('0', '9')]),
    ("graph", [('!', '~')]),
    ("lower", [('a', 'z')]),
    ("print", [(' ', '~')]),
    ("punct", [('!', '/'), (':', '@'), ('[', '\x60'), ('\x7B', '~')]),
    ("space", [('\t', '\r'), (' ', ' ')]),
    ("upper", [('A', 'Z')]),
    ("word", [('0', '9'), ('A', 'Z'), ('_', '_'), ('a', 'z')]),
    ("xdigit", [('0', '9'), ('A', 'F'), ('a', 'f')])].findSome? fun (known, members) =>
      if known.toList = name then some members else none

/-- A class with a name, such as `[:alpha:]` or `[:^alpha:]`, if there is one at the cursor. -/
def readNamed? (c : Cursor) : Option (ClassSet × Cursor) := do
  let inside ← c.accept? "[:"
  let negated := inside.rest.head? = some '^'
  let inside := if negated then inside.next else inside
  let name := inside.rest.takeWhile (· != ':')
  let members ← named? name
  let behind ← (inside.drop name.length).accept? ":]"
  return (.named (behind.since c.offset) members negated, behind)

def operator? : Text → Option SetOperation
  | '&' :: '&' :: _ => some .intersection
  | '-' :: '-' :: _ => some .difference
  | '~' :: '~' :: _ => some .symmetricDifference
  | _ => none

/-- A member of the class that opens with `opening`: a character, an escape, or a range. A hyphen
before a closing bracket or another hyphen makes no range. -/
def readMember (opening : Span) (c : Cursor) : Except Fault (ClassSet × Cursor) := do
  let (first, behind) ← Atom.readInClass c
  let behind := behind.skip
  match behind.rest with
  | [] => .error ⟨.classUnclosed, opening⟩
  | '-' :: _ =>
    if behind.peek? = some ']' ∨ behind.peek? = some '-' then
      return (← first.toClassSet, behind)
    else
      let second := behind.nextSkip
      if second.atEnd then .error ⟨.classUnclosed, opening⟩
      else
        let (last, behind) ← Atom.readInClass second
        let span : Span := ⟨first.span.start, last.span.stop⟩
        let lower ← first.toBound
        let upper ← last.toBound
        if lower.char ≤ upper.char then return (.range span lower upper, behind)
        else .error ⟨.classOrder, span⟩
  | _ => return (← first.toClassSet, behind)

/-- The rest of a class, `top` being the innermost open bracket and `outer` those around it.
Every round uses up a character. -/
def readRest : (fuel : Nat) → (top : Open) → (outer : List Open) → Cursor →
    Except Fault (ClassSet × Cursor)
  | 0, top, _, _ => .error ⟨.classUnclosed, top.opening⟩
  | fuel + 1, top, outer, c => do
    let c := c.skip
    match c.rest with
    | [] => .error ⟨.classUnclosed, top.opening⟩
    | '[' :: _ =>
      match readNamed? c with
      | some (item, behind) => readRest fuel (top.push item) outer behind
      | none =>
        let (inner, behind) ← openBracket c
        readRest fuel inner (top :: outer) behind
    | ']' :: _ =>
      let behind := c.next
      let set := ClassSet.bracket (behind.since top.opening.start) top.negated top.content
      match outer with
      | [] => return (set, behind)
      | parent :: outer => readRest fuel (parent.push set) outer behind
    | rest =>
      match operator? rest with
      | some op =>
        let behind := c.drop 2
        readRest fuel (top.operate op behind.offset) outer behind
      | none =>
        let (item, behind) ← readMember top.opening c
        readRest fuel (top.push item) outer behind

/-- The class at the cursor, which stands at an opening bracket. -/
def read (c : Cursor) : Except Fault (ClassSet × Cursor) := do
  let (top, behind) ← openBracket c
  readRest (behind.rest.length + 1) top [] behind

end ClassSet

end Signpost.Pattern
