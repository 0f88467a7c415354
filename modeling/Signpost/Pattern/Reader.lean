import Signpost.Pattern.Bracket
import Signpost.Pattern.Property

/-!
# Reading patterns

A pattern is read from left to right with a stack of the groups that are open. A repetition takes
the piece before it; a bar ends a branch; flags hold to the end of their group.
-/

namespace Signpost.Pattern

/-- A group level being read: the branches ended so far and the pieces of the current branch, the
last ones first, with the places where the level and the current branch begin. -/
structure Level where
  start : Nat
  branches : List Term
  branchStart : Nat
  parts : List Term
deriving Repr

namespace Level

def new (offset : Nat) : Level := ⟨offset, [], offset, []⟩

def push (level : Level) (term : Term) : Level := { level with parts := term :: level.parts }

/-- The current branch, if it ends at a place. A single piece stands for itself. -/
def branch (level : Level) (stop : Nat) : Term :=
  match level.parts with
  | [] => .empty ⟨level.branchStart, stop⟩
  | [term] => term
  | _ => .sequence ⟨level.branchStart, stop⟩ level.parts.reverse

/-- The level behind a bar at a place; the next branch begins at the bar. -/
def bar (level : Level) (offset : Nat) : Level :=
  ⟨level.start, level.branch offset :: level.branches, offset + 1, []⟩

def content (level : Level) (stop : Nat) : Term :=
  match level.branches with
  | [] => level.branch stop
  | branches => .alternation ⟨level.start, stop⟩ (level.branch stop :: branches).reverse

end Level

/-- A group that is still open: its opening bracket, its flags, the level around it, and whether
white space counted before it. -/
structure OpenGroup where
  opening : Span
  flags : FlagList
  outer : Level
  ignoreSpace : Bool
deriving Repr

/-- Where the reading of a pattern has come to: the names of groups so far with their parts of the
pattern, the open groups, and the level being read. -/
structure Reading where
  cursor : Cursor
  names : List (Text × Span)
  openGroups : List OpenGroup
  level : Level
deriving Repr

namespace Reading

def start (source : Text) : Reading := ⟨.start source, [], [], .new 0⟩

def push (r : Reading) (term : Term) (behind : Cursor) : Reading :=
  { r with cursor := behind, level := r.level.push term }

/-! ## Groups -/

/-- Whether a character may stand in the name of a group; `first` tells that it is the first. -/
def isNameCharacter (first : Bool) (c : Char) : Bool :=
  if c.toNat ≤ 0x7F then
    c = '_' || Text.isLetter c ||
      (!first && (Text.isDigit c || c = '.' || c = '[' || c = ']'))
  else Trait.alphabetic.contains c ||
    (!first && (Category.members ["Nd".toList, "Nl".toList, "No".toList]).contains c)

/-- The name of a group up to its angle bracket, and the cursor at the bracket. -/
def groupName (first : Bool) : (fuel : Nat) → Text → Cursor → Except Fault (Text × Cursor)
  | 0, _, c => .error (c.faultAt .groupNameUnclosed)
  | fuel + 1, name, c =>
    match c.rest with
    | [] => .error (c.faultAt .groupNameUnclosed)
    | '>' :: _ => .ok (name.reverse, c)
    | d :: _ =>
      if isNameCharacter first d then groupName false fuel (d :: name) c.next
      else .error (c.faultHere .groupNameCharacter)

def flag? : Char → Option Flag
  | 'i' => some .ignoreCase
  | 'm' => some .multiLine
  | 's' => some .dotAll
  | 'U' => some .swapGreed
  | 'u' => some .unicode
  | 'R' => some .carriageReturn
  | 'x' => some .ignoreSpace
  | _ => none

/-- The item of a list of flags that equals another, if there is one. -/
def repeated? (items : FlagList) (item : FlagItem) : Option Span :=
  (items.find? (·.2 = item)).map (·.1)

/-- The flags up to a colon or a closing bracket; `negation` is a minus sign just read. -/
def flagList : (fuel : Nat) → (negation : Option Span) → FlagList → Cursor →
    Except Fault (FlagList × Cursor)
  | 0, _, _, c => .error (c.faultAt .flagAtEnd)
  | fuel + 1, negation, items, c =>
    match c.rest with
    | [] => .error (c.faultAt .flagAtEnd)
    | letter :: _ =>
      if letter = ':' ∨ letter = ')' then
        match negation with
        | some span => .error ⟨.flagDangling, span⟩
        | none => .ok (items, c)
      else if letter = '-' then
        match repeated? items .negation with
        | some first => .error (c.faultHere (.flagNegatedTwice first))
        | none => flagList fuel (some c.here) (items ++ [(c.here, .negation)]) c.next
      else match flag? letter with
        | none => .error (c.faultHere .flagUnknown)
        | some flag =>
          match repeated? items (.flag flag) with
          | some first => .error (c.faultHere (.flagRepeated first))
          | none => flagList fuel none (items ++ [(c.here, .flag flag)]) c.next

/-- The reading inside a group that opens with the bracket `opening` and has the flags `flags`. -/
def enter (r : Reading) (opening : Span) (flags : FlagList) (inside : Cursor) : Reading :=
  let ignoreSpace := (flags.state? .ignoreSpace).getD inside.ignoreSpace
  { r with
    cursor := { inside with ignoreSpace }
    openGroups := ⟨opening, flags, r.level, inside.ignoreSpace⟩ :: r.openGroups
    level := .new inside.offset }

/-- The reading inside a group with a name; the cursor is behind the opening angle bracket. -/
def enterNamed (r : Reading) (opening : Span) (c : Cursor) : Except Fault Reading := do
  let (name, close) ← groupName true (c.rest.length + 1) [] c
  let span := close.since c.offset
  if name.isEmpty then .error ⟨.groupNameEmpty, span⟩
  else match r.names.find? (·.1 = name) with
    | some (_, first) => .error ⟨.groupNameRepeated first, span⟩
    | none => return { r with names := (name, span) :: r.names }.enter opening [] close.next

/-- The reading behind what opens a group, or behind a group of flags. -/
def openGroup (r : Reading) (c : Cursor) : Except Fault Reading := do
  let opening := c.here
  let inside := c.next.skip
  match ["?=", "?!", "?<=", "?<!"].findSome? inside.accept? with
  | some behind => .error ⟨.lookAround, behind.since c.offset⟩
  | none =>
    match (inside.accept? "?P<").or (inside.accept? "?<"), inside.accept? "?" with
    | some behind, _ => r.enterNamed opening behind
    | none, none => return r.enter opening [] inside
    | none, some behind =>
      if behind.atEnd then .error ⟨.groupUnclosed, opening⟩
      else
        let (items, close) ← flagList (behind.rest.length + 1) none [] behind
        if close.rest.head? = some ':' then return r.enter opening items close.next
        else if items.isEmpty then .error (inside.faultAt .repetitionOfNothing)
        else
          let behind := close.next
          let ignoreSpace := (FlagList.state? .ignoreSpace items).getD behind.ignoreSpace
          return r.push (.flags (behind.since c.offset) items) { behind with ignoreSpace }

/-- The reading behind the closing bracket of a group. -/
def closeGroup (r : Reading) (c : Cursor) : Except Fault Reading :=
  match r.openGroups with
  | [] => .error (c.faultHere .groupUnopened)
  | group :: outer =>
    let behind := { c.next with ignoreSpace := group.ignoreSpace }
    let term := Term.group (behind.since group.opening.start) group.flags
      (r.level.content c.offset)
    .ok { r with cursor := behind, openGroups := outer, level := group.outer.push term }

/-! ## Repetitions -/

/-- The piece that a repetition sign at the cursor repeats, and the level without it. Flags cannot
be repeated. -/
def repeatable (r : Reading) (c : Cursor) : Except Fault (Term × Level) :=
  match r.level.parts with
  | [] => .error (c.faultAt .repetitionOfNothing)
  | .empty _ :: _ => .error (c.faultAt .repetitionOfNothing)
  | .flags _ _ :: _ => .error (c.faultAt .repetitionOfNothing)
  | term :: parts => .ok (term, { r.level with parts })

/-- A question mark behind a repetition only changes which match is preferred. -/
def passLazy (c : Cursor) : Cursor := if c.rest.head? = some '?' then c.next else c

def pushRepetition (r : Reading) (term : Term) (level : Level) (least : Nat) (most : Option Nat)
    (behind : Cursor) : Reading :=
  { r with
    cursor := behind
    level := level.push (.repetition (behind.since term.span.start) term least most) }

def repeatSign (r : Reading) (least : Nat) (most : Option Nat) (c : Cursor) :
    Except Fault Reading := do
  let (term, level) ← r.repeatable c
  return r.pushRepetition term level least most (passLazy c.next)

def greatestCount : Nat := 0xFFFFFFFF

/-- Digits with what may be skipped after each, the cursor behind them. -/
def digits : (fuel : Nat) → Text → Cursor → Text × Cursor
  | 0, read, c => (read.reverse, c)
  | fuel + 1, read, c =>
    match c.rest with
    | d :: _ => if Text.isDigit d then digits fuel (d :: read) c.nextSkip else (read.reverse, c)
    | [] => (read.reverse, c)

/-- The place behind white space, each character of which is passed by `step`. -/
def passBlanks (step : Cursor → Cursor) : (fuel : Nat) → Cursor → Cursor
  | 0, c => c
  | fuel + 1, c =>
    match c.rest with
    | d :: _ => if Text.isBlank d then passBlanks step fuel (step c) else c
    | [] => c

/-- A number of repetitions, or what is wrong with it, and the place behind it. White space around
it does not count. -/
def count (c : Cursor) : Except Fault Nat × Cursor :=
  let fuel := c.rest.length
  let first := passBlanks Cursor.next fuel c
  let (read, last) := digits fuel [] first
  let span := last.since first.offset
  let behind := passBlanks Cursor.nextSkip fuel last
  let value := read.foldl (fun n d => n * 10 + (d.toNat - 48)) 0
  if read.isEmpty then (.error ⟨.repetitionNumber, span⟩, behind)
  else if value ≤ greatestCount then (.ok value, behind)
  else (.error ⟨.numberTooLarge, span⟩, behind)

/-- The bounds in braces, the cursor being behind the opening brace at `start`, and the place of the
closing one. -/
def bounds (start : Nat) (c : Cursor) : Except Fault (Nat × Option Nat × Cursor) := do
  let unclosed {α : Type} (c : Cursor) : Except Fault α :=
    .error ⟨.repetitionUnclosed, c.since start⟩
  let (least, c) := count c
  if c.atEnd then unclosed c
  else if c.rest.head? = some ',' then
    let c := c.nextSkip
    if c.atEnd then unclosed c
    else if c.rest.head? = some '}' then return (← least, none, c)
    else
      let least ← least
      let (most, c) := count c
      return (least, some (← most), c)
  else
    let least ← least
    return (least, some least, c)

def repeatBraces (r : Reading) (c : Cursor) : Except Fault Reading := do
  let (term, level) ← r.repeatable c
  let inside := c.nextSkip
  if inside.atEnd then .error ⟨.repetitionUnclosed, inside.since c.offset⟩
  else
    let (least, most, close) ← bounds c.offset inside
    if close.rest.head? ≠ some '}' then .error ⟨.repetitionUnclosed, close.since c.offset⟩
    else
      let behind := passLazy close.nextSkip
      if most.any (· < least) then .error ⟨.repetitionOrder, behind.since c.offset⟩
      else return r.pushRepetition term level least most behind

/-! ## Patterns -/

/-- The reading behind the next piece, which is at the cursor `c`. -/
def step (r : Reading) (c : Cursor) : Except Fault Reading :=
  match c.rest with
  | '(' :: _ => r.openGroup c
  | ')' :: _ => r.closeGroup c
  | '|' :: _ => .ok { r with cursor := c.next, level := r.level.bar c.offset }
  | '[' :: _ => do
    let (set, behind) ← ClassSet.read c
    return r.push (.brackets set) behind
  | '?' :: _ => r.repeatSign 0 (some 1) c
  | '*' :: _ => r.repeatSign 0 none c
  | '+' :: _ => r.repeatSign 1 none c
  | '{' :: _ => r.repeatBraces c
  | _ => do
    let (atom, behind) ← Atom.read c
    return r.push atom.toTerm behind

/-- The term of a reading that has come to the end of the pattern. -/
def finish (r : Reading) (c : Cursor) : Except Fault Term :=
  match r.openGroups with
  | [] => .ok (r.level.content c.offset)
  | group :: _ => .error ⟨.groupUnclosed, group.opening⟩

/-- The term of a whole pattern. Every round uses up a character. -/
def run : (fuel : Nat) → Reading → Except Fault Term
  | 0, r => r.finish r.cursor
  | fuel + 1, r =>
    let c := r.cursor.skip
    if c.atEnd then r.finish c
    else do
      let r ← r.step c
      run fuel r

end Reading

/-- Reads a pattern and checks how deep its pieces stand inside each other. -/
def Term.read (source : Text) : Except Fault Term := do
  let term ← Reading.run (source.length + 1) (.start source)
  term.checkDepth 0
  return term

end Signpost.Pattern
