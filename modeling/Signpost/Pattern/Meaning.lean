import Signpost.Pattern.Expr
import Signpost.Pattern.Folding
import Signpost.Pattern.Property
import Signpost.Pattern.Syntax

/-!
# What patterns mean

A term is turned into a regular expression under the flags in force. Without the flag `u` a class
holds ASCII characters only: anything that could match a byte that is no character is refused.
-/

namespace Signpost.Pattern

/-- The flags that a meaning depends on. -/
structure Mode where
  ignoreCase : Bool
  multiLine : Bool
  dotAll : Bool
  unicode : Bool
  carriageReturn : Bool
deriving DecidableEq, Repr

namespace Mode

def initial : Mode := ⟨false, false, false, true, false⟩

def update (mode : Mode) (items : FlagList) : Mode where
  ignoreCase := (items.state? .ignoreCase).getD mode.ignoreCase
  multiLine := (items.state? .multiLine).getD mode.multiLine
  dotAll := (items.state? .dotAll).getD mode.dotAll
  unicode := (items.state? .unicode).getD mode.unicode
  carriageReturn := (items.state? .carriageReturn).getD mode.carriageReturn

/-- The set as it is when case does not count, where it does not. -/
def fold (mode : Mode) (set : CharSet) : CharSet :=
  if !mode.ignoreCase then set
  else if mode.unicode then Folding.close set
  else Folding.closeAscii set

/-- The set or, if negated, the other characters. Without Unicode the others would be bytes. -/
def negate (mode : Mode) (span : Span) (negated : Bool) (set : CharSet) :
    Except Fault CharSet :=
  if !negated then .ok set
  else if mode.unicode then .ok set.complement
  else .error ⟨.noText, span⟩

def wordPart (mode : Mode) : CharSet :=
  if mode.unicode then Trait.wordPart
  else .ofRanges [(0x30, 0x39), (0x41, 0x5A), (0x5F, 0x5F), (0x61, 0x7A)]

/-- The members of a class with a one-letter escape. -/
def shorthand (mode : Mode) (kind : Shorthand) : CharSet :=
  match kind with
  | .word => mode.wordPart
  | .digit => if mode.unicode then Category.digits else .ofRanges [(0x30, 0x39)]
  | .space =>
    if mode.unicode then Trait.whiteSpace else .ofRanges [(0x09, 0x0D), (0x20, 0x20)]

end Mode

/-- The characters of a one-letter escape. -/
def ShorthandClass.chars (cls : ShorthandClass) (mode : Mode) : Except Fault CharSet :=
  mode.negate cls.span cls.negated (mode.shorthand cls.kind)

/-- The characters of a property escape. Case is folded before it is negated. -/
def PropertyClass.chars (cls : PropertyClass) (mode : Mode) : Except Fault CharSet :=
  if !mode.unicode then .error ⟨.unicodeDisabled, cls.span⟩
  else
    let found := match cls.value with
      | none => Property.find cls.name
      | some value => Property.findValue cls.name value
    match found with
    | .ok set => mode.negate cls.span cls.negated (mode.fold set)
    | .error .name => .error ⟨.propertyUnknown, cls.span⟩
    | .error .value => .error ⟨.propertyValueUnknown, cls.span⟩

/-- The character of a literal. Without Unicode an escape of a byte that is no ASCII character is
refused. -/
def Literal.meaning (l : Literal) (mode : Mode) : Except Fault Char :=
  if !mode.unicode && l.byte && 0x7F < l.char.toNat then .error ⟨.noText, l.span⟩ else .ok l.char

/-- The character of a literal in brackets, where without Unicode only ASCII may stand. -/
def Literal.member (l : Literal) (mode : Mode) : Except Fault Char := do
  let char ← l.meaning mode
  if !mode.unicode && 0x7F < char.toNat then .error ⟨.unicodeDisabled, l.span⟩ else return char

def SetOperation.apply : SetOperation → CharSet → CharSet → CharSet
  | .intersection, s, t => s.intersection t
  | .difference, s, t => s.difference t
  | .symmetricDifference, s, t => s.symmetricDifference t

mutual

/-- The characters of a set. Case is folded at the sides of an operator and at the end of each pair
of brackets, there before it is negated. -/
def ClassSet.chars (mode : Mode) : ClassSet → Except Fault CharSet
  | .nothing _ => .ok .empty
  | .literal l => do
    return .single (← l.member mode)
  | .range _ first last => do
    let lower ← first.member mode
    let upper ← last.member mode
    return .between lower upper
  | .named span members negated =>
    mode.negate span negated
      (mode.fold (.ofRanges (members.map fun (a, b) => (a.toNat, b.toNat))))
  | .property cls => cls.chars mode
  | .shorthand cls => cls.chars mode
  | .bracket span negated inner => do
    let set ← inner.chars mode
    mode.negate span negated (mode.fold set)
  | .union _ items => ClassSet.charsOfAll mode items
  | .operation _ op left right => do
    let s ← left.chars mode
    let t ← right.chars mode
    return op.apply (mode.fold s) (mode.fold t)

def ClassSet.charsOfAll (mode : Mode) : List ClassSet → Except Fault CharSet
  | [] => .ok .empty
  | item :: rest => do
    let s ← item.chars mode
    let t ← ClassSet.charsOfAll mode rest
    return s.union t

end

def Assertion.look (mode : Mode) : Assertion → Look
  | .lineStart => if mode.multiLine then .lineStart mode.carriageReturn else .textStart
  | .lineEnd => if mode.multiLine then .lineEnd mode.carriageReturn else .textEnd
  | .textStart => .textStart
  | .textEnd => .textEnd
  | .boundary => .boundary mode.wordPart
  | .noBoundary => .noBoundary mode.wordPart
  | .wordStart => .wordStart mode.wordPart
  | .wordEnd => .wordEnd mode.wordPart
  | .halfStart => .halfStart mode.wordPart
  | .halfEnd => .halfEnd mode.wordPart

/-- The characters that the dot matches: those that end no line, or all of them. -/
def Mode.dot (mode : Mode) : CharSet :=
  if mode.dotAll then .all
  else if mode.carriageReturn then
    (CharSet.ofRanges [(0x0A, 0x0A), (0x0D, 0x0D)]).complement
  else (CharSet.single '\n').complement

mutual

/-- The regular expression of a term, and the flags in force behind it. -/
def Term.meaning (mode : Mode) : Term → Except Fault (Expr × Mode)
  | .empty _ => .ok (.empty, mode)
  | .flags _ items => .ok (.empty, mode.update items)
  | .literal l => do
    return (.chars (mode.fold (.single (← l.meaning mode))), mode)
  | .dot span =>
    if mode.unicode then .ok (.chars mode.dot, mode) else .error ⟨.noText, span⟩
  | .assertion _ kind => .ok (.look (kind.look mode), mode)
  | .property cls => do
    return (.chars (← cls.chars mode), mode)
  | .shorthand cls => do
    return (.chars (← cls.chars mode), mode)
  | .brackets set => do
    return (.chars (← set.chars mode), mode)
  | .repetition _ inner least most => do
    let (e, mode) ← inner.meaning mode
    return (.repetition e least most, mode)
  | .group _ items inner => do
    let (e, _) ← inner.meaning (mode.update items)
    return (e, mode)
  | .alternation _ branches => Term.meaningOfAny mode branches
  | .sequence _ parts => Term.meaningOfAll mode parts

/-- The regular expression of terms of which one must match. Flags of one branch hold in those
behind it. -/
def Term.meaningOfAny (mode : Mode) : List Term → Except Fault (Expr × Mode)
  | [] => .ok (.chars .empty, mode)
  | term :: rest => do
    let (a, mode) ← term.meaning mode
    let (b, mode) ← Term.meaningOfAny mode rest
    return (.alt a b, mode)

/-- The regular expression of terms that must match one behind the other. -/
def Term.meaningOfAll (mode : Mode) : List Term → Except Fault (Expr × Mode)
  | [] => .ok (.empty, mode)
  | term :: rest => do
    let (a, mode) ← term.meaning mode
    let (b, mode) ← Term.meaningOfAll mode rest
    return (.seq a b, mode)

end

end Signpost.Pattern
