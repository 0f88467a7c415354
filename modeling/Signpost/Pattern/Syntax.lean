import Signpost.Pattern.Fault

/-!
# The syntax of patterns

A pattern as it is written: what it is made of, with the part of the pattern that each piece takes
up. What the pieces match depends on the flags in force where they stand.
-/

namespace Signpost.Pattern

/-- A character that stands for itself, or an escape for one. `byte` tells that it is written as two
hexadecimal digits behind `\x`, which without Unicode stands for a byte. -/
structure Literal where
  span : Span
  char : Char
  byte : Bool
deriving DecidableEq, Repr

/-- The classes with one-letter escapes. -/
inductive Shorthand where
  | digit | space | word
deriving DecidableEq, Repr

/-- A one-letter escape for a class. -/
structure ShorthandClass where
  span : Span
  kind : Shorthand
  negated : Bool
deriving DecidableEq, Repr

/-- An escape for the characters with a property; `value` is given when the property has several. -/
structure PropertyClass where
  span : Span
  negated : Bool
  name : Text
  value : Option Text
deriving DecidableEq, Repr

/-- The ways to combine two classes inside brackets. -/
inductive SetOperation where
  | intersection | difference | symmetricDifference
deriving DecidableEq, Repr

/-- What stands between brackets. -/
inductive ClassSet where
  /-- Nothing, between two operators. -/
  | nothing (span : Span)
  | literal (literal : Literal)
  | range (span : Span) (first last : Literal)
  /-- A class with a name, such as `[:alpha:]`. -/
  | named (span : Span) (members : List (Char × Char)) (negated : Bool)
  | property (cls : PropertyClass)
  | shorthand (cls : ShorthandClass)
  | bracket (span : Span) (negated : Bool) (inner : ClassSet)
  /-- Several items, of which each may match. -/
  | union (span : Span) (items : List ClassSet)
  | operation (span : Span) (op : SetOperation) (left right : ClassSet)
deriving Repr

def ClassSet.span : ClassSet → Span
  | nothing span => span
  | literal l => l.span
  | range span _ _ => span
  | named span _ _ => span
  | property cls => cls.span
  | shorthand cls => cls.span
  | bracket span _ _ => span
  | union span _ => span
  | operation span _ _ _ => span

/-- What a place in a text may be asked for. -/
inductive Assertion where
  | lineStart | lineEnd | textStart | textEnd
  | boundary | noBoundary
  | wordStart | wordEnd | halfStart | halfEnd
deriving DecidableEq, Repr

/-- The flags of a pattern. -/
inductive Flag where
  | ignoreCase | multiLine | dotAll | swapGreed | unicode | carriageReturn | ignoreSpace
deriving DecidableEq, Repr

/-- One item of a list of flags; behind a negation flags are switched off. -/
inductive FlagItem where
  | negation
  | flag (flag : Flag)
deriving DecidableEq, Repr

abbrev FlagList := List (Span × FlagItem)

/-- What a list of flags says on one of them, if anything. -/
def FlagList.state? (flag : Flag) : FlagList → Option Bool
  | [] => none
  | (_, .flag f) :: rest => if f = flag then some true else state? flag rest
  | (_, .negation) :: rest =>
    if rest.any (fun item => item.2 = .flag flag) then some false else none

/-- A pattern, or a part of one. -/
inductive Term where
  | empty (span : Span)
  /-- Flags for what follows in the same group. -/
  | flags (span : Span) (items : FlagList)
  | literal (literal : Literal)
  | dot (span : Span)
  | assertion (span : Span) (kind : Assertion)
  | property (cls : PropertyClass)
  | shorthand (cls : ShorthandClass)
  | brackets (set : ClassSet)
  /-- The inner term at least `least` times and at most `most` times, if there is a bound. -/
  | repetition (span : Span) (inner : Term) (least : Nat) (most : Option Nat)
  | group (span : Span) (flags : FlagList) (inner : Term)
  | alternation (span : Span) (branches : List Term)
  | sequence (span : Span) (parts : List Term)
deriving Repr

def Term.span : Term → Span
  | empty span => span
  | flags span _ => span
  | literal l => l.span
  | dot span => span
  | assertion span _ => span
  | property cls => cls.span
  | shorthand cls => cls.span
  | brackets set => set.span
  | repetition span _ _ _ => span
  | group span _ _ => span
  | alternation span _ => span
  | sequence span _ => span

/-! ## Depth -/

/-- How many terms and classes may stand inside each other. -/
def depthLimit : Nat := 250

def deeper (depth : Nat) (span : Span) : Except Fault Nat :=
  if depth < depthLimit then .ok (depth + 1) else .error ⟨.tooDeep depthLimit, span⟩

mutual

/-- Checks the depth of a set that stands at a depth. -/
def ClassSet.checkDepth (depth : Nat) : ClassSet → Except Fault Unit
  | .bracket span _ inner => do
    let depth ← deeper depth span
    inner.checkDepth depth
  | .union span items => do
    let depth ← deeper depth span
    ClassSet.checkAllDepths depth items
  | .operation span _ left right => do
    let depth ← deeper depth span
    left.checkDepth depth
    right.checkDepth depth
  | _ => .ok ()

/-- Checks the depth of sets that stand at a depth. -/
def ClassSet.checkAllDepths (depth : Nat) : List ClassSet → Except Fault Unit
  | [] => .ok ()
  | item :: rest => do
    item.checkDepth depth
    ClassSet.checkAllDepths depth rest

end

mutual

/-- Checks the depth of a term that stands at a depth. -/
def Term.checkDepth (depth : Nat) : Term → Except Fault Unit
  | .brackets set => set.checkDepth depth
  | .repetition span inner _ _ => do
    let depth ← deeper depth span
    inner.checkDepth depth
  | .group span _ inner => do
    let depth ← deeper depth span
    inner.checkDepth depth
  | .alternation span branches => do
    let depth ← deeper depth span
    Term.checkAllDepths depth branches
  | .sequence span parts => do
    let depth ← deeper depth span
    Term.checkAllDepths depth parts
  | _ => .ok ()

/-- Checks the depth of terms that stand at a depth. -/
def Term.checkAllDepths (depth : Nat) : List Term → Except Fault Unit
  | [] => .ok ()
  | term :: rest => do
    term.checkDepth depth
    Term.checkAllDepths depth rest

end

end Signpost.Pattern
