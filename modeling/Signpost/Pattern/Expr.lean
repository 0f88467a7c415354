import Signpost.Pattern.CharSet

/-!
# Matching

What a pattern means: a regular expression over characters and over questions on places in a text.
An expression is run on sets of places: it takes the places where a match may begin to those where
it may end.
-/

namespace Signpost.Pattern

/-- A question on a place between two characters of a text. -/
inductive Look where
  | textStart | textEnd
  /-- Whether a line begins or ends here; `returns` tells that a carriage return ends a line too. -/
  | lineStart (returns : Bool) | lineEnd (returns : Bool)
  /-- Whether just one of the neighbours is part of a word. -/
  | boundary (word : CharSet) | noBoundary (word : CharSet)
  | wordStart (word : CharSet) | wordEnd (word : CharSet)
  | halfStart (word : CharSet) | halfEnd (word : CharSet)
deriving DecidableEq, Repr

def Look.holds (before behind : Option Char) : Look → Bool
  | textStart => before.isNone
  | textEnd => behind.isNone
  | lineStart false => before.isNone || before = some '\n'
  | lineEnd false => behind.isNone || behind = some '\n'
  | lineStart true =>
    before.isNone || before = some '\n' || (before = some '\r' && behind != some '\n')
  | lineEnd true =>
    behind.isNone || behind = some '\r' || (behind = some '\n' && before != some '\r')
  | boundary word => before.any word.contains != behind.any word.contains
  | noBoundary word => before.any word.contains == behind.any word.contains
  | wordStart word => !before.any word.contains && behind.any word.contains
  | wordEnd word => before.any word.contains && !behind.any word.contains
  | halfStart word => !before.any word.contains
  | halfEnd word => !behind.any word.contains

/-- A regular expression. -/
inductive Expr where
  | empty
  | chars (set : CharSet)
  | look (look : Look)
  | seq (first second : Expr)
  | alt (first second : Expr)
  /-- At least `least` matches one behind the other, and at most `most`, if there is a bound. -/
  | repetition (inner : Expr) (least : Nat) (most : Option Nat)
deriving DecidableEq, Repr

/-! ## Sets of places -/

/-- A set of places in a text of `n` characters: `n + 1` answers, from the beginning to the end. -/
abbrev Places := List Bool

namespace Places

def union (s t : Places) : Places := List.zipWith (· || ·) s t

/-- The places behind a place of the set and a character of the given ones. -/
def advance (chars : CharSet) (text : Text) (s : Places) : Places :=
  false :: List.zipWith (fun here c => here && chars.contains c) s text

/-- The places of the set where a question is answered with yes; `before` is the character before
the first place. -/
def filter (look : Look) : (before : Option Char) → Text → Places → Places
  | _, _, [] => []
  | before, [], here :: _ => [here && look.holds before none]
  | before, c :: text, here :: rest =>
    (here && look.holds before (some c)) :: filter look (some c) text rest

/-- What `f` makes of the set when it is applied `n` times. -/
def iterate (f : Places → Places) : (n : Nat) → Places → Places
  | 0, s => s
  | n + 1, s =>
    let t := f s
    if t == s then s else iterate f n t

/-- All places that `f` reaches from the set when it is applied up to `n` times. -/
def reach (f : Places → Places) : (n : Nat) → Places → Places
  | 0, s => s
  | n + 1, s =>
    let t := union s (f s)
    if t == s then s else reach f n t

end Places

namespace Expr

/-- The places where a match that begins in the set may end. On `n` characters the set that `k`
rounds reach is the same for all `k > n`, since then one of the rounds stays where it is. -/
def ends (text : Text) : Expr → Places → Places
  | empty, s => s
  | chars set, s => s.advance set text
  | look l, s => s.filter l none text
  | seq a b, s => b.ends text (a.ends text s)
  | alt a b, s => (a.ends text s).union (b.ends text s)
  | repetition a least most, s =>
    let rounds := text.length + 1
    let further := match most with
      | none => rounds
      | some most => min (most - least) rounds
    Places.reach (a.ends text) further (Places.iterate (a.ends text) (min least rounds) s)

def occursIn (e : Expr) (text : Text) : Bool :=
  (e.ends text (List.replicate (text.length + 1) true)).any id

/-- How many parts the expression has, if each is a single character, a look or empty and they just
stand one behind the other. -/
def row? : Expr → Option Nat
  | empty => some 1
  | chars set => set.only?.map fun _ => 1
  | look _ => some 1
  | seq a b => return (← a.row?) + (← b.row?)
  | alt _ _ => none
  | repetition _ _ _ => none

end Expr

end Signpost.Pattern
