import Signpost.Pattern.Meaning
import Signpost.Pattern.Reader

/-!
# Patterns

A regular expression over Unicode text, used to say on which pages a link is shown as active. A
pattern is read once; then it can be asked whether it occurs in a text.
-/

namespace Signpost

/-- A pattern as it was written and what it means. -/
structure Pattern where
  source : Text
  expr : Pattern.Expr
deriving DecidableEq, Repr

namespace Pattern

/-- Why a text is no pattern. -/
inductive Error where
  /-- A rule of the syntax is broken. -/
  | broken (source : Text) (fault : Fault)
  /-- The automaton for it would exceed a limit of bytes. -/
  | tooLarge (limit : Nat)
deriving DecidableEq, Repr

def Error.message : Error → Text
  | broken source fault => fault.message source
  | tooLarge limit =>
    "Compiled regex exceeds size limit of ".toList ++ Text.ofNat limit ++ " bytes.".toList

/-- The bytes that an automaton may take. -/
def sizeLimit : Nat := 10 * 1024 * 1024

/-- Whether the pattern is a row of few parts and written in few characters. -/
def isShortRow (pattern : Pattern) : Bool :=
  pattern.expr.row?.any (pattern.source.length + · ≤ 1000)

/-- Which patterns an automaton can be built for. How many bytes one takes is known to the engine
alone that builds it; for a short row it is far below the limit. -/
class SizeTest where
  fits : Pattern → Bool
  fits_of_isShortRow : ∀ pattern : Pattern, pattern.isShortRow = true → fits pattern = true

/-- Reads a pattern, be it small or large. Faults of its syntax come before those of its meaning. -/
def read (source : Text) : Except Error Pattern := do
  let term ← (Term.read source).mapError (Error.broken source)
  let (expr, _) ← (term.meaning .initial).mapError (Error.broken source)
  return ⟨source, expr⟩

/-- Reads a pattern that an automaton can be built for. -/
def parse [SizeTest] (source : Text) : Except Error Pattern := do
  let pattern ← read source
  if SizeTest.fits pattern then return pattern
  else .error (.tooLarge sizeLimit)

def occursIn (pattern : Pattern) (text : Text) : Bool := pattern.expr.occursIn text

end Pattern

end Signpost
