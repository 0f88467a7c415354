import Signpost.Text.Basic

/-!
# Faults of patterns

What can be wrong with a pattern, where, and how it is shown: the pattern with carets under the
faulty part, and then the rule that is broken. Places are counted in characters.
-/

namespace Signpost.Pattern

/-- A part of a pattern: from one place up to another, which is not included. -/
structure Span where
  start : Nat
  stop : Nat
deriving DecidableEq, Repr

/-- The part without characters at a place. -/
def Span.at (n : Nat) : Span := ⟨n, n⟩

/-- A rule that a pattern breaks; a second occurrence names the first one. -/
inductive Breach where
  | classEscape | classOrder | classBoundary | classUnclosed
  | numberTooLarge
  | hexEmpty | hexNoCharacter | hexDigit
  | escapeAtEnd | escapeUnknown
  | flagDangling | flagRepeated (first : Span) | flagNegatedTwice (first : Span) | flagAtEnd
  | flagUnknown
  | groupNameRepeated (first : Span) | groupNameEmpty | groupNameCharacter | groupNameUnclosed
  | groupUnclosed | groupUnopened
  | tooDeep (limit : Nat)
  | repetitionOrder | repetitionNumber | repetitionUnclosed | repetitionOfNothing
  | boundaryUnclosed | boundaryUnknown | boundaryAtEnd
  | propertySyntax | propertyUnknown | propertyValueUnknown
  | backreference | lookAround
  | unicodeDisabled | noText
deriving DecidableEq, Repr

/-- A broken rule and the part of the pattern that breaks it. -/
structure Fault where
  breach : Breach
  span : Span
deriving DecidableEq, Repr

namespace Breach

def message : Breach → String
  | classEscape => "invalid escape sequence found in character class"
  | classOrder => "invalid character class range, the start must be <= the end"
  | classBoundary => "invalid range boundary, must be a literal"
  | classUnclosed => "unclosed character class"
  | numberTooLarge => "decimal literal invalid"
  | hexEmpty => "hexadecimal literal empty"
  | hexNoCharacter => "hexadecimal literal is not a Unicode scalar value"
  | hexDigit => "invalid hexadecimal digit"
  | escapeAtEnd => "incomplete escape sequence, reached end of pattern prematurely"
  | escapeUnknown => "unrecognized escape sequence"
  | flagDangling => "dangling flag negation operator"
  | flagRepeated _ => "duplicate flag"
  | flagNegatedTwice _ => "flag negation operator repeated"
  | flagAtEnd => "expected flag but got end of regex"
  | flagUnknown => "unrecognized flag"
  | groupNameRepeated _ => "duplicate capture group name"
  | groupNameEmpty => "empty capture group name"
  | groupNameCharacter => "invalid capture group character"
  | groupNameUnclosed => "unclosed capture group name"
  | groupUnclosed => "unclosed group"
  | groupUnopened => "unopened group"
  | tooDeep limit =>
    "exceed the maximum number of nested parentheses/brackets (" ++ toString limit ++ ")"
  | repetitionOrder => "invalid repetition count range, the start must be <= the end"
  | repetitionNumber => "repetition quantifier expects a valid decimal"
  | repetitionUnclosed => "unclosed counted repetition"
  | repetitionOfNothing => "repetition operator missing expression"
  | boundaryUnclosed =>
    "special word boundary assertion is either unclosed or contains an invalid character"
  | boundaryUnknown => "unrecognized special word boundary assertion, " ++
    "valid choices are: start, end, start-half or end-half"
  | boundaryAtEnd => "found either the beginning of a special word boundary or a bounded " ++
    "repetition on a \\b with an opening brace, but no closing brace"
  | propertySyntax => "invalid Unicode character class"
  | propertyUnknown => "Unicode property not found"
  | propertyValueUnknown => "Unicode property value not found"
  | backreference => "backreferences are not supported"
  | lookAround => "look-around, including look-ahead and look-behind, is not supported"
  | unicodeDisabled => "Unicode not allowed here"
  | noText => "pattern can match invalid UTF-8"

/-- The part of the pattern that first did what may be done once. -/
def first? : Breach → Option Span
  | flagRepeated first => some first
  | flagNegatedTwice first => some first
  | groupNameRepeated first => some first
  | _ => none

end Breach

/-- The line and the column of a place, both counted from one. -/
structure Position where
  line : Nat
  column : Nat
deriving DecidableEq, Repr

/-- The position behind the first `n` characters of a text. -/
def Position.behind (source : Text) (n : Nat) : Position :=
  let before := source.take n
  ⟨before.count '\n' + 1, (before.reverse.takeWhile (· != '\n')).length + 1⟩

/-- A part of a pattern by the positions of its ends. -/
structure Extent where
  start : Position
  stop : Position
deriving DecidableEq, Repr

def Span.extent (source : Text) (span : Span) : Extent :=
  ⟨.behind source span.start, .behind source span.stop⟩

/-- The lines of a text: line ends are dropped, a carriage return before one too, and nothing is
behind the last line end. -/
def sourceLines (source : Text) : List Text :=
  let parts := Text.splitOn '\n' source
  let ended := parts.dropLast.map fun line => (Text.stripEnd? ['\r'] line).getD line
  match parts.getLast? with
  | some (c :: rest) => ended ++ [c :: rest]
  | _ => ended

namespace Fault

/-- The extents to mark: the faulty part and what it repeats, in the order of the pattern. -/
def extents (fault : Fault) (source : Text) : List Extent :=
  let spans := match fault.breach.first? with
    | some first => if first.start ≤ fault.span.start then [first, fault.span]
      else [fault.span, first]
    | none => [fault.span]
  spans.map (·.extent source)

/-- Carets under the extents of one line; `column` columns are written already. An extent without
characters gets one caret. -/
def carets : (column : Nat) → List Extent → Text
  | _, [] => []
  | column, extent :: rest =>
    let gap := extent.start.column - 1 - column
    let width := max 1 (extent.stop.column - extent.start.column)
    List.replicate gap ' ' ++ List.replicate width '^' ++ carets (column + gap + width) rest

/-- The lines of the pattern with their margin, each followed by its carets. -/
def notated (source : Text) (marked : List Extent) : List Text :=
  let lines := sourceLines source
  let count := if Text.endsWith ['\n'] source then lines.length + 1 else lines.length
  let width := if count ≤ 1 then 0 else (Text.ofNat count).length
  (lines.zipIdx 1).flatMap fun (line, number) =>
    let margin := if width = 0 then List.replicate 4 ' '
      else Text.padStart width ' ' (Text.ofNat number) ++ ": ".toList
    let here := marked.filter fun e => e.start.line == number && e.stop.line == number
    (margin ++ line) ::
      if here.isEmpty then [] else [List.replicate margin.length ' ' ++ carets 0 here]

/-- The note for an extent that reaches over several lines. -/
def acrossLines (e : Extent) : Text :=
  "on line ".toList ++ Text.ofNat e.start.line ++ " (column ".toList ++
    Text.ofNat e.start.column ++ ") through line ".toList ++ Text.ofNat e.stop.line ++
    " (column ".toList ++ Text.ofNat (e.stop.column - 1) ++ ")".toList

/-- The fault as it is shown. A pattern of several lines stands between two rulers, with numbered
lines, and parts that reach over several lines are named behind it. -/
def message (fault : Fault) (source : Text) : Text :=
  let marked := fault.extents source
  let shown := notated source marked
  let body := if source.any (· == '\n') then
      let ruler := List.replicate 79 '~'
      [ruler] ++ shown ++ [ruler] ++
        ((marked.filter fun e => e.start.line != e.stop.line).map acrossLines)
    else shown
  Text.join ['\n'] (["regex parse error:".toList] ++ body ++
    [("error: " ++ fault.breach.message).toList])

end Fault

end Signpost.Pattern
