import Signpost.Text.Basic
import Signpost.Numeral.Binary64

/-!
# Numbers in TOML

An integer is decimal, hexadecimal, octal or binary and fits 64 bits; a number with a fraction or a
power is a binary floating-point number. Digits may be grouped by single underscores.
-/

namespace Signpost.Toml

/-- A number as it was read. -/
inductive Number where
  | integer (value : Int)
  | float (value : Binary64)
deriving DecidableEq, Repr

/-- Reads the digits that satisfy `p` behind the first one, underscores left out. An underscore
must stand between two digits. -/
def moreDigits (p : Char → Bool) : Text → Option (Text × Text)
  | '_' :: c :: t =>
    if p c then (moreDigits p t).map fun (digits, rest) => (c :: digits, rest) else none
  | ['_'] => none
  | c :: t =>
    if p c then (moreDigits p t).map fun (digits, rest) => (c :: digits, rest)
    else some ([], c :: t)
  | [] => some ([], [])

/-- One or more digits that satisfy `p`. -/
def digits? (p : Char → Bool) : Text → Option (Text × Text)
  | c :: t =>
    if p c then (moreDigits p t).map fun (digits, rest) => (c :: digits, rest) else none
  | [] => none

/-- The digits of a decimal integer: zero, or digits of which the first is not zero. -/
def decimal? : Text → Option (Text × Text)
  | '0' :: t => some (['0'], t)
  | t => digits? Text.isDigit t

def value (base : Nat) (digits : Text) : Nat :=
  digits.foldl (fun n c => n * base + (Text.hexValue? c).getD 0) 0

/-- An integer that fits 64 bits. -/
def integer? (n : Int) : Option Number :=
  if -0x8000000000000000 ≤ n ∧ n < 0x8000000000000000 then some (.integer n) else none

def based? (base : Nat) (p : Char → Bool) (t : Text) : Option (Number × Text) := do
  let (digits, rest) ← digits? p t
  let n ← integer? (value base digits)
  return (n, rest)

/-- The power of ten behind its letter; zero where there is none. -/
def power? : Text → Option (Int × Text)
  | c :: t =>
    if c = 'e' || c = 'E' then
      let (negative, t) := match t with
        | '+' :: t => (false, t)
        | '-' :: t => (true, t)
        | t => (false, t)
      (digits? Text.isDigit t).map fun (digits, rest) =>
        (if negative then -(value 10 digits : Int) else value 10 digits, rest)
    else some (0, c :: t)
  | [] => some (0, [])

/-- The number with a whole part, a fraction and a power. Positive infinity is out of range. -/
def float? (negative : Bool) (whole fraction : Text) (t : Text) : Option (Number × Text) := do
  let (power, rest) ← power? t
  let x := Binary64.ofDecimal negative (value 10 (whole ++ fraction)) (power - fraction.length)
  if x = .infinite false then none else some (.float x, rest)

def unsigned? (negative : Bool) (t : Text) : Option (Number × Text) :=
  match t with
  | 'i' :: 'n' :: 'f' :: rest => some (.float (.infinite negative), rest)
  | 'n' :: 'a' :: 'n' :: rest => some (.float .nan, rest)
  | t => do
    let (whole, rest) ← decimal? t
    match rest with
    | '.' :: t =>
      let (fraction, rest) ← digits? Text.isDigit t
      float? negative whole fraction rest
    | c :: _ =>
      if c = 'e' || c = 'E' then float? negative whole [] rest
      else
        let n ← integer? (if negative then -(value 10 whole : Int) else value 10 whole)
        return (n, rest)
    | [] =>
      let n ← integer? (if negative then -(value 10 whole : Int) else value 10 whole)
      return (n, rest)

def readNumber? (t : Text) : Option (Number × Text) :=
  match t with
  | '0' :: 'x' :: t => based? 16 Text.isHexDigit t
  | '0' :: 'o' :: t => based? 8 (fun c => '0' ≤ c && c ≤ '7') t
  | '0' :: 'b' :: t => based? 2 (fun c => c = '0' || c = '1') t
  | '+' :: t => unsigned? false t
  | '-' :: t => unsigned? true t
  | t => unsigned? false t

end Signpost.Toml
