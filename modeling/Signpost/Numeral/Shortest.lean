import Signpost.Text.Basic
import Signpost.Numeral.Binary64

/-!
# Shortest decimal text

A finite binary number is written with the fewest decimal digits that read back to it, and among
those with the digits nearest to it. Two layouts use the digits: one always writes positions, the
other turns to a power of ten for very large and very small numbers.
-/

namespace Signpost

/-- Decimal digits behind a point: the value is 0.d₁d₂… times 10^point. -/
structure Decimal where
  digits : Text
  point : Int
deriving DecidableEq, Repr

namespace Decimal

/-- How many digits stand before the point of `num / den`, zero or less for a fraction that starts
with zeros. -/
def magnitude (num den : Nat) : Int :=
  let a := (Nat.toDigits 10 num).length
  let b := (Nat.toDigits 10 den).length
  if den * Nat.pow 10 (a - b) ≤ num * Nat.pow 10 (b - a) then (a : Int) - b + 1 else (a : Int) - b

/-- The quotient `num / den / 10^k` as one of two naturals. -/
def scaled (num den : Nat) (k : Int) : Nat × Nat :=
  match k with
  | .ofNat n => (num, den * Nat.pow 10 n)
  | .negSucc n => (num * Nat.pow 10 (n + 1), den)

/-- The ends of the interval of reals that round to a magnitude, over the denominator `4`. -/
def interval (mantissa : Nat) (exponent : Int) : Nat × Nat :=
  let halfStep := if mantissa = 0x10000000000000 ∧ -1074 < exponent then 1 else 2
  (4 * mantissa - halfStep, 4 * mantissa + 2)

/-- Whether `c` times 10^k rounds to the magnitude. -/
def readsBack (mantissa : Nat) (exponent : Int) (c : Nat) (k : Int) : Bool :=
  let (low, high) := interval mantissa exponent
  let (ln, ld) := Binary64.ratio low exponent
  let (hn, hd) := Binary64.ratio high exponent
  let (cn, cd) := match k with
    | .ofNat n => (c * Nat.pow 10 n, 1)
    | .negSucc n => (c, Nat.pow 10 (n + 1))
  if mantissa % 2 = 0 then ln * cd ≤ 4 * cn * ld && 4 * cn * hd ≤ hn * cd
  else ln * cd < 4 * cn * ld && 4 * cn * hd < hn * cd

/-- The multiple of 10^k nearest to the magnitude among its two neighbours that read back. -/
def onGrid (mantissa : Nat) (exponent k : Int) : Option Nat :=
  let (num, den) := Binary64.ratio mantissa exponent
  let (n, d) := scaled num den k
  let below := n / d
  let good := readsBack mantissa exponent
  let rest := 2 * (n % d)
  let upper := d < rest || (rest = d && below % 2 = 1)
  match good below k, good (below + 1) k with
  | true, true => some (if upper then below + 1 else below)
  | true, false => some below
  | false, true => some (below + 1)
  | false, false => none

/-- Tries grids of `n`, `n + 1`, … digits; seventeen always suffice. -/
def firstGrid (mantissa : Nat) (exponent top : Int) : Nat → Nat → Nat × Int
  | 0, n => (mantissa, exponent + n)
  | fuel + 1, n =>
    let k := top - n
    match onGrid mantissa exponent k with
    | some c => (c, k)
    | none => firstGrid mantissa exponent top fuel (n + 1)

def shortest (mantissa : Nat) (exponent : Int) : Decimal :=
  if mantissa = 0 then ⟨['0'], 1⟩
  else
    let (num, den) := Binary64.ratio mantissa exponent
    let (c, k) := firstGrid mantissa exponent (magnitude num den) 18 1
    let written := Text.ofNat c
    ⟨Text.trimEndBy (· == '0') written, written.length + k⟩

/-- Digits at their positions, with a point and at least one digit on both sides of it. -/
def positional (x : Decimal) : Text :=
  match x.point with
  | .negSucc n => "0.".toList ++ List.replicate (n + 1) '0' ++ x.digits
  | .ofNat n =>
    let whole := x.digits.take n
    let zeros := List.replicate (n - x.digits.length) '0'
    let fraction := x.digits.drop n
    let before := if n = 0 then ['0'] else whole ++ zeros
    let behind := if fraction.isEmpty then ['0'] else fraction
    before ++ '.' :: behind

def withPower (x : Decimal) : Text :=
  let power := x.point - 1
  let sign := if power < 0 then ['-'] else ['+']
  match x.digits with
  | [] => ['0']
  | d :: [] => d :: 'e' :: sign ++ Text.ofNat power.natAbs
  | d :: rest => d :: '.' :: rest ++ 'e' :: sign ++ Text.ofNat power.natAbs

end Decimal

namespace Binary64

/-- The sign of a number followed by the layout of its shortest digits. -/
def layOut (layout : Decimal → Text) : Binary64 → Text
  | .nan => "NaN".toList
  | .infinite false => "inf".toList
  | .infinite true => "-inf".toList
  | .finite false m e => layout (Decimal.shortest m e)
  | .finite true m e => '-' :: layout (Decimal.shortest m e)

/-- Always at decimal positions. -/
def positional (x : Binary64) : Text := layOut Decimal.positional x

/-- At decimal positions from 10^-5 up to but not including 10^16, else with a power of ten. -/
def compact (x : Binary64) : Text :=
  layOut (fun d => if -5 < d.point ∧ d.point ≤ 16 then d.positional else d.withPower) x

end Binary64

end Signpost
