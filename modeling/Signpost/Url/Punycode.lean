import Signpost.Text.Basic

/-!
# Punycode

A label of a domain name is spelled in ASCII by its ASCII characters, a hyphen if there are any,
and for each other character in ascending order the number of positions between it and the one
before, as digits of base 36 whose thresholds follow a bias that adapts to the numbers seen.
-/

namespace Signpost.Punycode

/-- The digit of a value below 36: letters first, then numbers. -/
def digit (n : Nat) : Char := if n < 26 then Char.ofNat (97 + n) else Char.ofNat (22 + n)

def digitValue? (c : Char) : Option Nat :=
  let n := c.toNat
  if 97 ≤ n ∧ n ≤ 122 then some (n - 97)
  else if 65 ≤ n ∧ n ≤ 90 then some (n - 65)
  else if 48 ≤ n ∧ n ≤ 57 then some (n - 22)
  else none

/-- From which value on a digit at position `k` says that more digits follow. -/
def threshold (k bias : Nat) : Nat :=
  if k ≤ bias then 1 else if bias + 26 ≤ k then 26 else k - bias

theorem threshold_pos (k bias : Nat) : 1 ≤ threshold k bias := by
  unfold threshold
  split
  · omega
  · split <;> omega

theorem threshold_le (k bias : Nat) : threshold k bias ≤ 26 := by
  unfold threshold
  split
  · omega
  · split <;> omega

/-- Divides a number by 35 until it is small, and counts 36 for each division. -/
def settle (delta k : Nat) : Nat × Nat :=
  if 455 < delta then settle (delta / 35) (k + 36) else (delta, k)
termination_by delta
decreasing_by exact Nat.div_lt_self (by omega) (by omega)

/-- The bias after a number was written for the character that makes the count `points`. -/
def adapt (delta points : Nat) (first : Bool) : Nat :=
  let start := if first then delta / 700 else delta / 2
  let (rest, k) := settle (start + start / points) 0
  k + 36 * rest / (rest + 38)

/-- The digits of a number, the position of the first being `k`. -/
def digits (bias k q : Nat) : Text :=
  let t := threshold k bias
  if q < t then [digit q]
  else digit (t + (q - t) % (36 - t)) :: digits bias (k + 36) ((q - t) / (36 - t))
termination_by q
decreasing_by
  have low := threshold_pos k bias
  have high := threshold_le k bias
  calc (q - threshold k bias) / (36 - threshold k bias)
      ≤ q - threshold k bias := Nat.div_le_self _ _
    _ < q := by omega

/-- How far the spelling has come: the digits written, the positions passed since the last number,
the bias, and the count of characters already spelled. -/
structure Progress where
  written : Text
  passed : Nat
  bias : Nat
  points : Nat

/-- Passes one character while the characters numbered `n` are spelled. -/
def pass (basic n : Nat) (p : Progress) (c : Char) : Progress :=
  if c.toNat < n then { p with passed := p.passed + 1 }
  else if c.toNat = n then
    { written := p.written ++ digits p.bias 36 p.passed
      passed := 0
      bias := adapt p.passed (p.points + 1) (p.points = basic)
      points := p.points + 1 }
  else p

/-- Spells the characters with the given numbers, in ascending order; `next` is the least number
not yet passed. -/
def spell (label : Text) (basic : Nat) : List Nat → (next : Nat) → Progress → Progress
  | [], _, p => p
  | n :: rest, next, p =>
    let p := { p with passed := p.passed + (n - next) * (p.points + 1) }
    let p := label.foldl (pass basic n) p
    spell label basic rest (n + 1) { p with passed := p.passed + 1 }

/-- The ASCII spelling of a label. -/
def encode (label : Text) : Text :=
  let basic := label.filter (·.toNat < 128)
  let others := ((label.filter (128 ≤ ·.toNat)).map Char.toNat).mergeSort.eraseDups
  let start : Progress := ⟨[], 0, 72, basic.length⟩
  let front := if basic.isEmpty then [] else basic ++ ['-']
  front ++ (spell label basic.length others 128 start).written

/-- Reads the digits of one number and adds it to `i`; gives what follows them. -/
def readNumber (bias : Nat) : (k i weight : Nat) → Text → Option (Nat × Text)
  | _, _, _, [] => none
  | k, i, weight, c :: t => do
    let value ← digitValue? c
    let i := i + value * weight
    if value < threshold k bias then some (i, t)
    else readNumber bias (k + 36) i (weight * (36 - threshold k bias)) t

/-- Inserts the characters whose numbers are spelled by the digits into the characters read so far;
`n` and `i` are the number and position of the last one. Each round reads a digit, so the number of
digits is fuel enough. -/
def insertAll : (fuel n i bias : Nat) → (label : Text) → (digits : Text) → Option Text
  | _, _, _, _, label, [] => some label
  | 0, _, _, _, _, _ :: _ => none
  | fuel + 1, n, i, bias, label, digits@(_ :: _) => do
    let (next, rest) ← readNumber bias 36 i 1 digits
    let points := label.length + 1
    let n := n + next / points
    let position := next % points
    if n.isValidChar then
      let label := label.take position ++ Char.ofNat n :: label.drop position
      insertAll fuel n (position + 1) (adapt (next - i) points (i = 0)) label rest
    else none

/-- The label with an ASCII spelling. The last hyphen ends the ASCII characters, of which there is
at least one. -/
def decode? (t : Text) : Option Text :=
  let (basic, digits) := match t.reverse.dropWhile (· != '-') with
    | _ :: c :: before => ((c :: before).reverse, (t.reverse.takeWhile (· != '-')).reverse)
    | _ => ([], t)
  if basic.all (·.toNat < 128) then insertAll digits.length 128 0 72 basic digits else none

end Signpost.Punycode
