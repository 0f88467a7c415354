import Signpost.Text.Basic

/-!
# Internet addresses as hosts

An address of version 4 is written as up to four numbers between dots, each decimal, octal behind
`0` or hexadecimal behind `0x`; the last number fills the bytes that are left. An address of
version 6 is written as eight groups of hexadecimal digits between colons; one run of zero groups
may be left out, and the last two groups may be written as an address of version 4.
-/

namespace Signpost.Address

/-- The number with these digits of a base, all of which are below it. -/
def number? (base : Nat) (digits : Text) : Option Nat :=
  digits.foldlM (fun n c => do
    let d ← Text.hexValue? c
    if d < base then some (n * base + d) else none) 0

/-- A number of a version 4 address. -/
def part? (t : Text) : Option Nat :=
  match t with
  | [] => none
  | '0' :: 'x' :: digits => number? 16 digits
  | '0' :: 'X' :: digits => number? 16 digits
  | '0' :: c :: digits => number? 8 (c :: digits)
  | digits => number? 10 digits

/-- The parts of a host between dots; one dot may end it. -/
def parts (host : Text) : List Text :=
  match (Text.splitOn '.' host).reverse with
  | [] :: rest => rest.reverse
  | all => all.reverse

/-- Whether the last part of a host is a number, so that the host can only be an address. -/
def endsInNumber (host : Text) : Bool :=
  match (parts host).getLast? with
  | none => false
  | some last => (!last.isEmpty && last.all Text.isDigit) || (part? last).isSome

/-- The version 4 address written by a host. -/
def version4? (host : Text) : Option Nat := do
  let numbers ← (parts host).mapM part?
  let last ← numbers.getLast?
  let leading := numbers.dropLast
  let room := Nat.pow 256 (4 - leading.length)
  if 3 < leading.length || leading.any (255 < ·) || room ≤ last then none
  else
    let high := leading.foldl (fun n part => n * 256 + part) 0
    some (high * room + last)

/-- A decimal number below 256 without leading zeros. -/
def byte? (t : Text) : Option Nat :=
  match t with
  | [] => none
  | ['0'] => some 0
  | '0' :: _ => none
  | digits => do
    let n ← number? 10 digits
    if n < 256 then some n else none

/-- The two groups that an address of version 4 with four decimal parts stands for. -/
def embedded? (t : Text) : Option (List Nat) := do
  match ← (Text.splitOn '.' t).mapM byte? with
  | [a, b, c, d] => some [a * 256 + b, c * 256 + d]
  | _ => none

/-- Reads groups; `before` are the groups read so far, and `zeros` how many of them precede the
zeros left out. Each round drops a character, so the length of the text is fuel enough. -/
def groups? : (fuel : Nat) → (before : List Nat) → (zeros : Option Nat) → Text →
    Option (List Nat × Option Nat)
  | 0, _, _, _ => none
  | _ + 1, before, zeros, [] => some (before, zeros)
  | fuel + 1, before, zeros, t@(c :: rest) =>
    let used := before.length + (if zeros.isSome then 1 else 0)
    if used = 8 then none
    else if c = ':' then
      if zeros.isSome then none else groups? fuel before (some before.length) rest
    else
      let digits := (t.take 4).takeWhile Text.isHexDigit
      match t.drop digits.length with
      | [] => (number? 16 digits).map fun n => (before ++ [n], zeros)
      | '.' :: _ =>
        if digits.isEmpty || 6 < used then none
        else (embedded? t).map fun two => (before ++ two, zeros)
      | ':' :: [] => none
      | ':' :: more => (number? 16 digits).bind fun n => groups? fuel (before ++ [n]) zeros more
      | _ => none

/-- The eight groups of a version 6 address. -/
def version6? (t : Text) : Option (List Nat) := do
  let start := match t with
    | ':' :: ':' :: rest => some (some 0, rest)
    | [] => none
    | [_] => none
    | ':' :: _ => none
    | _ => some (none, t)
  let (zeros, rest) ← start
  let (groups, zeros) ← groups? (rest.length + 1) [] zeros rest
  match zeros with
  | none => if groups.length = 8 then some groups else none
  | some n => some (groups.take n ++ List.replicate (8 - groups.length) 0 ++ groups.drop n)

end Signpost.Address
