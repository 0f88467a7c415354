import Signpost.Document.Node

/-!
# Numbers

A JSON number is an integer when it is written without fraction and power and fits 64 bits, signed
below zero; else it is a binary floating-point number. Its significand is the longest run of
leading digits that fits 64 bits, the digits behind it only shift the power of ten, and the power
is applied by one rounded multiplication or division. Passing over a number checks its spelling
alone.
-/

namespace Signpost.Json

open Document (Fault Spot)

/-- A number taken in. -/
inductive Number where
  | integer (value : Int)
  | float (value : Binary64)
deriving DecidableEq, Repr

/-- The largest number that fits 64 bits. -/
def wordMax : Nat := 0xFFFFFFFFFFFFFFFF

/-- The value of a decimal digit. -/
def digitValue (c : Char) : Nat := c.toNat - 48

/-- Appends digits to a significand while it fits 64 bits; gives the digits that are left over. -/
def appendDigits : Nat → Text → Nat × Text
  | n, [] => (n, [])
  | n, c :: t =>
    if n * 10 + digitValue c ≤ wordMax then appendDigits (n * 10 + digitValue c) t
    else (n, c :: t)

/-- Divides by 10^308 until the remaining negative power fits one division. -/
def shrink : Nat → Binary64 → Nat → Binary64
  | 0, x, _ => x
  | fuel + 1, x, down =>
    if down ≤ 308 then x.div (Binary64.ofDecimal false 1 down)
    else match x with
      | .finite _ 0 _ => x
      | _ => shrink fuel (x.div (Binary64.ofDecimal false 1 308)) (down - 308)

/-- The number `significand` times 10^power; `after` is the place behind it. -/
def scale (negative : Bool) (significand : Nat) (power : Int) (after : Spot) :
    Except Fault Binary64 :=
  let x := Binary64.ofRatio false significand 1
  let magnitude : Except Fault Binary64 :=
    match power with
    | .ofNat up =>
      if 308 < up then
        if significand = 0 then .ok x else .error ⟨.numberTooLarge, after⟩
      else match x.mul (Binary64.ofDecimal false 1 up) with
        | .infinite _ => .error ⟨.numberTooLarge, after⟩
        | y => .ok y
    | .negSucc down => .ok (shrink 4 x (down + 1))
  magnitude.map fun y => if negative then y.neg else y

/-- The power of ten behind its letter, added to `start`. A power beyond 32 bits is settled at the
digit that exceeds them. -/
def readPower (negative : Bool) (significand : Nat) (start : Int) (t : Text) :
    Except Fault (Binary64 × Text) :=
  let (down, t) := match t with
    | '+' :: rest => (false, rest)
    | '-' :: rest => (true, rest)
    | _ => (false, t)
  match t with
  | [] => .error ⟨.endInValue, ⟨[], 0⟩⟩
  | c :: _ =>
    if !Text.isDigit c then .error ⟨.badNumber, ⟨t, 1⟩⟩
    else
      let digits := t.takeWhile Text.isDigit
      let rest := t.dropWhile Text.isDigit
      let (power, beyond) := appendPower 0 digits
      match beyond with
      | _ :: late =>
        if significand ≠ 0 && !down then .error ⟨.numberTooLarge, ⟨late ++ rest, 0⟩⟩
        else .ok (Binary64.zero negative, rest)
      | [] => do
        let power : Int := if down then start - power else start + power
        let x ← scale negative significand power ⟨rest, 0⟩
        return (x, rest)
where
  /-- Reads digits while the power fits 32 bits; gives the digits that are left over. -/
  appendPower : Nat → Text → Nat × Text
    | n, [] => (n, [])
    | n, c :: t =>
      if n * 10 + digitValue c < 0x80000000 then appendPower (n * 10 + digitValue c) t
      else (n, c :: t)

/-- The fraction behind its point, and a power that may follow it. -/
def readFraction (negative : Bool) (significand : Nat) (start : Int) (t : Text) :
    Except Fault (Binary64 × Text) :=
  let digits := t.takeWhile Text.isDigit
  let rest := t.dropWhile Text.isDigit
  if digits.isEmpty then
    match t with
    | [] => .error ⟨.endInValue, ⟨[], 0⟩⟩
    | _ => .error ⟨.badNumber, ⟨t, 1⟩⟩
  else
    let (significand, beyond) := appendDigits significand digits
    let power := start - (digits.length - beyond.length : Nat)
    match rest with
    | 'e' :: more => readPower negative significand power more
    | 'E' :: more => readPower negative significand power more
    | _ => do
      let x ← scale negative significand power ⟨rest, 0⟩
      return (x, rest)

/-- An integer that fits 64 bits; minus zero and smaller integers are floating-point numbers. -/
def ofDigits (negative : Bool) (n : Nat) : Number :=
  if !negative then .integer n
  else if n = 0 then .float (Binary64.zero true)
  else if n ≤ 0x8000000000000000 then .integer (-n)
  else .float (Binary64.ofRatio true n 1)

/-- Takes in a number without its sign. -/
def readNumber (negative : Bool) (t : Text) : Except Fault (Number × Text) :=
  match t with
  | [] => .error ⟨.endInValue, ⟨[], 0⟩⟩
  | c :: tail =>
    if !Text.isDigit c then .error ⟨.badNumber, ⟨t, 1⟩⟩
    else
      let digits := if c = '0' then ['0'] else t.takeWhile Text.isDigit
      let rest := if c = '0' then tail else t.dropWhile Text.isDigit
      let (significand, beyond) := appendDigits 0 digits
      let float (r : Except Fault (Binary64 × Text)) : Except Fault (Number × Text) :=
        r.map fun (x, rest) => (.float x, rest)
      match rest with
      | '.' :: more => float (readFraction negative significand beyond.length more)
      | 'e' :: more => float (readPower negative significand beyond.length more)
      | 'E' :: more => float (readPower negative significand beyond.length more)
      | _ =>
        if c = '0' && (rest.head?.any Text.isDigit) then .error ⟨.badNumber, ⟨rest, 1⟩⟩
        else if beyond.isEmpty then .ok (ofDigits negative significand, rest)
        else float do
          let x ← scale negative significand beyond.length ⟨rest, 0⟩
          return (x, rest)

def passPower (t : Text) : Except Fault Text :=
  let t := match t with
    | '+' :: rest => rest
    | '-' :: rest => rest
    | _ => t
  match t with
  | [] => .error ⟨.badNumber, ⟨[], 0⟩⟩
  | c :: _ =>
    if Text.isDigit c then .ok (t.dropWhile Text.isDigit) else .error ⟨.badNumber, ⟨t, 1⟩⟩

def passFraction (t : Text) : Except Fault Text :=
  match t with
  | [] => .error ⟨.badNumber, ⟨[], 0⟩⟩
  | c :: _ =>
    if !Text.isDigit c then .error ⟨.badNumber, ⟨t, 1⟩⟩
    else match t.dropWhile Text.isDigit with
      | 'e' :: more => passPower more
      | 'E' :: more => passPower more
      | rest => .ok rest

/-- Passes over a number without its sign. -/
def passNumber (t : Text) : Except Fault Text :=
  match t with
  | [] => .error ⟨.badNumber, ⟨[], 0⟩⟩
  | c :: tail =>
    if !Text.isDigit c then .error ⟨.badNumber, ⟨t, 1⟩⟩
    else
      let rest := if c = '0' then tail else t.dropWhile Text.isDigit
      match rest with
      | '.' :: more => passFraction more
      | 'e' :: more => passPower more
      | 'E' :: more => passPower more
      | _ =>
        if c = '0' && (rest.head?.any Text.isDigit) then .error ⟨.badNumber, ⟨rest, 1⟩⟩
        else .ok rest

end Signpost.Json
