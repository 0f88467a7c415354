import Signpost.Text.Basic

/-!
# UTF-8

The bytes of a text, and the text of well-formed bytes. Bytes are natural numbers below 256.
-/

namespace Signpost.Utf8

/-- The bytes of one character. -/
def encodeChar (c : Char) : List Nat :=
  let n := c.toNat
  if n < 0x80 then [n]
  else if n < 0x800 then [0xC0 + n / 0x40, 0x80 + n % 0x40]
  else if n < 0x10000 then [0xE0 + n / 0x1000, 0x80 + n / 0x40 % 0x40, 0x80 + n % 0x40]
  else [0xF0 + n / 0x40000, 0x80 + n / 0x1000 % 0x40, 0x80 + n / 0x40 % 0x40, 0x80 + n % 0x40]

/-- The bytes of a text. -/
def encode (t : Text) : List Nat := t.flatMap encodeChar

/-- The payload of a continuation byte. -/
def continuation? (b : Nat) : Option Nat :=
  if 0x80 ≤ b ∧ b < 0xC0 then some (b - 0x80) else none

/-- The character with a number that is a scalar value and at least `least`. -/
def scalar? (least n : Nat) : Option Char :=
  if least ≤ n ∧ n.isValidChar then some (Char.ofNat n) else none

/-- The first character of a byte sequence and the bytes after it; overlong forms, surrogates and
broken sequences have none. -/
def decodeChar? : List Nat → Option (Char × List Nat)
  | [] => none
  | a :: rest =>
    if a < 0x80 then some (Char.ofNat a, rest)
    else if 0xC0 ≤ a ∧ a < 0xE0 then
      match rest with
      | b :: rest => do
        let b ← continuation? b
        let c ← scalar? 0x80 ((a - 0xC0) * 0x40 + b)
        return (c, rest)
      | _ => none
    else if 0xE0 ≤ a ∧ a < 0xF0 then
      match rest with
      | b :: c :: rest => do
        let b ← continuation? b
        let c ← continuation? c
        let ch ← scalar? 0x800 ((a - 0xE0) * 0x1000 + b * 0x40 + c)
        return (ch, rest)
      | _ => none
    else if 0xF0 ≤ a ∧ a < 0xF8 then
      match rest with
      | b :: c :: d :: rest => do
        let b ← continuation? b
        let c ← continuation? c
        let d ← continuation? d
        let ch ← scalar? 0x10000 ((a - 0xF0) * 0x40000 + b * 0x1000 + c * 0x40 + d)
        return (ch, rest)
      | _ => none
    else none

/-- Reads characters until the bytes are used up; `fuel` bounds their number. -/
def decodeFuel : Nat → List Nat → Option Text
  | _, [] => some []
  | 0, _ :: _ => none
  | fuel + 1, bytes@(_ :: _) => do
    let (c, rest) ← decodeChar? bytes
    let t ← decodeFuel fuel rest
    return c :: t

/-- The text with these bytes, when they are well-formed UTF-8. -/
def decode? (bytes : List Nat) : Option Text := decodeFuel bytes.length bytes

end Signpost.Utf8
