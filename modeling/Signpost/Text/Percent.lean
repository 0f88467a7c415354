import Signpost.Text.Utf8

/-!
# Percent-encoding

A byte may be spelled as `%` and two hexadecimal digits. Decoding replaces every such escape by
its byte and leaves a `%` that starts no escape as it is.
-/

namespace Signpost.Percent

/-- The bytes of an escape-coded byte sequence; a lone percent sign stands for itself. -/
def decodeBytes : List Nat → List Nat
  | [] => []
  | 0x25 :: a :: b :: rest =>
    match Text.hexValue? (Char.ofNat a), Text.hexValue? (Char.ofNat b) with
    | some x, some y => (x * 16 + y) :: decodeBytes rest
    | _, _ => 0x25 :: decodeBytes (a :: b :: rest)
  | a :: rest => a :: decodeBytes rest

/-- Decodes every escape of a text, when the resulting bytes are UTF-8. -/
def decode? (t : Text) : Option Text := Utf8.decode? (decodeBytes (Utf8.encode t))

/-- The escape of one byte, in capital letters. -/
def escapeByte (b : Nat) : Text := '%' :: Text.padStart 2 '0' (Text.upper (Text.hex b))

/-- Spells a character as escapes when `escaped` holds or it is not ASCII. -/
def encodeChar (escaped : Char → Bool) (c : Char) : Text :=
  if c.toNat < 0x80 && !escaped c then [c] else (Utf8.encodeChar c).flatMap escapeByte

/-- Escapes every character for which `escaped` holds and every one that is not ASCII. -/
def encode (escaped : Char → Bool) (t : Text) : Text := t.flatMap (encodeChar escaped)

end Signpost.Percent
