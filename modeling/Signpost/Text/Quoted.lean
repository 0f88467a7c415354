import Signpost.Text.Printable

/-!
# Quoted text

The quoted form of a text stands between double quotes. A quote or backslash inside is escaped by
a backslash, common controls have letters of their own, and every other character that would not
show by itself is written as its number in braces.
-/

namespace Signpost.Quoted

def encodeChar (c : Char) : Text :=
  if c = '"' then "\\\"".toList
  else if c = '\\' then "\\\\".toList
  else if c = '\n' then "\\n".toList
  else if c = '\r' then "\\r".toList
  else if c = '\t' then "\\t".toList
  else if c.toNat = 0 then "\\0".toList
  else if Text.isExtending c || !Text.isPrintable c then
    "\\u\x7b".toList ++ Text.hex c.toNat ++ "\x7d".toList
  else [c]

def encode (t : Text) : Text := '"' :: t.flatMap encodeChar ++ ['"']

end Signpost.Quoted
