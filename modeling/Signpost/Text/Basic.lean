/-!
# Text

A text is a list of Unicode scalar values. Everything the library reads, compares and writes is a
text; the outer layer converts to and from packed strings. This module holds the operations that
do not depend on a Unicode table.
-/

namespace Signpost

abbrev Text := List Char

namespace Text

/-- The characters of the Unicode property White_Space. -/
def isBlank (c : Char) : Bool :=
  (0x09 ≤ c.val && c.val ≤ 0x0D) || c.val == 0x20 || c.val == 0x85 || c.val == 0xA0 ||
  c.val == 0x1680 || (0x2000 ≤ c.val && c.val ≤ 0x200A) || c.val == 0x2028 || c.val == 0x2029 ||
  c.val == 0x202F || c.val == 0x205F || c.val == 0x3000

/-- The control characters, general category Cc. -/
def isControl (c : Char) : Bool :=
  c.val < 0x20 || (0x7F ≤ c.val && c.val ≤ 0x9F)

/-- ASCII letters. -/
def isLetter (c : Char) : Bool := c.isAlpha

/-- ASCII decimal digits. -/
def isDigit (c : Char) : Bool := c.isDigit

/-- ASCII letters and digits. -/
def isAlphanumeric (c : Char) : Bool := isLetter c || isDigit c

/-- The value of a hexadecimal digit. -/
def hexValue? (c : Char) : Option Nat :=
  if '0' ≤ c && c ≤ '9' then some (c.toNat - 48)
  else if 'a' ≤ c && c ≤ 'f' then some (c.toNat - 87)
  else if 'A' ≤ c && c ≤ 'F' then some (c.toNat - 55)
  else none

/-- ASCII hexadecimal digits. -/
def isHexDigit (c : Char) : Bool := (hexValue? c).isSome

/-- ASCII capitals become small letters; every other character stays. -/
def lower (t : Text) : Text := t.map Char.toLower

/-- Whether two texts agree up to the case of ASCII letters. -/
def equalIgnoringCase (s t : Text) : Bool := lower s == lower t

/-- Drops the longest leading run of characters that satisfy `p`. -/
def trimStartBy (p : Char → Bool) (t : Text) : Text := t.dropWhile p

/-- Drops the longest trailing run of characters that satisfy `p`. -/
def trimEndBy (p : Char → Bool) (t : Text) : Text := (t.reverse.dropWhile p).reverse

/-- Drops leading and trailing runs of characters that satisfy `p`. -/
def trimBy (p : Char → Bool) (t : Text) : Text := trimEndBy p (trimStartBy p t)

def trim (t : Text) : Text := trimBy isBlank t

def startsWith (lead t : Text) : Bool := lead.isPrefixOf t

def endsWith (tail t : Text) : Bool := tail.isSuffixOf t

/-- What follows `lead`, when the text starts with it. -/
def stripStart? : (lead t : Text) → Option Text
  | [], t => some t
  | _ :: _, [] => none
  | a :: lead, b :: t => if a = b then stripStart? lead t else none

/-- What precedes `tail`, when the text ends with it. -/
def stripEnd? (tail t : Text) : Option Text :=
  (stripStart? tail.reverse t.reverse).map List.reverse

/-- Whether `part` occurs somewhere in the text. -/
def contains (part : Text) : Text → Bool
  | [] => part.isEmpty
  | c :: t => startsWith part (c :: t) || contains part t

/-- Cuts a text at every character that satisfies `p`; the cutting characters are dropped. -/
def splitBy (p : Char → Bool) : Text → List Text
  | [] => [[]]
  | c :: t =>
    if p c then [] :: splitBy p t
    else match splitBy p t with
      | [] => [[c]]
      | part :: parts => (c :: part) :: parts

/-- Cuts a text at every occurrence of `sep`. -/
def splitOn (sep : Char) (t : Text) : List Text := splitBy (· == sep) t

def words (t : Text) : List Text := (splitBy isBlank t).filter (!·.isEmpty)

/-- The parts in order with `sep` between each two. -/
def join (sep : Text) : List Text → Text
  | [] => []
  | [part] => part
  | part :: parts => part ++ sep ++ join sep parts

/-- The decimal digits of a number. -/
def ofNat (n : Nat) : Text := Nat.toDigits 10 n

/-- The decimal digits of a number, with a minus sign before a negative one. -/
def ofInt : Int → Text
  | .ofNat n => ofNat n
  | .negSucc n => '-' :: ofNat (n + 1)

/-- The hexadecimal digits of a number, in small letters. -/
def hex (n : Nat) : Text := Nat.toDigits 16 n

/-- Small hexadecimal letters become capitals, and so does every other ASCII letter. -/
def upper (t : Text) : Text := t.map Char.toUpper

/-- Puts `c` in front until the text has `width` characters. -/
def padStart (width : Nat) (c : Char) (t : Text) : Text :=
  List.replicate (width - t.length) c ++ t

/-- The number of bytes of the text in UTF-8. -/
def byteLength (t : Text) : Nat := t.foldr (fun c n => c.utf8Size + n) 0

/-- Walks a text and replaces `part`; `skip` characters of a replaced part are still to drop. -/
def replaceFrom (part into : Text) : Nat → Text → Text
  | _, [] => []
  | skip + 1, _ :: t => replaceFrom part into skip t
  | 0, c :: t =>
    if startsWith part (c :: t) then into ++ replaceFrom part into (part.length - 1) t
    else c :: replaceFrom part into 0 t

/-- Replaces every occurrence of a non-empty `part`, from left to right without overlap. -/
def replace (part into t : Text) : Text := replaceFrom part into 0 t

/-- The text ends with a slash: one is added unless it is there. -/
def withTrailingSlash (t : Text) : Text :=
  if endsWith ['/'] t then t else t ++ ['/']

end Text

end Signpost
