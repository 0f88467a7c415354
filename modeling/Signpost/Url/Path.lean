import Signpost.Url.Basic

/-!
# Paths of URLs

A path is cut at its slashes. A segment of one dot is left out, one of two dots takes back the
segment before it, and a dot may be spelled `%2e`. Characters that have no place in a path are
spelled as escapes.
-/

namespace Signpost.Url

/-- The ASCII characters that are spelled as escapes in a segment. -/
def isEscapedInPath (c : Char) : Bool :=
  c.toNat ≤ 0x20 || c.toNat = 0x7F || "\"#<>?`\x7b\x7d".toList.contains c

/-- The ASCII characters that are spelled as escapes where no other rule holds. -/
def isEscapedAlways (c : Char) : Bool := c.toNat < 0x20 || c.toNat = 0x7F

/-- A segment with every `%2e` read as a dot. -/
def readDots : Text → Text
  | '%' :: '2' :: 'e' :: t => '.' :: readDots t
  | '%' :: '2' :: 'E' :: t => '.' :: readDots t
  | c :: t => c :: readDots t
  | [] => []

def isHere (segment : Text) : Bool := readDots segment = ['.']

def isAbove (segment : Text) : Bool := readDots segment = ['.', '.']

/-- A drive letter: a letter and a colon or bar. -/
def isDrive : Text → Bool
  | [c, d] => Text.isLetter c && (d = ':' || d = '|')
  | _ => false

/-- A segment that is never taken back: a drive letter, which a backslash may follow. -/
def startsWithDrive : Text → Bool
  | c :: d :: '\\' :: _ => isDrive [c, d]
  | t => isDrive t

/-- Takes back the last segment; the segments are reversed. -/
def takeBack : List Text → List Text
  | [] => []
  | segment :: done => if startsWithDrive segment then segment :: done else done

/-- The segment as it is kept behind the segments `done`. -/
def keepSegment (kind : SchemeKind) (done : List Text) (segment : Text) : Text :=
  let escaped := Percent.encode isEscapedInPath segment
  match kind, done, escaped with
  | .file, [], [c, d] => if isDrive [c, d] then [c, ':'] else [c, d]
  | _, _, _ => escaped

/-- The segments behind those of `done`, which are reversed. A path that ends in a dot segment
ends in a slash. -/
def settleSegments (kind : SchemeKind) : (done : List Text) → List Text → List Text
  | done, [] => done.reverse
  | done, [last] =>
    if isAbove last then ([] :: takeBack done).reverse
    else if isHere last then ([] :: done).reverse
    else (keepSegment kind done last :: done).reverse
  | done, segment :: rest =>
    if isAbove segment then settleSegments kind (takeBack done) rest
    else if isHere segment then settleSegments kind done rest
    else settleSegments kind (keepSegment kind done segment :: done) rest

/-- The path of a file URL has no empty segments in front. -/
def dropLeadingEmpty : List Text → List Text
  | [] => [[]]
  | [last] => [last]
  | segment :: rest => if segment.isEmpty then dropLeadingEmpty rest else segment :: rest

/-- The segments that a text adds to the reversed segments `done`; the slash in front of it is
taken off. -/
def readSegments (kind : SchemeKind) (done : List Text) (t : Text) : List Text :=
  let written := Text.splitBy (isSlash kind) (t.takeWhile (!isPathEnd ·))
  let segments := settleSegments kind done written
  if kind = .file then dropLeadingEmpty segments else segments

def dropSlash (kind : SchemeKind) : Text → Text
  | c :: t => if isSlash kind c then t else c :: t
  | [] => []

def readPath (kind : SchemeKind) (t : Text) : UrlPath :=
  match kind, t with
  | .other, [] => .segments []
  | .other, c :: t => if isPathEnd c then .segments [] else
    .segments (readSegments kind [] (dropSlash kind (c :: t)))
  | _, t => .segments (readSegments kind [] (dropSlash kind t))

end Signpost.Url
