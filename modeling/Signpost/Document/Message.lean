import Signpost.Document.Decode
import Signpost.Numeral.Shortest

/-!
# The wording of failures

Each way to break off and each misfit has one text. How a number with a fraction is shown is the
choice of the format it was found in.
-/

namespace Signpost.Document

def Breach.message : Breach → Text
  | .endInList => "EOF while parsing a list".toList
  | .endInTable => "EOF while parsing an object".toList
  | .endInText => "EOF while parsing a string".toList
  | .endInValue => "EOF while parsing a value".toList
  | .expectedColon => "expected `:`".toList
  | .expectedCommaOrListEnd => "expected `,` or `]`".toList
  | .expectedCommaOrTableEnd => "expected `,` or `\x7d`".toList
  | .expectedWord => "expected ident".toList
  | .expectedValue => "expected value".toList
  | .badEscape => "invalid escape".toList
  | .badNumber => "invalid number".toList
  | .numberTooLarge => "number out of range".toList
  | .controlInText =>
    "control character (\\u0000-\\u001F) found while parsing a string".toList
  | .keyNotText => "key must be a string".toList
  | .loneSurrogate => "lone leading surrogate in hex escape".toList
  | .surrogateNotFollowed => "unexpected end of hex escape".toList
  | .trailingComma => "trailing comma".toList
  | .trailingCharacters => "trailing characters".toList

def Found.describe (number : Binary64 → Text) : Found → Text
  | .null => "null".toList
  | .flag b => "boolean `".toList ++ (if b then "true".toList else "false".toList) ++ ['`']
  | .integer n => "integer `".toList ++ Text.ofInt n ++ ['`']
  | .float x => "floating point `".toList ++ number x ++ ['`']
  | .text t => "string ".toList ++ Quoted.encode t
  | .list => "sequence".toList
  | .table => "map".toList

/-- A list of names in backticks: `a`, `b` or `c`, by the number of them. -/
def oneOf : List Text → Text
  | [] => []
  | [a] => '`' :: a ++ ['`']
  | [a, b] => '`' :: a ++ "` or `".toList ++ b ++ ['`']
  | names => "one of ".toList ++ Text.join ", ".toList (names.map fun a => '`' :: a ++ ['`'])

def Misfit.message (number : Binary64 → Text) : Misfit → Text
  | .wrongType found wanted =>
    "invalid type: ".toList ++ found.describe number ++ ", expected ".toList ++ wanted
  | .wrongLength n wanted =>
    "invalid length ".toList ++ Text.ofNat n ++ ", expected ".toList ++ wanted
  | .unknownField name known =>
    "unknown field `".toList ++ name ++ "`, expected ".toList ++ oneOf known
  | .repeatedField name => "duplicate field `".toList ++ name ++ ['`']
  | .unknownVariant name known =>
    "unknown variant `".toList ++ name ++ "`, expected ".toList ++ oneOf known

end Signpost.Document
