import Signpost.Url.Punycode
import Signpost.Url.Domain.Direction
import Signpost.Url.Domain.Joining
import Signpost.Url.Domain.Mapping

/-!
# Domain names

A domain name is brought into its ASCII form: its characters are treated by the table, the name is
composed and cut at its dots, and each label is checked. A label that holds a character beyond
ASCII is spelled in Punycode behind `xn--`; a label that comes in that spelling is checked as the
label it spells.
-/

namespace Signpost.Domain

/-- The ASCII characters that no domain name may hold. -/
def isForbidden (c : Char) : Bool :=
  c.toNat ≤ 0x20 || c.toNat = 0x7F || "%#/:<>?@[\\]^|".toList.contains c

/-- Whether a label with characters beyond ASCII is well-formed: it starts with no mark and its
joiners stand where they may. -/
def isWellFormed (label : Text) : Bool := !startsWithMark label && joinersAllowed [] label

def punycodeMark : Text := "xn--".toList

/-- A label with its Punycode spelling resolved, unless it is malformed. -/
def plainLabel? (label : Text) : Option Text :=
  match Text.stripStart? punycodeMark label with
  | some spelling => do
    let plain ← if label.all (·.toNat < 128) && !Text.endsWith ['-'] label
      then Punycode.decode? spelling else none
    let treated ← treat? plain
    if treated = plain && compose plain = plain && isWellFormed plain
        && !plain.any (fun c => isForbidden c || c = '.') then some plain else none
  | none => if label.all (·.toNat < 128) || isWellFormed label then some label else none

/-- The ASCII spelling of a label. -/
def spellLabel (label : Text) : Text :=
  if label.all (·.toNat < 128) then label else punycodeMark ++ Punycode.encode label

/-- A name after treatment and composition. In a name of ASCII characters alone only capitals
change. -/
def settle? (name : Text) : Option Text :=
  if name.all (·.toNat < 128) then some (Text.lower name) else (treat? name).map compose

/-- The labels of a name after treatment, unless the name is malformed. -/
def labels? (name : Text) : Option (List Text) := do
  let composed ← settle? name
  if composed.any isForbidden then none
  else
    let labels ← (Text.splitOn '.' composed).mapM plainLabel?
    if labels.any hasRightToLeft && !labels.all keepsDirection then none else some labels

/-- The ASCII form of a name, unless the name is malformed. -/
def toAscii? (name : Text) : Option Text :=
  (labels? name).map fun labels => Text.join ['.'] (labels.map spellLabel)

end Signpost.Domain
