import Signpost.Site.Draft
import Signpost.Site.Problem

/-!
# Tags for the head

A tag has a name, attributes whose names do not repeat, and may have content.
-/

namespace Signpost

open Document (Value)
open Document.Value (member?)

/-- A tag for the head of every page. -/
structure HeadTag where
  tagName : Text
  attributes : Entries Text
  content : Option Text
deriving DecidableEq, Repr

namespace Draft.Head

def tag : Head → Option Text
  | .withContent tag _ _ => some tag
  | .simple tag _ => some tag
  | .table tag _ _ => tag

def attributes : Head → Entries Text
  | .withContent _ attributes _ => attributes
  | .simple _ attributes => attributes
  | .table _ attributes _ => attributes

def content : Head → Option Text
  | .withContent _ _ content => some content
  | .simple _ _ => none
  | .table _ _ content => content

end Draft.Head

namespace HeadTag

/-- A tag name is a letter followed by letters, digits and hyphens. -/
def isTagName : Text → Bool
  | [] => false
  | c :: rest => Text.isLetter c && rest.all fun c => Text.isAlphanumeric c || c = '-'

/-- A character that no attribute name may hold. -/
def isBarred (c : Char) : Bool :=
  Text.isBlank c || Text.isControl c || "\"'>/=".toList.contains c

/-- An attribute name holds no white space, control, quote, `>`, `/` or `=`. -/
def isAttributeName (name : Text) : Bool := !name.isEmpty && !name.any isBarred

/-- Reports the names that are no attribute names or repeat one of `seen`, which are in small
letters. -/
def checkNames (field : FieldPath) : (seen : List Text) → Entries Text → Checked Unit
  | _, [] => pure ()
  | seen, (name, _) :: rest =>
    let place := field.push (.key name)
    if !isAttributeName name then do
      Checked.report place (.badAttributeName name)
      checkNames field seen rest
    else if seen.contains (Text.lower name) then do
      Checked.report place (.repeatedAttribute name)
      checkNames field seen rest
    else checkNames field (Text.lower name :: seen) rest

def resolve (field : FieldPath) (raw : Draft.Head) : Checked HeadTag := do
  let tagName := Text.trim (raw.tag.getD [])
  let tagField := field.field "tagName"
  if tagName.isEmpty then Checked.report tagField .tagNameBlank
  else Checked.reportIf (!isTagName tagName) tagField (.badTagName tagName)
  checkNames (field.field "attributes") [] raw.attributes
  return ⟨tagName, raw.attributes, raw.content⟩

def attribute? (tag : HeadTag) (name : Text) : Option Text :=
  (tag.attributes.find? (·.1 == name)).map (·.2)

def toDraft (tag : HeadTag) : Draft.Head := .table (some tag.tagName) tag.attributes tag.content

def toValue (tag : HeadTag) : Value :=
  .table ([("tagName".toList, .text tag.tagName),
    ("attributes".toList, Draft.textEntries tag.attributes)] ++
    member? "content" .text tag.content)

end HeadTag

end Signpost
