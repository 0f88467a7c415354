import Signpost.Site.Problem
import Signpost.Url.Reference

/-!
# Labels and links

The rules for texts that are shown and for links. Every text is trimmed.
-/

namespace Signpost

/-- A text that must be there and not blank. -/
def requireText (raw : Option Text) (field : FieldPath) : Checked Text :=
  match raw.map Text.trim with
  | none => do
    Checked.report field .textMissing
    return []
  | some text => do
    Checked.reportIf text.isEmpty field .textBlank
    return text

/-- A text that may be absent; a blank one counts as absent. -/
def optionalText (raw : Option Text) : Option Text :=
  (raw.map Text.trim).filter (!·.isEmpty)

namespace Link

/-- A link that starts with the name of a scheme leads out of the site. -/
def isExternal (link : Text) : Bool :=
  match link.takeWhile (· != ':') with
  | [] => false
  | c :: rest =>
    link.any (· == ':') && Text.isLetter c &&
      rest.all fun c => Text.isAlphanumeric c || c = '+' || c = '-' || c = '.'

/-- The ways in which a link within the site may start. -/
def leads : List Text := ["/".toList, "./".toList, "../".toList, "#".toList]

def hasLead (link : Text) : Bool := leads.any fun lead => Text.startsWith lead link

/-- What is wrong with a trimmed link, if anything is. -/
def problem? (link : Text) : Option Problem :=
  if link.isEmpty then some .linkBlank
  else if link.any Text.isBlank then some (.linkHasSpace link)
  else if isExternal link then
    match Url.parse link with
    | .ok _ => none
    | .error error => some (.linkUnreadable link error)
  else if !hasLead link then some (.linkWithoutLead link)
  else none

/-- A link that must be there: an absolute URL, or a path within the site that starts as one. -/
def check (raw : Option Text) (field : FieldPath) : Checked Text :=
  match raw.map Text.trim with
  | none => do
    Checked.report field .linkMissing
    return []
  | some link =>
    match problem? link with
    | none => pure link
    | some problem => do
      Checked.report field problem
      return link

end Link

end Signpost
