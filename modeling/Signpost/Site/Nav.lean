import Signpost.Site.Draft
import Signpost.Site.Label

/-!
# Navigation links

A link of the navigation bar, or of a sidebar group, has a text, a target, and may have a pattern
that says on which pages it is shown as active.
-/

namespace Signpost

open Document (Value)
open Document.Value (member?)

/-- A navigation link. -/
structure NavItem where
  text : Text
  link : Text
  activeMatch : Option Text
deriving DecidableEq, Repr

namespace NavItem

variable [Pattern.SizeTest]

/-- A pattern that may be absent and must be readable; an unreadable one is left out. -/
def resolvePattern (field : FieldPath) (raw : Option Text) : Checked (Option Text) :=
  match optionalText raw with
  | none => pure none
  | some source =>
    match Pattern.parse source with
    | .ok _ => pure (some source)
    | .error error => do
      Checked.report field (.badPattern error)
      return none

def resolve (field : FieldPath) (raw : Draft.Nav) : Checked NavItem := do
  let text ← requireText raw.text (field.field "text")
  let link ← Link.check raw.link (field.field "link")
  let activeMatch ← resolvePattern (field.field "activeMatch") raw.activeMatch
  return ⟨text, link, activeMatch⟩

def resolveAll (field : FieldPath) (raw : List Draft.Nav) : Checked (List NavItem) :=
  Checked.each (fun i item => resolve (field.push (.index i)) item) raw

/-- Whether the link is shown as active on a page: its pattern occurs in the path of the page, or,
without a pattern, the path is its target. -/
def isActive (item : NavItem) (page : Text) : Bool :=
  match item.activeMatch with
  | none => page == item.link
  | some source =>
    match Pattern.parse source with
    | .ok pattern => pattern.occursIn page
    | .error _ => false

def toDraft (item : NavItem) : Draft.Nav := ⟨some item.text, some item.link, item.activeMatch⟩

def toValue (item : NavItem) : Value :=
  .table ([("text".toList, .text item.text), ("link".toList, .text item.link)] ++
    member? "activeMatch" .text item.activeMatch)

end NavItem

end Signpost
