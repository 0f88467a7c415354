import Signpost.Site.Sidebar

/-!
# The theme

What pages show besides their content: logo, navigation bar, sidebar, profile links, the lines at
the foot, and the link that leads from a page to its source.
-/

namespace Signpost

open Document (Value)
open Document.Value (member?)

/-- A link to a profile elsewhere. -/
structure SocialLink where
  icon : Icon
  link : Text
  ariaLabel : Option Text
deriving DecidableEq, Repr

/-- The lines at the foot of every page. -/
structure Footer where
  message : Option Text
  copyright : Option Text
deriving DecidableEq, Repr

/-- The link to the source of a page: a pattern for its target, and its text. -/
structure EditLink where
  pattern : Text
  text : Text
deriving DecidableEq, Repr

/-- What pages show besides their content. -/
structure Theme where
  logo : Option Text := none
  nav : List NavItem := []
  sidebar : Sidebar := []
  socialLinks : List SocialLink := []
  footer : Option Footer := none
  editLink : Option EditLink := none
deriving DecidableEq, Repr

namespace SocialLink

def resolveIcon (field : FieldPath) (raw : Option Text) : Checked (Option Icon) :=
  match optionalText raw with
  | none => do
    Checked.report field .iconMissing
    return none
  | some name =>
    match Icon.ofName? name with
    | some icon => pure (some icon)
    | none => do
      Checked.report field (.iconUnknown name)
      return none

/-- The profile link of a draft; one whose icon is unknown is left out. -/
def resolve (field : FieldPath) (raw : Draft.Social) : Checked (Option SocialLink) := do
  let link ← Link.check raw.link (field.field "link")
  let icon ← resolveIcon (field.field "icon") raw.icon
  return icon.map fun icon => ⟨icon, link, optionalText raw.ariaLabel⟩

/-- The label read out for a link: the one that was written, or the name of the icon. -/
def label (social : SocialLink) : Text := social.ariaLabel.getD social.icon.label

def toDraft (social : SocialLink) : Draft.Social :=
  ⟨some social.icon.name, some social.link, social.ariaLabel⟩

def toValue (social : SocialLink) : Value :=
  .table ([("icon".toList, .text social.icon.name), ("link".toList, .text social.link)] ++
    member? "ariaLabel" .text social.ariaLabel)

end SocialLink

namespace Footer

/-- The lines of a draft; when both are blank there is no footer. -/
def resolve (raw : Draft.Footer) : Option Footer :=
  match optionalText raw.message, optionalText raw.copyright with
  | none, none => none
  | message, copyright => some ⟨message, copyright⟩

def toDraft (footer : Footer) : Draft.Footer := ⟨footer.message, footer.copyright⟩

def toValue (footer : Footer) : Value :=
  .table (member? "message" .text footer.message ++ member? "copyright" .text footer.copyright)

end Footer

namespace EditLink

/-- The text of the link unless one is written. -/
def defaultText : Text := "Edit this page".toList

/-- The link of a draft. Its pattern is a link that holds the place for the path of the source. -/
def resolve (field : FieldPath) (raw : Draft.Edit) : Checked EditLink := do
  let pattern ← Link.check raw.pattern (field.field "pattern")
  Checked.reportIf (!pattern.isEmpty && !Text.contains Problem.editPlace pattern)
    (field.field "pattern") .patternWithoutPlace
  return ⟨pattern, (optionalText raw.text).getD defaultText⟩

/-- The target of the link on the page with the given source, a path below the root of the
sources. -/
def urlFor (edit : EditLink) (source : Text) : Text :=
  Text.replace Problem.editPlace (Text.trimStartBy (· == '/') source) edit.pattern

def toDraft (edit : EditLink) : Draft.Edit := ⟨some edit.pattern, some edit.text⟩

def toValue (edit : EditLink) : Value :=
  .table [("pattern".toList, .text edit.pattern), ("text".toList, .text edit.text)]

end EditLink

namespace Theme

variable [Pattern.SizeTest]

def resolve (field : FieldPath) (raw : Draft.Theme) : Checked Theme := do
  let logo ← Checked.optional (fun logo => Link.check (some logo) (field.field "logo")) raw.logo
  let nav ← NavItem.resolveAll (field.field "nav") (raw.nav.getD [])
  let sidebar ← Sidebar.resolve (field.field "sidebar") (raw.sidebar.getD [])
  let socialLinks ← Checked.each
    (fun i link => SocialLink.resolve ((field.field "socialLinks").push (.index i)) link)
    (raw.socialLinks.getD [])
  let editLink ← Checked.optional (EditLink.resolve (field.field "editLink")) raw.editLink
  return {
    logo, nav, sidebar
    socialLinks := socialLinks.filterMap id
    footer := raw.footer.bind Footer.resolve
    editLink }

def toDraft (theme : Theme) : Draft.Theme where
  logo := theme.logo
  nav := some (theme.nav.map NavItem.toDraft)
  sidebar := some theme.sidebar.toDraft
  socialLinks := some (theme.socialLinks.map SocialLink.toDraft)
  footer := theme.footer.map Footer.toDraft
  editLink := theme.editLink.map EditLink.toDraft

def toValue (theme : Theme) : Value :=
  .table (member? "logo" .text theme.logo ++
    [("nav".toList, .list (theme.nav.map NavItem.toValue)),
      ("sidebar".toList, theme.sidebar.toValue),
      ("socialLinks".toList, .list (theme.socialLinks.map SocialLink.toValue))] ++
    member? "footer" Footer.toValue theme.footer ++
    member? "editLink" EditLink.toValue theme.editLink)

end Theme

end Signpost
