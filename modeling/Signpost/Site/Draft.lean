import Signpost.Document.Value

/-!
# Drafts

A draft is a site config as its author wrote it: every field may be absent, and maps keep the order
and the repetitions of their keys. A draft is written back with its absent fields left out.
-/

namespace Signpost

open Document (Value)
open Document.Value (member?)

abbrev Entries (α : Type) := List (Text × α)

namespace Draft

/-- A link of the navigation bar or of a sidebar group. -/
structure Nav where
  text : Option Text := none
  link : Option Text := none
  activeMatch : Option Text := none
deriving DecidableEq, Repr

/-- A group of a sidebar. -/
structure Group where
  text : Option Text := none
  items : Option (List Nav) := none
  collapsed : Option Bool := none
deriving DecidableEq, Repr

/-- A tag for the head of every page, in one of its three written forms. -/
inductive Head where
  | withContent (tag : Text) (attributes : Entries Text) (content : Text)
  | simple (tag : Text) (attributes : Entries Text)
  | table (tag : Option Text) (attributes : Entries Text) (content : Option Text)
deriving DecidableEq, Repr

/-- A link to a profile elsewhere. -/
structure Social where
  icon : Option Text := none
  link : Option Text := none
  ariaLabel : Option Text := none
deriving DecidableEq, Repr

/-- The lines at the foot of every page. -/
structure Footer where
  message : Option Text := none
  copyright : Option Text := none
deriving DecidableEq, Repr

/-- The link that leads from a page to its source. -/
structure Edit where
  pattern : Option Text := none
  text : Option Text := none
deriving DecidableEq, Repr

/-- What pages show besides their content. -/
structure Theme where
  logo : Option Text := none
  nav : Option (List Nav) := none
  sidebar : Option (Entries (List Group)) := none
  socialLinks : Option (List Social) := none
  footer : Option Footer := none
  editLink : Option Edit := none
deriving DecidableEq, Repr

end Draft

/-- A site config as it was written. -/
structure Draft where
  lang : Option Text := none
  title : Option Text := none
  description : Option Text := none
  base : Option Text := none
  lastUpdated : Option Bool := none
  cleanUrls : Option Bool := none
  head : Option (List Draft.Head) := none
  theme : Option Draft.Theme := none
deriving DecidableEq, Repr

namespace Draft

def textEntries (entries : Entries Text) : Value :=
  .table (entries.map fun (k, v) => (k, .text v))

def Nav.toValue (d : Nav) : Value :=
  .table (member? "text" .text d.text ++ member? "link" .text d.link ++
    member? "activeMatch" .text d.activeMatch)

def Nav.listValue (items : List Nav) : Value := .list (items.map Nav.toValue)

def Group.toValue (d : Group) : Value :=
  .table (member? "text" .text d.text ++ member? "items" Nav.listValue d.items ++
    member? "collapsed" .flag d.collapsed)

/-- The form of a tag that was written. A table leaves out a map without entries. -/
def Head.toValue : Head → Value
  | .withContent tag attributes content =>
    .list [.text tag, textEntries attributes, .text content]
  | .simple tag attributes => .list [.text tag, textEntries attributes]
  | .table tag attributes content =>
    .table (member? "tagName" .text tag ++
      member? "attributes" textEntries (if attributes.isEmpty then none else some attributes) ++
      member? "content" .text content)

def Social.toValue (d : Social) : Value :=
  .table (member? "icon" .text d.icon ++ member? "link" .text d.link ++
    member? "ariaLabel" .text d.ariaLabel)

def Footer.toValue (d : Footer) : Value :=
  .table (member? "message" .text d.message ++ member? "copyright" .text d.copyright)

def Edit.toValue (d : Edit) : Value :=
  .table (member? "pattern" .text d.pattern ++ member? "text" .text d.text)

def sidebarValue (entries : Entries (List Group)) : Value :=
  .table (entries.map fun (k, groups) => (k, .list (groups.map Group.toValue)))

def Theme.toValue (d : Theme) : Value :=
  .table (member? "logo" .text d.logo ++ member? "nav" Nav.listValue d.nav ++
    member? "sidebar" sidebarValue d.sidebar ++
    member? "socialLinks" (fun links => .list (links.map Social.toValue)) d.socialLinks ++
    member? "footer" Footer.toValue d.footer ++ member? "editLink" Edit.toValue d.editLink)

def toValue (d : Draft) : Value :=
  .table (member? "lang" .text d.lang ++ member? "title" .text d.title ++
    member? "description" .text d.description ++ member? "base" .text d.base ++
    member? "lastUpdated" .flag d.lastUpdated ++ member? "cleanUrls" .flag d.cleanUrls ++
    member? "head" (fun tags => .list (tags.map Head.toValue)) d.head ++
    member? "themeConfig" Theme.toValue d.theme)

end Draft

end Signpost
