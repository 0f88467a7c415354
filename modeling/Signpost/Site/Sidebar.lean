import Signpost.PagePath
import Signpost.Site.Nav

/-!
# The sidebar

The sidebar shows groups of links by the part of the site a page belongs to. Each entry covers an
area: the pages whose path starts with a given text, which starts and ends with a slash. A page
shows the groups of the longest area it belongs to.
-/

namespace Signpost

open Document (Value)
open Document.Value (member?)

/-- A heading with its links. A group that can be folded says whether it starts folded. -/
structure SidebarGroup where
  text : Text
  items : List NavItem
  collapsed : Option Bool
deriving DecidableEq, Repr

/-- An area and the groups shown on its pages. -/
structure SidebarEntry where
  area : Text
  groups : List SidebarGroup
deriving DecidableEq, Repr

abbrev Sidebar := List SidebarEntry

namespace SidebarGroup

variable [Pattern.SizeTest]

def resolve (field : FieldPath) (raw : Draft.Group) : Checked SidebarGroup := do
  let text ← requireText raw.text (field.field "text")
  let items ← NavItem.resolveAll (field.field "items") (raw.items.getD [])
  return ⟨text, items, raw.collapsed⟩

def toDraft (group : SidebarGroup) : Draft.Group :=
  ⟨some group.text, some (group.items.map NavItem.toDraft), group.collapsed⟩

def toValue (group : SidebarGroup) : Value :=
  .table ([("text".toList, .text group.text),
    ("items".toList, .list (group.items.map NavItem.toValue))] ++
    member? "collapsed" .flag group.collapsed)

end SidebarGroup

namespace Sidebar

variable [Pattern.SizeTest]

def startsQuery (c : Char) : Bool := c = '?' || c = '#'

/-- The area that a key declares: the page path it spells, with a slash behind it. A key is an
absolute path without query, fragment and controls, and must not spell them by escapes. -/
def area? (key : Text) : Except Problem Text :=
  let trimmed := Text.trim key
  if !Text.startsWith ['/'] trimmed || Text.startsWith ['/', '/'] trimmed then
    .error (.keyNotAbsolute key)
  else if trimmed.any fun c => Text.isControl c || startsQuery c then .error (.keyNotPlain key)
  else
    let area := Text.withTrailingSlash (PagePath.normalize trimmed)
    if area.any startsQuery then .error (.keyUnmatchable key area) else .ok area

/-- Resolves entries; `seen` holds the areas declared before with their keys. An entry whose key is
at fault or declares an area again is left out together with its groups. -/
def resolveFrom (field : FieldPath) :
    (seen : List (Text × Text)) → Entries (List Draft.Group) → Checked Sidebar
  | _, [] => pure []
  | seen, (key, groups) :: rest =>
    let keyField := field.push (.key key)
    match area? key with
    | .error problem => do
      Checked.report keyField problem
      resolveFrom field seen rest
    | .ok area =>
      match seen.find? (·.1 == area) with
      | some (_, firstKey) => do
        Checked.report keyField (.repeatedArea area firstKey)
        resolveFrom field seen rest
      | none => do
        let groups ←
          Checked.each (fun i group => SidebarGroup.resolve (keyField.push (.index i)) group) groups
        let entries ← resolveFrom field ((area, key) :: seen) rest
        return ⟨area, groups⟩ :: entries

def resolve (field : FieldPath) (raw : Entries (List Draft.Group)) : Checked Sidebar :=
  resolveFrom field [] raw

end Sidebar

/-- Whether a normalised page path belongs to the area of an entry. The area itself may be spelled
without its last slash. -/
def SidebarEntry.covers (entry : SidebarEntry) (path : Text) : Bool :=
  Text.startsWith entry.area path || entry.area == path ++ ['/']

namespace Sidebar

/-- The longer of two areas; of two of one length the later. -/
def longer (best : Option SidebarEntry) (entry : SidebarEntry) : Option SidebarEntry :=
  match best with
  | none => some entry
  | some b => if Text.byteLength b.area ≤ Text.byteLength entry.area then some entry else some b

def entryFor? (sidebar : Sidebar) (page : Text) : Option SidebarEntry :=
  (sidebar.filter (·.covers (PagePath.normalize page))).foldl longer none

def groupsFor (sidebar : Sidebar) (page : Text) : List SidebarGroup :=
  match sidebar.entryFor? page with
  | none => []
  | some entry => entry.groups

/-- The draft of a sidebar: a map of its areas. -/
def toDraft (sidebar : Sidebar) : Entries (List Draft.Group) :=
  sidebar.map fun entry => (entry.area, entry.groups.map SidebarGroup.toDraft)

/-- The written form of a sidebar: a map of its areas. -/
def toValue (sidebar : Sidebar) : Value :=
  .table (sidebar.map fun entry => (entry.area, .list (entry.groups.map SidebarGroup.toValue)))

end Sidebar

end Signpost
