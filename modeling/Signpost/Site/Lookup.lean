import Signpost.Site.Basic
import Signpost.Text.Count

/-!
# Looking up pages

Which sidebar a page shows, and a config in one line.
-/

namespace Signpost

open Document (Value)

/-- The area that a page belongs to, if there is one, and the headings of the groups it shows. -/
structure PageMatch where
  page : Text
  area : Option Text
  headings : List Text
deriving DecidableEq, Repr

namespace PageMatch

def toValue (m : PageMatch) : Value :=
  .table [("page".toList, .text m.page),
    ("prefix".toList, (m.area.map Value.text).getD .null),
    ("groups".toList, .list (m.headings.map .text))]

/-- A match in one line. -/
def line (m : PageMatch) : Text :=
  match m.area with
  | none => m.page ++ " -> (no sidebar)".toList
  | some area =>
    m.page ++ " -> ".toList ++ area ++ " [".toList ++ Text.join ", ".toList m.headings ++ [']']

end PageMatch

namespace Site

def lookUp (site : Site) (page : Text) : PageMatch :=
  let entry := site.theme.sidebar.entryFor? page
  { page := PagePath.normalize page
    area := entry.map (·.area)
    headings := match entry with
      | none => []
      | some entry => entry.groups.map (·.text) }

def summary (site : Site) : Text :=
  '"' :: site.title ++ "\" (".toList ++ site.lang ++ "), ".toList ++
    Text.counted site.theme.nav.length "nav item".toList ++ ", ".toList ++
    Text.counted site.theme.sidebar.length "sidebar key".toList ++ ", ".toList ++
    Text.counted site.theme.socialLinks.length "social link".toList

end Site

end Signpost
