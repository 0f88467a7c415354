import Signpost.Site.Problem
import Signpost.Text.Count
import Signpost.Text.Style

/-!
# Reports

How problems, field paths and notices are shown to an author.
-/

namespace Signpost

/-- The text of a path as it is shown in a sentence. -/
def FieldPath.display (color : Bool) (path : FieldPath) : Text :=
  Style.brightBlue.paint color ('`' :: path.render ++ ['`'])

namespace Diagnostic

/-- A problem with its field, and its hint on a line of its own. -/
def display (color : Bool) (d : Diagnostic) : Text :=
  Style.dim.paint color ['['] ++ Style.cyan.paint color d.field.render ++
    Style.dim.paint color [']'] ++ '\n' :: Style.red.paint color ['→'] ++ ' ' :: d.problem.reason ++
    match d.problem.hint with
    | none => []
    | some hint => "\n  ".toList ++ Style.yellow.paint color "hint:".toList ++ ' ' :: hint

/-- The report on all problems of a draft, with their number when there are several. -/
def displayAll (color : Bool) (diagnostics : List Diagnostic) : Text :=
  Style.red.paint color "config validation failed:".toList ++ "\n\n".toList ++
    Text.join "\n\n".toList (diagnostics.map (display color)) ++
    if diagnostics.length ≤ 1 then []
    else "\n\n".toList ++ Style.dim.paint color "found".toList ++
      ' ' :: Style.red.paint color (Text.counted diagnostics.length "error".toList)

end Diagnostic

namespace Notice

def topicStyle (topic : Text) : Style :=
  let name := Text.lower topic
  if name = "error".toList then .brightRed
  else if name = "warn".toList then .brightMagenta
  else if name = "check".toList ∨ name = "init".toList then .brightGreen
  else .brightYellow

/-- A line that tells of something under a topic. -/
def line (color : Bool) (topic message : Text) : Text :=
  Style.bold.paint color ((topicStyle topic).paint color ('[' :: topic ++ [']'])) ++
    ' ' :: message ++ ['\n']

end Notice

end Signpost
