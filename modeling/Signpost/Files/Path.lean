import Signpost.Text.Basic

/-!
# File paths

Paths as they are written, with slashes between their components. Nothing here looks at any files:
`..` and components that do not exist are kept as they stand.
-/

namespace Signpost.FilePath

def isAbsolute (path : Text) : Bool := Text.startsWith ['/'] path

/-- Drops slashes and components `.` from the front of a path that is written backwards; the first
component and a leading slash stay. -/
def trimBackwards : Text → Text
  | '/' :: c :: rest => trimBackwards (c :: rest)
  | '.' :: '/' :: rest => trimBackwards ('/' :: rest)
  | t => t

/-- A path without slashes and components `.` at its end. -/
def trim (path : Text) : Text := (trimBackwards path.reverse).reverse

/-- A path behind another; an absolute one stands alone. -/
def join (base path : Text) : Text :=
  if isAbsolute path then path
  else if base.isEmpty || Text.endsWith ['/'] base then base ++ path
  else base ++ '/' :: path

/-- The last component of a path; the root has none, and neither has the empty path. -/
def last? (path : Text) : Option Text :=
  let component := ((trim path).reverse.takeWhile (· != '/')).reverse
  if component.isEmpty then none else some component

/-- A path without its last component. -/
def parent? (path : Text) : Option Text :=
  match last? path with
  | none => none
  | some component => some (trim ((trim path).take ((trim path).length - component.length)))

/-- The last component, unless it is `.` or `..`. -/
def name? (path : Text) : Option Text :=
  (last? path).filter fun component => component != ['.'] && component != ['.', '.']

/-- What follows the last dot of the name, if anything stands before that dot. -/
def extension? (path : Text) : Option Text :=
  (name? path).bind fun name =>
    let ending := (name.reverse.takeWhile (· != '.')).reverse
    if ending.length + 1 < name.length then some ending else none

/-- The path and what is left of it when components are taken off one by one, at most `n` times. -/
def ancestorsWithin : (n : Nat) → (path : Text) → List Text
  | 0, path => [path]
  | n + 1, path =>
    path :: match parent? path with
      | some parent => ancestorsWithin n parent
      | none => []

/-- The path and what is left of it when components are taken off one by one. Each of them has a
character, so the length of the path bounds their number. -/
def ancestors (path : Text) : List Text := ancestorsWithin path.length path

end Signpost.FilePath
