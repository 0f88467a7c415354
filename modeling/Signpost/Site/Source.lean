import Signpost.Json.Decode
import Signpost.Site.Basic
import Signpost.Site.DraftShape
import Signpost.Toml.Decode

/-!
# Config texts

A config text in one of the two formats is taken in as a draft, and the draft resolved to a site.
With the draft comes the list of the paths of its unknown keys.
-/

namespace Signpost

/-- The format of a config text. -/
inductive Format where
  | toml
  | json
deriving DecidableEq, Repr

/-- Why no draft could be taken in. -/
inductive SourceError where
  | json (error : Json.Error)
  | toml (error : Toml.Error)
deriving DecidableEq, Repr

/-- Why no site could be loaded. -/
inductive LoadError where
  | unreadable (error : SourceError)
  | invalid (diagnostics : List Diagnostic)
deriving DecidableEq, Repr

/-- The draft written by a text, and the paths of its unknown keys in source order. -/
def Draft.read (format : Format) (content : Text) :
    Except SourceError (Draft × List FieldPath) :=
  match format with
  | .json => (Json.decode Draft.shape.decode content).mapError .json
  | .toml => (Toml.decode Draft.shape.decode content).mapError .toml

/-- The site written by a text, and the paths of its unknown keys in source order. -/
def Site.read [Pattern.SizeTest] (format : Format) (content : Text) :
    Except LoadError (Site × List FieldPath) := do
  let (draft, ignored) ← (Draft.read format content).mapError .unreadable
  let site ← (Site.resolve draft).mapError .invalid
  return (site, ignored)

end Signpost
