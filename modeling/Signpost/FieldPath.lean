import Signpost.Text.Quoted

/-!
# Field paths

Where a value stands inside a config, as the list of steps from the root. Diagnostics and the
notices about unknown keys spell their places with the one rendering defined here, for instance
`themeConfig.sidebar["/guide/"][0].items[1].link`.
-/

namespace Signpost

/-- One step into a config value. -/
inductive Step where
  /-- A named field. -/
  | field (name : Text)
  /-- A position in a list. -/
  | index (i : Nat)
  /-- A key of a map, shown in quotes. -/
  | key (k : Text)
deriving DecidableEq, Repr

abbrev FieldPath := List Step

namespace FieldPath

/-- Writes one more step behind the text of a path; a dot precedes a name unless it comes first. -/
def extend (t : Text) : Step → Text
  | .field name => if t.isEmpty then name else t ++ '.' :: name
  | .index i => t ++ '[' :: Text.ofNat i ++ [']']
  | .key k => t ++ '[' :: Quoted.encode k ++ [']']

def render (p : FieldPath) : Text := p.foldl extend []

def push (p : FieldPath) (s : Step) : FieldPath := p ++ [s]

/-- The path of a named field below `p`. -/
def field (p : FieldPath) (name : String) : FieldPath := p.push (.field name.toList)

/-- Whether the text of a path is `other` or goes on from it at the start of a step. -/
def isUnder (p : FieldPath) (other : Text) : Bool :=
  match Text.stripStart? other p.render with
  | some [] => true
  | some (c :: _) => c == '.' || c == '['
  | none => false

/-- A key that reads unambiguously after a dot: letters, digits, `_` and `-`. -/
def isPlainKey (k : Text) : Bool :=
  !k.isEmpty && k.all fun c => Text.isAlphanumeric c || c == '_' || c == '-'

/-- The step for a key met in a config text: by name when it is plain, else in quotes. -/
def keyStep (k : Text) : Step := if isPlainKey k then .field k else .key k

end FieldPath

end Signpost
