import Signpost.Document.Message
import Signpost.Toml.Reader

/-!
# Decoding TOML

A document is decoded by reading it and taking its value in. A text that is no document is told
apart from a value that does not fit its place.
-/

namespace Signpost.Toml

open Document

/-- Why a text could not be decoded. -/
inductive Error where
  /-- The text is no TOML document. -/
  | malformed
  /-- A value does not fit its place. -/
  | misfit (cause : Misfit)
deriving DecidableEq, Repr

def message (cause : Misfit) : Text := cause.message Binary64.positional

/-- An error for a failure. What is read holds no breach, for a text with one is no document. -/
def Error.ofFailure : Failure → Error
  | .broken _ => .malformed
  | .misfit cause _ => .misfit cause

def decode {α : Type} (value : Decoder α) (t : Text) : Except Error (α × List FieldPath) :=
  match read? t with
  | none => .error .malformed
  | some node =>
    match value [] node with
    | .ok decoded => .ok decoded
    | .error failure => .error (.ofFailure failure)

end Signpost.Toml
