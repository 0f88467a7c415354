import Signpost.Document.Message
import Signpost.Json.Position
import Signpost.Json.Reader

/-!
# Decoding JSON

A text is decoded by reading it and taking its value in. The first failure in source order is
reported with its line and column.
-/

namespace Signpost.Json

open Document

/-- Why a text could not be decoded, and where. -/
structure Error where
  message : Text
  position : Position
deriving DecidableEq, Repr

def Error.render (e : Error) : Text := e.message ++ e.position.render

/-- A failure in the text `whole`. -/
def Error.ofFailure (whole : Text) : Failure → Error
  | .broken fault => ⟨fault.breach.message, .ofSpot whole fault.spot⟩
  | .misfit cause spot => ⟨cause.message Binary64.compact, .ofSpot whole spot⟩

/-- Takes in the value of a text, which nothing but white space may follow. -/
def decode {α : Type} (value : Decoder α) (t : Text) : Except Error (α × List FieldPath) :=
  let (node, trailing) := read t
  match value [] node, trailing with
  | .error failure, _ => .error (.ofFailure t failure)
  | .ok _, some fault => .error (.ofFailure t (.broken fault))
  | .ok decoded, none => .ok decoded

end Signpost.Json
