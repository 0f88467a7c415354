import Signpost.Text.Basic

/-!
# Values to be written

What a writer prints: texts, truth values, null, lists, and tables whose members keep their order.
-/

namespace Signpost.Document

/-- A value that a writer prints. -/
inductive Value where
  | null
  | flag (value : Bool)
  | text (value : Text)
  | list (items : List Value)
  | table (members : List (Text × Value))

/-- The member of a table for a field that may be absent. -/
def Value.member? {α : Type} (name : String) (write : α → Value) (a : Option α) :
    List (Text × Value) :=
  match a with
  | none => []
  | some a => [(name.toList, write a)]

end Signpost.Document
