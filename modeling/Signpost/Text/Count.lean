import Signpost.Text.Basic

/-!
# Counted nouns
-/

namespace Signpost.Text

/-- The ending of a noun that is counted: none for one thing, `s` for any other number. -/
def pluralEnding (n : Nat) : Text := if n = 1 then [] else ['s']

def counted (n : Nat) (noun : Text) : Text := ofNat n ++ ' ' :: noun ++ pluralEnding n

end Signpost.Text
