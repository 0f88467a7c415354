import Signpost.Text.Basic

/-!
# Four hexadecimal digits

A small number is spelled by four digits, in small letters or capitals, that give it back.
-/

namespace Signpost.Text

/-- The digits of a number below 128 behind two zeros, in small letters and in capitals. -/
theorem mapM_hexValue?_padStart : ∀ n < 128,
    (padStart 4 '0' (hex n)).mapM hexValue? = some [0, 0, n / 16, n % 16] ∧
      (padStart 4 '0' (upper (hex n))).mapM hexValue? = some [0, 0, n / 16, n % 16] := by
  decide

theorem length_padStart_hex : ∀ n < 128,
    (padStart 4 '0' (hex n)).length = 4 ∧ (padStart 4 '0' (upper (hex n))).length = 4 := by
  decide

end Signpost.Text
