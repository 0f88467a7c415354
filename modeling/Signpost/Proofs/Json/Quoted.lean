import Signpost.Json.Quoted
import Signpost.Json.Writer
import Signpost.Proofs.Text.Hex

/-!
# Reading written texts

A text is read back from between its quotes whatever characters it holds, because the spelling of
each character is read as that character.
-/

namespace Signpost.Json

open Document

theorem fourDigits_append {digits : Text} {a b c d : Nat} (hlen : digits.length = 4)
    (hvalue : digits.mapM Text.hexValue? = some [a, b, c, d]) (t : Text) :
    fourDigits (digits ++ t) = .ok (((a * 16 + b) * 16 + c) * 16 + d) := by
  obtain ⟨w, x, y, z, rfl⟩ : ∃ w x y z, digits = [w, x, y, z] := by
    match digits, hlen with
    | [w, x, y, z], _ => exact ⟨w, x, y, z, rfl⟩
  have hbytes : ¬Text.byteLength ([w, x, y, z] ++ t) < 4 := by
    have hw := w.utf8Size_pos
    have hx := x.utf8Size_pos
    have hy := y.utf8Size_pos
    have hz := z.utf8Size_pos
    show ¬w.utf8Size + (x.utf8Size + (y.utf8Size + (z.utf8Size + Text.byteLength t))) < 4
    omega
  have htake : ([w, x, y, z] ++ t).take 4 = [w, x, y, z] := rfl
  rw [fourDigits, if_neg hbytes, htake, hvalue]

/-- A control without a letter of its own is spelled by its number. -/
theorem readEscape_number {c : Char} (h : c.toNat < 0x20) (t : Text) :
    readEscape ('u' :: (Text.padStart 4 '0' (Text.hex c.toNat) ++ t)) = .ok (c, 5) := by
  have hlt : c.toNat < 128 := by omega
  have hlen := (Text.length_padStart_hex _ hlt).1
  have hvalue := (Text.mapM_hexValue?_padStart _ hlt).1
  have hsum : ((0 * 16 + 0) * 16 + c.toNat / 16) * 16 + c.toNat % 16 = c.toNat := by omega
  simp only [readEscape, fourDigits_append hlen hvalue, hsum, bind, Except.bind]
  rw [if_neg (by simp; omega), if_neg (by simp; omega), Char.ofNat_toNat]

theorem readQuoted_append (skipped t : Text) :
    readQuoted skipped.length (skipped ++ t) = readQuoted 0 t := by
  induction skipped with
  | nil => rfl
  | cons c rest ih => exact ih

theorem readQuoted_writeChar (c : Char) (t : Text) :
    readQuoted 0 (writeChar c ++ t) =
      (readQuoted 0 t).map fun (text, rest) => (c :: text, rest) := by
  unfold writeChar
  split
  · subst_vars; rfl
  split
  · subst_vars; rfl
  split
  · subst_vars; rfl
  split
  · subst_vars; rfl
  split
  · subst_vars; rfl
  split
  · subst_vars; rfl
  split
  · subst_vars; rfl
  split
  · rename_i hcontrol
    have hlen := (Text.length_padStart_hex c.toNat (by omega)).1
    show readQuoted 0 ('\\' :: ('u' :: (Text.padStart 4 '0' (Text.hex c.toNat) ++ t))) = _
    rw [readQuoted, if_neg (by decide), if_pos rfl, readEscape_number hcontrol]
    have hskip := readQuoted_append ('u' :: Text.padStart 4 '0' (Text.hex c.toNat)) t
    rw [List.length_cons, hlen] at hskip
    exact congrArg (Except.map _) hskip
  · rename_i hquote hbackslash _ _ _ _ _ hplain
    show readQuoted 0 (c :: t) = _
    rw [readQuoted, if_neg hquote, if_neg hbackslash, if_neg hplain]

/-- Reading on behind the opening quote gives the text and what follows the closing one. -/
theorem readQuoted_flatMap_writeChar (t rest : Text) :
    readQuoted 0 (t.flatMap writeChar ++ '"' :: rest) = .ok (t, rest) := by
  induction t with
  | nil => rfl
  | cons c t ih =>
      rw [List.flatMap_cons, List.append_assoc, readQuoted_writeChar, ih]
      rfl

end Signpost.Json
