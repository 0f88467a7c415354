import Mathlib.Data.List.Basic
import Signpost.Text.Quoted

/-!
# Reading quoted text back

Each quoted character can be told from what stands behind it, and none starts with a bare quote. So
a quoted text ends where its closing quote stands, and shows which text was quoted.
-/

namespace Signpost

namespace Text

variable {n : Nat}

/-- The number that hexadecimal digits spell; a character that is no digit counts as zero. -/
def hexNumber (t : Text) : Nat := t.foldl (fun n c => n * 16 + (hexValue? c).getD 0) 0

theorem hexValue?_digitChar_lt : ∀ n < 16, hexValue? (Nat.digitChar n) = some n := by decide

theorem hex_eq (n : Nat) :
    hex n = if n < 16 then [Nat.digitChar n] else hex (n / 16) ++ [Nat.digitChar (n % 16)] :=
  Nat.toDigits_eq_if (by decide)

theorem hexNumber_hex (n : Nat) : hexNumber (hex n) = n := by
  induction n using Nat.strongRecOn with
  | ind n ih =>
      rw [hex_eq]
      split
      next h =>
        rw [hexNumber, List.foldl_cons, hexValue?_digitChar_lt n h]
        exact Nat.zero_add n
      next h =>
        have hrest : hexNumber (hex (n / 16)) = n / 16 := ih _ (by omega)
        have hlast : hexValue? (Nat.digitChar (n % 16)) = some (n % 16) :=
          hexValue?_digitChar_lt _ (Nat.mod_lt _ (by decide))
        rw [hexNumber, List.foldl_append, ← hexNumber, hrest, List.foldl_cons, hlast]
        exact Nat.div_add_mod' n 16

theorem hexValue?_of_mem_hex {c : Char} (h : c ∈ hex n) : (hexValue? c).isSome = true := by
  induction n using Nat.strongRecOn with
  | ind n ih =>
      rw [hex_eq] at h
      split at h
      next hn =>
        rw [List.mem_singleton.mp h, hexValue?_digitChar_lt n hn]
        rfl
      next hn =>
        rcases List.mem_append.mp h with h | h
        · exact ih _ (by omega) h
        · rw [List.mem_singleton.mp h, hexValue?_digitChar_lt _ (Nat.mod_lt _ (by decide))]
          rfl

end Text

namespace Quoted

variable {c : Char} {s t x y : Text}

/-- The character that a letter behind a backslash stands for. -/
def letter? (c : Char) : Option Char :=
  if c = '"' ∨ c = '\\' then some c
  else if c = 'n' then some '\n'
  else if c = 'r' then some '\r'
  else if c = 't' then some '\t'
  else if c = '0' then some (Char.ofNat 0)
  else none

/-- The character that is quoted in front and what stands behind it; none where a bare quote ends
the quotation. -/
def readChar? : Text → Option (Char × Text)
  | [] => none
  | '\\' :: 'u' :: '\x7b' :: t =>
    some (Char.ofNat (Text.hexNumber (t.takeWhile (· != '\x7d'))),
      (t.dropWhile (· != '\x7d')).tail)
  | '\\' :: c :: t => (letter? c).map (·, t)
  | c :: t => if c = '"' then none else some (c, t)

theorem readChar?_plain (hquote : c ≠ '"') (hbackslash : c ≠ '\\') :
    readChar? (c :: t) = some (c, t) := by
  unfold readChar?
  split
  next h => cases h
  next h => exact absurd (List.cons.inj h).1 hbackslash
  next h => exact absurd (List.cons.inj h).1 hbackslash
  next h =>
    cases h
    exact if_neg hquote

theorem readChar?_number (n : Nat) :
    readChar? ("\\u\x7b".toList ++ Text.hex n ++ "\x7d".toList ++ t) = some (Char.ofNat n, t) := by
  have hdigits : ∀ c ∈ Text.hex n, (c != '\x7d') = true := by
    intro c hc
    rw [bne_iff_ne]
    rintro rfl
    exact nomatch Text.hexValue?_of_mem_hex hc
  have hshape : "\\u\x7b".toList ++ Text.hex n ++ "\x7d".toList ++ t =
      '\\' :: 'u' :: '\x7b' :: (Text.hex n ++ '\x7d' :: t) := by
    simp
  rw [hshape, readChar?, List.takeWhile_append_of_pos hdigits, List.dropWhile_append_of_pos hdigits,
    List.takeWhile_cons_of_neg (by decide), List.dropWhile_cons_of_neg (by decide), List.append_nil,
    Text.hexNumber_hex, List.tail_cons]

/-- A quoted character is read back, whatever stands behind it. -/
theorem readChar?_encodeChar (c : Char) (t : Text) :
    readChar? (encodeChar c ++ t) = some (c, t) := by
  by_cases hquote : c = '"'
  · subst hquote
    rfl
  by_cases hbackslash : c = '\\'
  · subst hbackslash
    rfl
  unfold encodeChar
  rw [if_neg hquote, if_neg hbackslash]
  split
  next h =>
    subst h
    rfl
  next =>
    split
    next h =>
      subst h
      rfl
    next =>
      split
      next h =>
        subst h
        rfl
      next =>
        split
        next h =>
          obtain rfl : c = Char.ofNat 0 := by rw [← h, Char.ofNat_toNat]
          rfl
        next =>
          split
          · rw [readChar?_number, Char.ofNat_toNat]
          · exact readChar?_plain hquote hbackslash

/-- What is quoted ends at the first bare quote. -/
theorem flatMap_encodeChar_append_inj
    (h : s.flatMap encodeChar ++ '"' :: x = t.flatMap encodeChar ++ '"' :: y) : s = t ∧ x = y := by
  induction s generalizing t with
  | nil =>
      cases t with
      | nil => exact ⟨rfl, (List.cons.inj h).2⟩
      | cons d t =>
          have hread := congrArg readChar? h
          rw [List.flatMap_cons, List.append_assoc, readChar?_encodeChar] at hread
          exact nomatch hread
  | cons c s ih =>
      have hread := congrArg readChar? h
      rw [List.flatMap_cons, List.append_assoc, readChar?_encodeChar] at hread
      cases t with
      | nil => exact nomatch hread
      | cons d t =>
          rw [List.flatMap_cons, List.append_assoc, readChar?_encodeChar, Option.some.injEq,
            Prod.mk.injEq] at hread
          obtain ⟨rfl, hrest⟩ := hread
          obtain ⟨rfl, hbehind⟩ := ih hrest
          exact ⟨rfl, hbehind⟩

/-- A quoted text shows what was quoted and where it ends. -/
theorem encode_append_inj (h : encode s ++ x = encode t ++ y) : s = t ∧ x = y := by
  simp only [encode, List.cons_append, List.append_assoc] at h
  exact flatMap_encodeChar_append_inj (List.cons.inj h).2

end Quoted

end Signpost
