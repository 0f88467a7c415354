import Signpost.Proofs.Text.Split
import Signpost.Proofs.Text.Trim
import Signpost.Proofs.Text.Utf8
import Signpost.Text.Percent

/-!
# Resolving escapes

Escapes are resolved piece by piece: a byte that is no hexadecimal digit ends every escape before
it, so bytes cut there are resolved on both sides alone. Spelling characters as escapes does not
change what is resolved, as long as percent signs and digits are spelled as they are.
-/

namespace Signpost

namespace Text

theorem lt_of_hexValue? {c : Char} {n : Nat} (h : hexValue? c = some n) : c.toNat < 0x80 := by
  simp only [hexValue?, Bool.and_eq_true, decide_eq_true_eq, Char.le_def, UInt32.le_iff_toNat_le] at h
  change c.val.toNat < _
  split at h
  next h1 => exact Nat.lt_of_le_of_lt h1.2 (by decide)
  next =>
    split at h
    next h1 => exact Nat.lt_of_le_of_lt h1.2 (by decide)
    next =>
      split at h
      next h1 => exact Nat.lt_of_le_of_lt h1.2 (by decide)
      next => exact nomatch h

/-- Which digit a small value is spelled by. -/
theorem hexValue?_eq_some {c : Char} {n : Nat} : hexValue? c = some n ↔
    n < 16 ∧ (c = Nat.digitChar n ∨ c = (Nat.digitChar n).toUpper) := by
  constructor
  · intro h
    have digits : ∀ m < 0x80, ∀ n ∈ hexValue? (Char.ofNat m), n < 16 ∧
        (Char.ofNat m = Nat.digitChar n ∨ Char.ofNat m = (Nat.digitChar n).toUpper) := by
      decide
    have hc := digits c.toNat (lt_of_hexValue? h) n
    rw [Char.ofNat_toNat] at hc
    exact hc h
  · rintro ⟨hn, hc⟩
    have spelled : ∀ n < 16, hexValue? (Nat.digitChar n) = some n ∧
        hexValue? (Nat.digitChar n).toUpper = some n := by decide
    rcases hc with rfl | rfl
    · exact (spelled n hn).1
    · exact (spelled n hn).2

/-- No byte beyond ASCII is a digit. -/
theorem hexValue?_ofNat_high {b : Nat} (hlow : 0x80 ≤ b) (hhigh : b < 0xD800) :
    hexValue? (Char.ofNat b) = none := by
  cases h : hexValue? (Char.ofNat b) with
  | none => rfl
  | some n =>
      have hlt := lt_of_hexValue? h
      rw [Utf8.toNat_ofNat (.inl hhigh)] at hlt
      omega

end Text

namespace Percent

open Text (hexValue?)

variable {a b byte s : Nat} {bytes front rest behind : List Nat}

/-! ## One escape -/

/-- The byte that two digits in front spell, and what is behind them. -/
def spelled? : List Nat → Option (Nat × List Nat)
  | a :: b :: rest =>
    match hexValue? (Char.ofNat a), hexValue? (Char.ofNat b) with
    | some x, some y => some (x * 16 + y, rest)
    | _, _ => none
  | _ => none

theorem spelled?_eq_some : spelled? bytes = some (byte, behind) ↔
    ∃ a b x y, bytes = a :: b :: behind ∧ hexValue? (Char.ofNat a) = some x ∧
      hexValue? (Char.ofNat b) = some y ∧ x * 16 + y = byte := by
  match bytes with
  | [] => simp [spelled?]
  | [a] => simp [spelled?]
  | a :: b :: rest =>
      rw [spelled?]
      cases ha : hexValue? (Char.ofNat a) with
      | none => simp [ha]
      | some x =>
          cases hb : hexValue? (Char.ofNat b) with
          | none => simp [hb]
          | some y => simp [ha, hb, and_comm]

theorem spelled?_first (h : hexValue? (Char.ofNat a) = none) : spelled? (a :: rest) = none := by
  cases rest with
  | nil => rfl
  | cons b rest => rw [spelled?, h]

theorem spelled?_second (h : hexValue? (Char.ofNat b) = none) :
    spelled? (a :: b :: rest) = none := by
  rw [spelled?, h]
  cases hexValue? (Char.ofNat a) <;> rfl

/-- A byte that is no digit ends an escape. -/
theorem spelled?_append_cons (hs : hexValue? (Char.ofNat s) = none) :
    spelled? (front ++ s :: rest) =
      (spelled? front).map fun found => (found.1, found.2 ++ s :: rest) := by
  match front with
  | [] => exact spelled?_first hs
  | [a] => exact spelled?_second hs
  | a :: b :: front =>
      simp only [List.cons_append, spelled?]
      cases hexValue? (Char.ofNat a) with
      | none => rfl
      | some x => cases hexValue? (Char.ofNat b) <;> rfl

theorem decodeBytes_percent : decodeBytes (0x25 :: rest) =
    match spelled? rest with
    | some (byte, behind) => byte :: decodeBytes behind
    | none => 0x25 :: decodeBytes rest := by
  match rest with
  | [] => rfl
  | [a] => rfl
  | a :: b :: rest =>
      rw [decodeBytes, spelled?]
      cases hexValue? (Char.ofNat a) with
      | none => rfl
      | some x => cases hexValue? (Char.ofNat b) <;> rfl

theorem decodeBytes_escape (h : spelled? rest = some (byte, behind)) :
    decodeBytes (0x25 :: rest) = byte :: decodeBytes behind := by
  rw [decodeBytes_percent, h]

/-- A byte that starts no escape stands for itself. -/
theorem decodeBytes_plain (h : a = 0x25 → spelled? rest = none) :
    decodeBytes (a :: rest) = a :: decodeBytes rest := by
  by_cases ha : a = 0x25
  · subst ha
    rw [decodeBytes_percent, h rfl]
  · rw [decodeBytes]
    rintro _ _ _ rfl
    exact absurd rfl ha

theorem decodeBytes_append_of_not_mem (h : 0x25 ∉ front) :
    decodeBytes (front ++ rest) = front ++ decodeBytes rest := by
  induction front with
  | nil => rfl
  | cons a front ih =>
      rw [List.mem_cons, not_or] at h
      rw [List.cons_append, decodeBytes_plain fun ha => absurd ha.symm h.1, ih h.2,
        List.cons_append]

/-- Induction along the escapes of a byte sequence. -/
@[elab_as_elim]
theorem escapeInduction {motive : List Nat → Prop} (nil : motive [])
    (plain : ∀ a rest, (a = 0x25 → spelled? rest = none) → motive rest → motive (a :: rest))
    (escape : ∀ rest byte behind, spelled? rest = some (byte, behind) → motive behind →
      motive (0x25 :: rest))
    (bytes : List Nat) : motive bytes := by
  induction hn : bytes.length using Nat.strongRecOn generalizing bytes with
  | ind n ih =>
      subst hn
      match bytes with
      | [] => exact nil
      | a :: rest =>
          by_cases h : a = 0x25 → spelled? rest = none
          · exact plain a rest h (ih _ (Nat.lt_succ_self _) rest rfl)
          · obtain ⟨rfl, hne⟩ := Classical.not_imp.mp h
            obtain ⟨⟨byte, behind⟩, hspelled⟩ := Option.ne_none_iff_exists'.mp hne
            refine escape rest byte behind hspelled (ih _ ?_ behind rfl)
            obtain ⟨a, b, -, -, rfl, -⟩ := spelled?_eq_some.mp hspelled
            simp only [List.length_cons]
            omega

theorem decodeBytes_append_cons (hs : hexValue? (Char.ofNat s) = none) :
    decodeBytes (front ++ s :: rest) = decodeBytes front ++ decodeBytes (s :: rest) := by
  induction front using escapeInduction with
  | nil => rfl
  | plain a front h ih =>
      rw [decodeBytes_plain h, List.cons_append, decodeBytes_plain, ih, List.cons_append]
      intro ha
      rw [spelled?_append_cons hs, h ha]
      rfl
  | escape front byte behind h ih =>
      have happend : spelled? (front ++ s :: rest) = some (byte, behind ++ s :: rest) := by
        rw [spelled?_append_cons hs, h]
        rfl
      rw [decodeBytes_escape h, List.cons_append, decodeBytes_escape happend, ih, List.cons_append]

theorem decodeBytes_ne_nil (h : bytes ≠ []) : decodeBytes bytes ≠ [] := by
  cases bytes using escapeInduction with
  | nil => exact absurd rfl h
  | plain a rest hplain _ =>
      rw [decodeBytes_plain hplain]
      exact List.cons_ne_nil _ _
  | escape rest byte behind hspelled _ =>
      rw [decodeBytes_escape hspelled]
      exact List.cons_ne_nil _ _

/-! ## Spelling characters as escapes -/

variable {escaped : Char → Bool} {c : Char} {n : Nat} {t x : Text}

theorem escapeByte_eq : ∀ b < 256, escapeByte b =
    ['%', (Nat.digitChar (b / 16)).toUpper, (Nat.digitChar (b % 16)).toUpper] := by
  decide +kernel

theorem hexValue?_digitChar : ∀ n < 16, hexValue? (Nat.digitChar n).toUpper = some n := by decide

theorem encode_cons_digit (h : hexValue? c = some n) :
    Utf8.encode (c :: t) = c.toNat :: Utf8.encode t := by
  rw [Utf8.encode_cons, Utf8.encodeChar_one (Text.lt_of_hexValue? h), List.singleton_append]

/-- A percent sign and the two digits of a byte. -/
def IsEscape (b : Nat) (x : Text) : Prop :=
  ∃ high low, x = ['%', high, low] ∧ hexValue? high = some (b / 16) ∧ hexValue? low = some (b % 16)

/-- The escapes of some bytes one behind the other. -/
inductive AreEscapes : List Nat → Text → Prop where
  | nil : AreEscapes [] []
  | cons {b : Nat} {bytes : List Nat} {x t : Text} (hx : IsEscape b x) (ht : AreEscapes bytes t) :
      AreEscapes (b :: bytes) (x ++ t)

theorem isEscape_escapeByte (hb : b < 256) : IsEscape b (escapeByte b) := by
  refine ⟨_, _, escapeByte_eq b hb, ?_, ?_⟩
  · exact hexValue?_digitChar _ (by omega)
  · exact hexValue?_digitChar _ (by omega)

theorem areEscapes_flatMap (h : ∀ b ∈ bytes, b < 256) :
    AreEscapes bytes (bytes.flatMap escapeByte) := by
  induction bytes with
  | nil => exact .nil
  | cons b bytes ih =>
      obtain ⟨hb, hbytes⟩ := List.forall_mem_cons.mp h
      exact .cons (isEscape_escapeByte hb) (ih hbytes)

theorem IsEscape.decodeBytes (h : IsEscape b x) :
    decodeBytes (Utf8.encode x ++ rest) = b :: Percent.decodeBytes rest := by
  obtain ⟨high, low, rfl, hhigh, hlow⟩ := h
  rw [Utf8.encode_cons, Utf8.encodeChar_one (by decide), encode_cons_digit hhigh,
    encode_cons_digit hlow]
  refine decodeBytes_escape (spelled?_eq_some.mpr ⟨_, _, b / 16, b % 16, rfl, ?_, ?_, ?_⟩)
  · rw [Char.ofNat_toNat, hhigh]
  · rw [Char.ofNat_toNat, hlow]
  · omega

theorem AreEscapes.decodeBytes (h : AreEscapes bytes x) :
    decodeBytes (Utf8.encode x ++ rest) = bytes ++ Percent.decodeBytes rest := by
  induction h with
  | nil => rfl
  | cons hx _ ih =>
      rw [Utf8.encode_append, List.append_assoc, hx.decodeBytes, ih, List.cons_append]

theorem percent_not_mem_encodeChar {c : Char} (h : c ≠ '%') : 0x25 ∉ Utf8.encodeChar c := by
  intro hmem
  have hnat := (Utf8.encodeChar_of_mem (by decide) hmem).1
  rw [← Char.ofNat_toNat c, hnat] at h
  exact h rfl

/-- Escapes are left as they are when neither percent signs nor digits are escaped. -/
structure LeavesEscapes (escaped : Char → Bool) : Prop where
  percent : escaped '%' = false
  digits : ∀ c n, hexValue? c = some n → escaped c = false

theorem encodeChar_eq_self (hc : c.toNat < 0x80) (he : escaped c = false) :
    encodeChar escaped c = [c] := by
  rw [encodeChar, if_pos (by simp [hc, he])]

theorem encode_cons : encode escaped (c :: t) = encodeChar escaped c ++ encode escaped t :=
  List.flatMap_cons

theorem encode_append {s t : Text} :
    encode escaped (s ++ t) = encode escaped s ++ encode escaped t := List.flatMap_append

/-- The bytes of a text that does not start with a digit start with a byte that is none. -/
theorem encode_first (h : hexValue? c = none) :
    ∃ first rest, Utf8.encode (c :: t) = first :: rest ∧ hexValue? (Char.ofNat first) = none := by
  rw [Utf8.encode_cons]
  by_cases hc : c.toNat < 0x80
  · refine ⟨c.toNat, Utf8.encode t, by rw [Utf8.encodeChar_one hc, List.singleton_append], ?_⟩
    rw [Char.ofNat_toNat, h]
  · have hbound := Utf8.toNat_lt (c := c)
    rw [Utf8.encodeChar, if_neg hc]
    split
    · exact ⟨_, _, rfl, Text.hexValue?_ofNat_high (by omega) (by omega)⟩
    · split
      · exact ⟨_, _, rfl, Text.hexValue?_ofNat_high (by omega) (by omega)⟩
      · exact ⟨_, _, rfl, Text.hexValue?_ofNat_high (by omega) (by omega)⟩

/-- So they do when it is spelled with escapes, which start with a percent sign. -/
theorem encode_encode_first (escaped : Char → Bool) (h : hexValue? c = none) :
    ∃ first rest, Utf8.encode (encode escaped (c :: t)) = first :: rest ∧
      hexValue? (Char.ofNat first) = none := by
  rw [encode_cons, encodeChar]
  split
  · exact encode_first h
  · obtain ⟨first, rest, hbytes⟩ := List.exists_cons_of_ne_nil (Utf8.encodeChar_ne_nil (c := c))
    rw [hbytes]
    exact ⟨0x25, _, rfl, rfl⟩

theorem encode_encode_digit (h : LeavesEscapes escaped) (hc : hexValue? c = some n) :
    Utf8.encode (encode escaped (c :: t)) = c.toNat :: Utf8.encode (encode escaped t) := by
  rw [encode_cons, encodeChar_eq_self (Text.lt_of_hexValue? hc) (h.digits c n hc)]
  exact encode_cons_digit hc

/-- What a percent sign spells with the characters behind it does not change when those are
spelled as escapes. -/
theorem spelled?_encode (h : LeavesEscapes escaped) :
    (spelled? (Utf8.encode (encode escaped t)) = none ∧ spelled? (Utf8.encode t) = none) ∨
      ∃ byte behind, behind.length < t.length ∧
        spelled? (Utf8.encode (encode escaped t)) = some (byte, Utf8.encode (encode escaped behind)) ∧
        spelled? (Utf8.encode t) = some (byte, Utf8.encode behind) := by
  match t with
  | [] => exact .inl ⟨rfl, rfl⟩
  | a :: t =>
      cases ha : hexValue? a with
      | none =>
          obtain ⟨first, rest, hbytes, hfirst⟩ := encode_first (t := t) ha
          obtain ⟨first', rest', hbytes', hfirst'⟩ := encode_encode_first (t := t) escaped ha
          rw [hbytes, hbytes']
          exact .inl ⟨spelled?_first hfirst', spelled?_first hfirst⟩
      | some x =>
          rw [encode_encode_digit h ha, encode_cons_digit ha]
          match t with
          | [] => exact .inl ⟨rfl, rfl⟩
          | b :: t =>
              cases hb : hexValue? b with
              | none =>
                  obtain ⟨first, rest, hbytes, hfirst⟩ := encode_first (t := t) hb
                  obtain ⟨first', rest', hbytes', hfirst'⟩ := encode_encode_first (t := t) escaped hb
                  rw [hbytes, hbytes']
                  exact .inl ⟨spelled?_second hfirst', spelled?_second hfirst⟩
              | some y =>
                  rw [encode_encode_digit h hb, encode_cons_digit hb]
                  refine .inr ⟨x * 16 + y, t, ?_, ?_, ?_⟩
                  · simp only [List.length_cons]
                    omega
                  · rw [spelled?, Char.ofNat_toNat, Char.ofNat_toNat, ha, hb]
                  · rw [spelled?, Char.ofNat_toNat, Char.ofNat_toNat, ha, hb]

theorem decodeBytes_encode (h : LeavesEscapes escaped) :
    decodeBytes (Utf8.encode (encode escaped t)) = decodeBytes (Utf8.encode t) := by
  induction hn : t.length using Nat.strongRecOn generalizing t with
  | ind n ih =>
      subst hn
      match t with
      | [] => rfl
      | c :: t =>
          have hrest := ih _ (Nat.lt_succ_self t.length) rfl
          rw [encode_cons, Utf8.encode_append, Utf8.encode_cons]
          by_cases hc : c = '%'
          · subst hc
            rw [encodeChar_eq_self (by decide) h.percent]
            change decodeBytes (0x25 :: Utf8.encode (encode escaped t)) =
              decodeBytes (0x25 :: Utf8.encode t)
            rcases spelled?_encode (t := t) h with ⟨he, hr⟩ | ⟨byte, behind, hlt, he, hr⟩
            · rw [decodeBytes_plain fun _ => he, decodeBytes_plain fun _ => hr, hrest]
            · rw [decodeBytes_escape he, decodeBytes_escape hr,
                ih _ (Nat.lt_succ_of_lt hlt) rfl]
          · have hmem := percent_not_mem_encodeChar hc
            rw [decodeBytes_append_of_not_mem hmem, encodeChar]
            split
            · rw [Utf8.encode_cons, List.append_assoc, decodeBytes_append_of_not_mem hmem]
              exact congrArg _ hrest
            · rw [(areEscapes_flatMap fun b => Utf8.lt_of_mem_encodeChar).decodeBytes, hrest]

/-- Spelling characters as escapes does not change what a text is resolved to. -/
theorem decode?_encode (h : LeavesEscapes escaped) : decode? (encode escaped t) = decode? t := by
  rw [decode?, decodeBytes_encode h, decode?]

/-! ## What spelling as escapes leaves as it is -/

variable {parts : List Text}

theorem slash_not_mem_encode (h : '/' ∉ t) : '/' ∉ encode escaped t := by
  have hescape : ∀ b < 256, '/' ∉ escapeByte b := by decide +kernel
  intro hmem
  obtain ⟨c, hc, hmem⟩ := List.mem_flatMap.mp hmem
  rw [encodeChar] at hmem
  split at hmem
  · exact h (List.mem_singleton.mp hmem ▸ hc)
  · obtain ⟨b, hb, hmem⟩ := List.mem_flatMap.mp hmem
    exact hescape b (Utf8.lt_of_mem_encodeChar hb) hmem

/-- A text that is spelled without percent signs is spelled as it is. -/
theorem encode_eq_self_of_not_mem (h : '%' ∉ encode escaped t) : encode escaped t = t := by
  induction t with
  | nil => rfl
  | cons c t ih =>
      rw [encode_cons, List.mem_append, not_or] at h
      rw [encode_cons, ih h.2]
      have hc := h.1
      rw [encodeChar] at hc ⊢
      split at hc
      next hplain => rw [if_pos hplain, List.singleton_append]
      next =>
        obtain ⟨b, bytes, hbytes⟩ := List.exists_cons_of_ne_nil (Utf8.encodeChar_ne_nil (c := c))
        rw [hbytes, List.flatMap_cons, List.mem_append, not_or] at hc
        exact absurd List.mem_cons_self hc.1

theorem encode_join (hslash : escaped '/' = false) :
    encode escaped (Text.join ['/'] parts) = Text.join ['/'] (parts.map (encode escaped)) := by
  have hone : encode escaped ['/'] = ['/'] := by
    rw [encode_cons, encodeChar_eq_self (by decide) hslash]
    rfl
  induction parts with
  | nil => rfl
  | cons part parts ih =>
      cases parts with
      | nil => rfl
      | cons next parts =>
          rw [Text.join, encode_append, encode_append, hone, ih]
          · rfl
          · simp

theorem splitOn_encode (hslash : escaped '/' = false) :
    Text.splitOn '/' (encode escaped t) = (Text.splitOn '/' t).map (encode escaped) := by
  have hparts : ∀ part ∈ (Text.splitOn '/' t).map (encode escaped), '/' ∉ part := by
    simp only [List.mem_map]
    rintro _ ⟨part, hpart, rfl⟩
    exact slash_not_mem_encode (Text.not_mem_of_mem_splitOn hpart)
  rw [← Text.splitOn_join hparts (by simp [Text.splitOn_ne_nil]), ← encode_join hslash,
    Text.join_splitOn]

/-! ## What a character is resolved from -/

variable {u : Text}

theorem decode?_eq_some : decode? t = some u ↔ decodeBytes (Utf8.encode t) = Utf8.encode u :=
  Utf8.decode?_eq_some.trans eq_comm

/-- A text that ends in the escape of a byte that no character has does not resolve. -/
theorem decode?_append_highest : decode? (t ++ "%FF".toList) = none := by
  rw [Option.eq_none_iff_forall_ne_some]
  intro u hu
  have hcut : decodeBytes (Utf8.encode t ++ 0x25 :: [0x46, 0x46]) =
      decodeBytes (Utf8.encode t) ++ [0xFF] := decodeBytes_append_cons (by rfl)
  have hbytes : decodeBytes (Utf8.encode t) ++ [0xFF] = Utf8.encode u := by
    rw [← hcut, ← decode?_eq_some.mp hu, Utf8.encode_append]
    rfl
  have hmem : 0xFF ∈ Utf8.encode u := hbytes ▸ List.mem_append_right _ List.mem_cons_self
  obtain ⟨c, -, hc⟩ := List.mem_flatMap.mp hmem
  exact absurd (Utf8.lt_highest_of_mem_encodeChar hc) (by decide)

/-- Digits that a text starts with, when its bytes start with two that spell a byte. -/
theorem spelled?_encode_eq_some {byte : Nat} {behind : List Nat} :
    spelled? (Utf8.encode t) = some (byte, behind) ↔
      ∃ a b x y rest, t = a :: b :: rest ∧ hexValue? a = some x ∧ hexValue? b = some y ∧
        x * 16 + y = byte ∧ Utf8.encode rest = behind := by
  constructor
  · intro h
    match t with
    | [] => exact nomatch h
    | a :: t =>
        cases ha : hexValue? a with
        | none =>
            obtain ⟨first, rest, hbytes, hfirst⟩ := encode_first (t := t) ha
            rw [hbytes, spelled?_first hfirst] at h
            exact nomatch h
        | some x =>
            rw [encode_cons_digit ha] at h
            match t with
            | [] => exact nomatch h
            | b :: t =>
                cases hb : hexValue? b with
                | none =>
                    obtain ⟨first, rest, hbytes, hfirst⟩ := encode_first (t := t) hb
                    rw [hbytes, spelled?_second hfirst] at h
                    exact nomatch h
                | some y =>
                    rw [encode_cons_digit hb, spelled?, Char.ofNat_toNat, Char.ofNat_toNat, ha,
                      hb] at h
                    obtain ⟨rfl, rfl⟩ := Prod.mk.inj (Option.some.inj h)
                    exact ⟨a, b, x, y, t, rfl, ha, hb, rfl, rfl⟩
  · rintro ⟨a, b, x, y, rest, rfl, ha, hb, rfl, rfl⟩
    rw [encode_cons_digit ha, encode_cons_digit hb, spelled?, Char.ofNat_toNat, Char.ofNat_toNat,
      ha, hb]

/-- A character other than the percent sign that is resolved to an ASCII character is that one. -/
theorem eq_of_decodeBytes_eq_cons {d : Char} (hd : d.toNat < 0x80) (hc : c ≠ '%')
    (h : decodeBytes (Utf8.encode (c :: t)) = d.toNat :: bytes) :
    c = d ∧ decodeBytes (Utf8.encode t) = bytes := by
  rw [Utf8.encode_cons, decodeBytes_append_of_not_mem (percent_not_mem_encodeChar hc)] at h
  have hmem : d.toNat ∈ Utf8.encodeChar c := by
    obtain ⟨first, behind, hfirst⟩ := List.exists_cons_of_ne_nil (Utf8.encodeChar_ne_nil (c := c))
    rw [hfirst, List.cons_append] at h
    rw [hfirst, (List.cons.inj h).1]
    exact List.mem_cons_self
  obtain ⟨hnat, hone⟩ := Utf8.encodeChar_of_mem hd hmem
  rw [hone, List.singleton_append] at h
  refine ⟨?_, (List.cons.inj h).2⟩
  rw [← Char.ofNat_toNat c, hnat, Char.ofNat_toNat]

/-- Behind a percent sign that is resolved to another byte stand the digits of that byte. -/
theorem exists_escape_of_decodeBytes {b : Nat} (hb : b ≠ 0x25)
    (h : decodeBytes (Utf8.encode ('%' :: t)) = b :: bytes) :
    ∃ high low x y rest, t = high :: low :: rest ∧ hexValue? high = some x ∧
      hexValue? low = some y ∧ x * 16 + y = b ∧ decodeBytes (Utf8.encode rest) = bytes := by
  change decodeBytes (0x25 :: Utf8.encode t) = _ at h
  rw [decodeBytes_percent] at h
  split at h
  next byte behind hspelled =>
    obtain ⟨high, low, x, y, rest, rfl, hhigh, hlow, hxy, rfl⟩ :=
      spelled?_encode_eq_some.mp hspelled
    obtain ⟨rfl, hrest⟩ := List.cons.inj h
    exact ⟨high, low, x, y, rest, rfl, hhigh, hlow, hxy, hrest⟩
  next => exact absurd (List.cons.inj h).1.symm hb

/-- An ASCII character other than the percent sign is resolved from itself or from one escape. -/
theorem decode?_eq_cons {d : Char} (hd : d.toNat < 0x80) (hne : d ≠ '%') :
    decode? t = some (d :: u) ↔ ∃ rest, decode? rest = some u ∧ (t = d :: rest ∨
      ∃ a b x y, t = '%' :: a :: b :: rest ∧ hexValue? a = some x ∧ hexValue? b = some y ∧
        x * 16 + y = d.toNat) := by
  have hbyte : d.toNat ≠ 0x25 := fun h => hne (by rw [← Char.ofNat_toNat d, h])
  have hwritten : Utf8.encode (d :: u) = d.toNat :: Utf8.encode u := by
    rw [Utf8.encode_cons, Utf8.encodeChar_one hd, List.singleton_append]
  simp only [decode?_eq_some, hwritten]
  constructor
  · intro h
    cases t with
    | nil => cases h
    | cons c t =>
        by_cases hc : c = '%'
        · subst hc
          obtain ⟨a, b, x, y, rest, rfl, ha, hb, hxy, hrest⟩ := exists_escape_of_decodeBytes hbyte h
          exact ⟨rest, hrest, .inr ⟨a, b, x, y, rfl, ha, hb, hxy⟩⟩
        · obtain ⟨rfl, hrest⟩ := eq_of_decodeBytes_eq_cons hd hc h
          exact ⟨t, hrest, .inl rfl⟩
  · rintro ⟨rest, hrest, rfl | ⟨a, b, x, y, rfl, ha, hb, hxy⟩⟩
    · rw [Utf8.encode_cons, Utf8.encodeChar_one hd, List.singleton_append,
        decodeBytes_plain fun h => absurd h hbyte, hrest]
    · have hspelled := spelled?_encode_eq_some.mpr ⟨a, b, x, y, rest, rfl, ha, hb, rfl, rfl⟩
      change decodeBytes (0x25 :: Utf8.encode (a :: b :: rest)) = _
      rw [decodeBytes_escape hspelled, hrest, hxy]

theorem decode?_eq_nil : decode? t = some [] ↔ t = [] := by
  rw [decode?_eq_some]
  constructor
  · intro h
    by_contra hne
    obtain ⟨c, t, rfl⟩ := List.exists_cons_of_ne_nil hne
    refine decodeBytes_ne_nil ?_ h
    rw [Utf8.encode_cons]
    exact List.append_ne_nil_of_left_ne_nil Utf8.encodeChar_ne_nil _
  · rintro rfl
    rfl

/-! ## Cutting at slashes -/

variable {d q x : Text}

/-- A text is resolved on both sides of an ASCII character that is part of no escape, or not at
all. -/
theorem decode?_append_cons (hascii : c.toNat < 0x80) (hdigit : hexValue? c = none)
    (hpercent : c ≠ '%') : decode? (q ++ c :: x) = some u ↔
      ∃ v w, u = v ++ c :: w ∧ decode? q = some v ∧ decode? x = some w := by
  have hplain : decodeBytes (c.toNat :: Utf8.encode x) = c.toNat :: decodeBytes (Utf8.encode x) :=
    decodeBytes_plain fun h => absurd (by rw [← Char.ofNat_toNat c, h]) hpercent
  have hbytes : decodeBytes (Utf8.encode (q ++ c :: x)) =
      decodeBytes (Utf8.encode q) ++ c.toNat :: decodeBytes (Utf8.encode x) := by
    rw [Utf8.encode_append, Utf8.encode_cons, Utf8.encodeChar_one hascii, List.singleton_append,
      decodeBytes_append_cons (by rw [Char.ofNat_toNat]; exact hdigit), hplain]
  rw [decode?, hbytes]
  exact Utf8.decode?_append_cons hascii

theorem decode?_append_slash : decode? (q ++ '/' :: x) = some u ↔
    ∃ v w, u = v ++ '/' :: w ∧ decode? q = some v ∧ decode? x = some w :=
  decode?_append_cons (by decide) rfl (by decide)

theorem decode?_slash : decode? ('/' :: x) = (decode? x).map ('/' :: ·) := by
  refine Option.ext fun u => ?_
  rw [Option.map_eq_some_iff]
  constructor
  · intro h
    obtain ⟨v, w, rfl, hv, hw⟩ := decode?_append_slash (q := []).mp h
    obtain rfl := Option.some.inj hv
    exact ⟨w, hw, rfl⟩
  · rintro ⟨w, hw, rfl⟩
    exact decode?_append_slash (q := []).mpr ⟨[], w, rfl, rfl, hw⟩

theorem decode?_append_one_slash :
    decode? (q ++ ['/']) = some u ↔ ∃ v, u = v ++ ['/'] ∧ decode? q = some v := by
  rw [decode?_append_slash]
  constructor
  · rintro ⟨v, w, rfl, hv, hw⟩
    obtain rfl := Option.some.inj hw
    exact ⟨v, rfl, hv⟩
  · rintro ⟨v, rfl, hv⟩
    exact ⟨v, [], rfl, hv, rfl⟩

/-- Giving a text a slash at its end does not change whether it is resolved. -/
theorem decode?_withTrailingSlash (h : decode? q = some d) :
    ∃ v, decode? (Text.withTrailingSlash q) = some v ∧ Text.withTrailingSlash d <+: v := by
  rcases Text.withTrailingSlash_cases (t := q) with ⟨⟨front, rfl⟩, hq⟩ | ⟨-, hq⟩
  · obtain ⟨v, rfl, -⟩ := decode?_append_one_slash.mp h
    rw [hq, Text.withTrailingSlash_append_slash]
    exact ⟨_, h, List.prefix_rfl⟩
  · rw [hq]
    exact ⟨d ++ ['/'], decode?_append_one_slash.mpr ⟨d, rfl, h⟩, Text.withTrailingSlash_starts⟩

theorem decode?_withTrailingSlash_append :
    decode? (Text.withTrailingSlash q ++ x) = some u ↔
      ∃ v w, u = v ++ w ∧ decode? (Text.withTrailingSlash q) = some v ∧ decode? x = some w := by
  obtain ⟨front, hfront⟩ := Text.withTrailingSlash_eq_append q
  rw [hfront, List.append_assoc, List.singleton_append, decode?_append_slash]
  simp only [decode?_append_one_slash]
  constructor
  · rintro ⟨v, w, rfl, hv, hw⟩
    exact ⟨v ++ ['/'], w, by simp, ⟨v, rfl, hv⟩, hw⟩
  · rintro ⟨_, w, rfl, ⟨v, rfl, hv⟩, hw⟩
    exact ⟨v, w, by simp, hv, hw⟩

theorem decode?_of_withTrailingSlash (h : decode? (Text.withTrailingSlash q) = some u) :
    (decode? q).isSome = true := by
  rcases Text.withTrailingSlash_eq (t := q) with hq | hq
  · rw [← hq, h]
    rfl
  · rw [hq] at h
    obtain ⟨v, -, hv⟩ := decode?_append_one_slash.mp h
    rw [hv]
    rfl

/-! ## Counting slashes

Resolving escapes makes no text longer and takes no slash away. So a text that changes when its
escapes are resolved does not start with what it is resolved to, with a slash behind each. -/

/-- The bytes with a slash behind them unless they end with one. -/
def slashed (bytes : List Nat) : List Nat :=
  if bytes.getLast? = some 0x2F then bytes else bytes ++ [0x2F]

theorem slashed_cons (h : rest ≠ []) : slashed (a :: rest) = a :: slashed rest := by
  obtain ⟨b, rest, rfl⟩ := List.exists_cons_of_ne_nil h
  rw [slashed, slashed, List.getLast?_cons_cons]
  split
  · rfl
  · rfl

theorem getLast?_slashed (bytes : List Nat) : (slashed bytes).getLast? = some 0x2F := by
  rw [slashed]
  split
  · assumption
  · exact List.getLast?_concat

theorem encode_withTrailingSlash :
    Utf8.encode (Text.withTrailingSlash t) = slashed (Utf8.encode t) := by
  rcases Text.withTrailingSlash_cases (t := t) with ⟨⟨front, rfl⟩, ht⟩ | ⟨hnot, ht⟩
  · rw [ht, slashed, if_pos]
    rw [Utf8.encode_append]
    exact List.getLast?_concat
  · rw [ht, slashed, if_neg, Utf8.encode_append]
    · rfl
    · intro hlast
      obtain ⟨front, hfront⟩ := List.getLast?_eq_some_iff.mp hlast
      obtain ⟨s₁, s₂, rfl, -, hs₂⟩ :=
        (Utf8.encode_eq_append_cons (d := '/') (by decide)).mp hfront
      obtain rfl : s₂ = [] := Utf8.encode_injective hs₂
      exact hnot ⟨s₁, rfl⟩

theorem digit_ne_slash {x : Nat} (h : hexValue? (Char.ofNat a) = some x) : a ≠ 0x2F := by
  rintro rfl
  exact nomatch h

theorem slashed_decodeBytes (bytes : List Nat) :
    (slashed (decodeBytes bytes)).length ≤ (slashed bytes).length ∧
      (slashed bytes).count 0x2F ≤ (slashed (decodeBytes bytes)).count 0x2F := by
  induction bytes using escapeInduction with
  | nil => exact ⟨Nat.le_refl _, Nat.le_refl _⟩
  | plain a rest h ih =>
      rw [decodeBytes_plain h]
      by_cases hrest : rest = []
      · subst hrest
        exact ⟨Nat.le_refl _, Nat.le_refl _⟩
      · rw [slashed_cons hrest, slashed_cons (decodeBytes_ne_nil hrest), List.count_cons,
          List.count_cons, List.length_cons, List.length_cons]
        omega
  | escape rest byte behind h ih =>
      rw [decodeBytes_escape h]
      obtain ⟨a, b, x, y, rfl, ha, hb, -⟩ := spelled?_eq_some.mp h
      have ha := digit_ne_slash ha
      have hb := digit_ne_slash hb
      by_cases hbehind : behind = []
      · -- the escape is all there is, and no slash stands behind it
        subst hbehind
        have hwritten : slashed [0x25, a, b] = [0x25, a, b, 0x2F] := if_neg (by simpa using hb)
        have hone : [0x25, a, b, 0x2F].count 0x2F = 1 := by simp [ha, hb]
        rw [hwritten, hone]
        refine ⟨?_, List.count_pos_iff.mpr (List.mem_of_getLast? (getLast?_slashed _))⟩
        rw [slashed]
        split
        · exact Nat.le_add_left 1 3
        · exact Nat.le_add_left 2 2
      · rw [slashed_cons (List.cons_ne_nil _ _), slashed_cons (List.cons_ne_nil _ _),
          slashed_cons hbehind, slashed_cons (decodeBytes_ne_nil hbehind)]
        simp only [List.length_cons, List.count_cons_of_ne ha, List.count_cons_of_ne hb,
          List.count_cons_of_ne (show 0x25 ≠ 0x2F by decide), List.count_cons]
        omega

/-- With a slash behind each, a text starts with what it is resolved to only when those are one. -/
theorem withTrailingSlash_eq_of_starts (h : decode? q = some d)
    (hstarts : Text.withTrailingSlash d <+: Text.withTrailingSlash q ++ x) :
    Text.withTrailingSlash d = Text.withTrailingSlash q := by
  have hd : Utf8.encode (Text.withTrailingSlash d) = slashed (decodeBytes (Utf8.encode q)) := by
    rw [encode_withTrailingSlash, Utf8.decode?_eq_some.mp h]
  have hq : Utf8.encode (Text.withTrailingSlash q) = slashed (Utf8.encode q) :=
    encode_withTrailingSlash
  obtain ⟨hlength, hcount⟩ := slashed_decodeBytes (Utf8.encode q)
  rw [← hd, ← hq] at hlength hcount
  obtain ⟨rest, hrest⟩ := List.prefix_of_prefix_length_le (Utf8.encode_mono hstarts)
    (Utf8.encode_mono (List.prefix_append _ _)) hlength
  -- what is left would end with a slash more
  have hnil : rest = [] := by
    by_contra hne
    have hlast := getLast?_slashed (Utf8.encode q)
    rw [← hq, ← hrest, List.getLast?_append_of_ne_nil _ hne] at hlast
    have hmem : 0x2F ∈ rest := List.mem_of_getLast? hlast
    have hpos := List.count_pos_iff.mpr hmem
    rw [← hrest, List.count_append] at hcount
    omega
  rw [hnil, List.append_nil] at hrest
  exact Utf8.encode_injective hrest

end Percent

end Signpost
