import Mathlib.Data.List.Basic
import Signpost.Text.Utf8

/-!
# Reading UTF-8 back

The bytes of a text are read back as that text, and bytes that are read as a text are its bytes. A
byte below 128 is a character of its own wherever it stands, so bytes can be cut at it into the
bytes of two texts.
-/

namespace Signpost.Utf8

variable {c : Char} {s t : Text} {bytes rest : List Nat}

theorem encode_cons : encode (c :: t) = encodeChar c ++ encode t := List.flatMap_cons

theorem encode_append : encode (s ++ t) = encode s ++ encode t := List.flatMap_append

theorem encode_mono (h : s <+: t) : encode s <+: encode t := by
  obtain ⟨rest, rfl⟩ := h
  rw [encode_append]
  exact List.prefix_append _ _

theorem toNat_lt : c.toNat < 0x110000 := by
  have hvalid := c.valid
  simp only [UInt32.isValidChar, Nat.isValidChar] at hvalid
  change c.val.toNat < _
  omega

theorem toNat_ofNat {n : Nat} (h : n.isValidChar) : (Char.ofNat n).toNat = n := by
  rw [Char.ofNat, dif_pos h]
  rfl

/-! ## One character -/

theorem encodeChar_one (h : c.toNat < 0x80) : encodeChar c = [c.toNat] := if_pos h

theorem encodeChar_two {a b : Nat} (h : c.toNat = a * 0x40 + b) (hb : b < 0x40)
    (hlow : 0x80 ≤ c.toNat) (hhigh : c.toNat < 0x800) : encodeChar c = [0xC0 + a, 0x80 + b] := by
  have ha : c.toNat / 0x40 = a := by omega
  have hmod : c.toNat % 0x40 = b := by omega
  rw [encodeChar, if_neg (by omega), if_pos hhigh, ha, hmod]

theorem encodeChar_three {a b d : Nat} (h : c.toNat = a * 0x1000 + b * 0x40 + d) (hb : b < 0x40)
    (hd : d < 0x40) (hlow : 0x800 ≤ c.toNat) (hhigh : c.toNat < 0x10000) :
    encodeChar c = [0xE0 + a, 0x80 + b, 0x80 + d] := by
  have ha : c.toNat / 0x1000 = a := by omega
  have hb : c.toNat / 0x40 % 0x40 = b := by omega
  have hd : c.toNat % 0x40 = d := by omega
  rw [encodeChar, if_neg (by omega), if_neg (by omega), if_pos hhigh, ha, hb, hd]

theorem encodeChar_four {a b d e : Nat}
    (h : c.toNat = a * 0x40000 + b * 0x1000 + d * 0x40 + e) (hb : b < 0x40) (hd : d < 0x40)
    (he : e < 0x40) (hlow : 0x10000 ≤ c.toNat) :
    encodeChar c = [0xF0 + a, 0x80 + b, 0x80 + d, 0x80 + e] := by
  have ha : c.toNat / 0x40000 = a := by omega
  have hb : c.toNat / 0x1000 % 0x40 = b := by omega
  have hd : c.toNat / 0x40 % 0x40 = d := by omega
  have he : c.toNat % 0x40 = e := by omega
  rw [encodeChar, if_neg (by omega), if_neg (by omega), if_neg (by omega), ha, hb, hd, he]

theorem continuation?_eq_some {b n : Nat} :
    continuation? b = some n ↔ b = 0x80 + n ∧ n < 0x40 := by
  rw [continuation?]
  split
  · rw [Option.some.injEq]
    omega
  · exact iff_of_false (fun h => nomatch h) (by omega)

theorem scalar?_eq_some {least n : Nat} : scalar? least n = some c ↔ least ≤ n ∧ n = c.toNat := by
  rw [scalar?]
  split
  next h =>
    rw [Option.some.injEq]
    constructor
    · rintro rfl
      exact ⟨h.1, (toNat_ofNat h.2).symm⟩
    · rintro ⟨-, rfl⟩
      exact Char.ofNat_toNat c
  next h =>
    refine iff_of_false (fun h => nomatch h) ?_
    rintro ⟨hleast, rfl⟩
    exact h ⟨hleast, c.valid⟩

theorem three_digits (n : Nat) : n / 0x1000 * 0x1000 + n / 0x40 % 0x40 * 0x40 + n % 0x40 = n := by
  omega

theorem four_digits (n : Nat) :
    n / 0x40000 * 0x40000 + n / 0x1000 % 0x40 * 0x1000 + n / 0x40 % 0x40 * 0x40 + n % 0x40 = n := by
  omega

/-- A character is read off its bytes. -/
theorem decodeChar?_encodeChar : decodeChar? (encodeChar c ++ rest) = some (c, rest) := by
  have hbound := toNat_lt (c := c)
  have continues (n : Nat) : continuation? (0x80 + n % 0x40) = some (n % 0x40) :=
    continuation?_eq_some.mpr ⟨rfl, Nat.mod_lt _ (by omega)⟩
  have hscalar {least : Nat} (h : least ≤ c.toNat) : scalar? least c.toNat = some c :=
    scalar?_eq_some.mpr ⟨h, rfl⟩
  rw [encodeChar]
  unfold decodeChar?
  by_cases h1 : c.toNat < 0x80
  · simp only [if_pos h1, List.singleton_append, Char.ofNat_toNat]
  by_cases h2 : c.toNat < 0x800
  · simp only [if_neg h1, if_pos h2, List.cons_append, List.nil_append, continues]
    rw [if_neg (by omega), if_pos (by omega)]
    rw [Option.bind_eq_bind, Option.bind_some, Nat.add_sub_cancel_left, Nat.div_add_mod',
      hscalar (Nat.le_of_not_lt h1)]
    rfl
  by_cases h3 : c.toNat < 0x10000
  · simp only [if_neg h1, if_neg h2, if_pos h3, List.cons_append, List.nil_append, continues]
    rw [if_neg (by omega), if_neg (by omega), if_pos (by omega)]
    rw [Option.bind_eq_bind, Option.bind_some, Option.bind_some, Nat.add_sub_cancel_left,
      three_digits, hscalar (Nat.le_of_not_lt h2)]
    rfl
  · simp only [if_neg h1, if_neg h2, if_neg h3, List.cons_append, List.nil_append, continues]
    rw [if_neg (by omega), if_neg (by omega), if_neg (by omega), if_pos (by omega)]
    rw [Option.bind_eq_bind, Option.bind_some, Option.bind_some, Option.bind_some,
      Nat.add_sub_cancel_left, four_digits, hscalar (Nat.le_of_not_lt h3)]
    rfl

/-- Bytes that a character is read off are its own. -/
theorem eq_encodeChar_of_decodeChar? (h : decodeChar? bytes = some (c, rest)) :
    bytes = encodeChar c ++ rest := by
  unfold decodeChar? at h
  split at h
  next => exact nomatch h
  next a tail =>
    split at h
    next h1 =>
      obtain ⟨rfl, rfl⟩ := Prod.mk.inj (Option.some.inj h)
      have hnat : (Char.ofNat a).toNat = a := toNat_ofNat (.inl (by omega))
      rw [encodeChar_one (by omega), hnat]
      rfl
    next h1 =>
      split at h
      next h2 =>
        split at h
        next b tail =>
          simp only [Option.bind_eq_bind, Option.bind_eq_some_iff, continuation?_eq_some,
            scalar?_eq_some, Option.pure_def, Option.some.injEq, Prod.mk.injEq] at h
          obtain ⟨y, ⟨rfl, hy⟩, d, ⟨hleast, hd⟩, rfl, rfl⟩ := h
          rw [encodeChar_two hd.symm hy (by omega) (by omega)]
          simp only [List.cons_append, List.nil_append, List.cons.injEq, and_true]
          omega
        next => exact nomatch h
      next h2 =>
        split at h
        next h3 =>
          split at h
          next b e tail =>
            simp only [Option.bind_eq_bind, Option.bind_eq_some_iff, continuation?_eq_some,
              scalar?_eq_some, Option.pure_def, Option.some.injEq, Prod.mk.injEq] at h
            obtain ⟨y, ⟨rfl, hy⟩, z, ⟨rfl, hz⟩, d, ⟨hleast, hd⟩, rfl, rfl⟩ := h
            rw [encodeChar_three hd.symm hy hz (by omega) (by omega)]
            simp only [List.cons_append, List.nil_append, List.cons.injEq, and_true]
            omega
          next => exact nomatch h
        next h3 =>
          split at h
          next h4 =>
            split at h
            next b e f tail =>
              simp only [Option.bind_eq_bind, Option.bind_eq_some_iff, continuation?_eq_some,
                scalar?_eq_some, Option.pure_def, Option.some.injEq, Prod.mk.injEq] at h
              obtain ⟨y, ⟨rfl, hy⟩, z, ⟨rfl, hz⟩, w, ⟨rfl, hw⟩, d, ⟨hleast, hd⟩, rfl, rfl⟩ := h
              rw [encodeChar_four hd.symm hy hz hw (by omega)]
              simp only [List.cons_append, List.nil_append, List.cons.injEq, and_true]
              omega
            next => exact nomatch h
          next => exact nomatch h

theorem decodeChar?_eq_some :
    decodeChar? bytes = some (c, rest) ↔ bytes = encodeChar c ++ rest := by
  constructor
  · exact eq_encodeChar_of_decodeChar?
  · rintro rfl
    exact decodeChar?_encodeChar

theorem encodeChar_ne_nil : encodeChar c ≠ [] := by
  intro h
  have hread := @decodeChar?_encodeChar c []
  rw [h] at hread
  exact nomatch hread

/-! ## Texts -/

theorem length_le_encode : t.length ≤ (encode t).length := by
  induction t with
  | nil => exact Nat.le_refl _
  | cons c t ih =>
      have hpos := List.length_pos_iff.mpr (encodeChar_ne_nil (c := c))
      rw [encode_cons, List.length_cons, List.length_append]
      omega

theorem decodeFuel_encode {fuel : Nat} (h : t.length ≤ fuel) :
    decodeFuel fuel (encode t) = some t := by
  induction t generalizing fuel with
  | nil => cases fuel <;> rfl
  | cons c t ih =>
      cases fuel with
      | zero => exact absurd h (by simp)
      | succ fuel =>
          have hrest := ih (Nat.le_of_succ_le_succ h)
          obtain ⟨b, tail, hbytes⟩ := List.exists_cons_of_ne_nil (encodeChar_ne_nil (c := c))
          have hread := @decodeChar?_encodeChar c (encode t)
          rw [encode_cons, hbytes, List.cons_append, decodeFuel, ← List.cons_append, ← hbytes, hread,
            Option.bind_eq_bind, Option.bind_some]
          dsimp only
          rw [hrest]
          rfl

theorem encode_of_decodeFuel {fuel : Nat} (h : decodeFuel fuel bytes = some t) :
    encode t = bytes := by
  induction fuel generalizing bytes t with
  | zero =>
      cases bytes with
      | nil =>
          obtain rfl := Option.some.inj h
          rfl
      | cons b rest => exact nomatch h
  | succ fuel ih =>
      cases bytes with
      | nil =>
          obtain rfl := Option.some.inj h
          rfl
      | cons b rest =>
          simp only [decodeFuel, Option.bind_eq_bind, Option.bind_eq_some_iff, Option.pure_def,
            Option.some.injEq, Prod.exists] at h
          obtain ⟨c, behind, hread, t, hrest, rfl⟩ := h
          rw [encode_cons, ih hrest, decodeChar?_eq_some.mp hread]

/-- Reading undoes writing, and reads nothing else. -/
theorem decode?_eq_some : decode? bytes = some t ↔ encode t = bytes := by
  constructor
  · exact encode_of_decodeFuel
  · rintro rfl
    exact decodeFuel_encode length_le_encode

theorem encode_injective (h : encode s = encode t) : s = t := by
  have hs : decode? (encode s) = some s := decode?_eq_some.mpr rfl
  rw [h, decode?_eq_some.mpr rfl] at hs
  exact (Option.some.inj hs).symm

/-- The highest bytes stand in the bytes of no character. -/
theorem lt_highest_of_mem_encodeChar {b : Nat} (h : b ∈ encodeChar c) : b < 0xF5 := by
  have hbound := toNat_lt (c := c)
  rw [encodeChar] at h
  split at h
  · simp only [List.mem_cons, List.not_mem_nil, or_false] at h
    omega
  · split at h
    · simp only [List.mem_cons, List.not_mem_nil, or_false] at h
      omega
    · split at h <;> (simp only [List.mem_cons, List.not_mem_nil, or_false] at h; omega)

theorem lt_of_mem_encodeChar {b : Nat} (h : b ∈ encodeChar c) : b < 256 :=
  Nat.lt_trans (lt_highest_of_mem_encodeChar h) (by decide)

/-! ## Cutting at an ASCII character -/

variable {d : Char}

/-- A byte below 128 stands in the bytes of one character alone. -/
theorem encodeChar_of_mem {n : Nat} (hn : n < 0x80) (h : n ∈ encodeChar c) :
    c.toNat = n ∧ encodeChar c = [n] := by
  by_cases h1 : c.toNat < 0x80
  · rw [encodeChar_one h1] at h ⊢
    obtain rfl := List.mem_singleton.mp h
    exact ⟨rfl, rfl⟩
  · rw [encodeChar, if_neg h1] at h
    split at h
    · simp only [List.mem_cons, List.not_mem_nil, or_false] at h
      omega
    · split at h <;> (simp only [List.mem_cons, List.not_mem_nil, or_false] at h; omega)

/-- Bytes cut at an ASCII character are cut between characters. -/
theorem encode_eq_append_cons (hd : d.toNat < 0x80) {before behind : List Nat} :
    encode t = before ++ d.toNat :: behind ↔
      ∃ s₁ s₂, t = s₁ ++ d :: s₂ ∧ encode s₁ = before ∧ encode s₂ = behind := by
  constructor
  · intro h
    induction t generalizing before with
    | nil => exact absurd h.symm (by simp [encode])
    | cons c t ih =>
        rw [encode_cons] at h
        rcases List.append_eq_append_iff.mp h with ⟨tail, rfl, ht⟩ | ⟨tail, hc, ht⟩
        · obtain ⟨s₁, s₂, rfl, rfl, rfl⟩ := ih ht
          exact ⟨c :: s₁, s₂, rfl, encode_cons, rfl⟩
        · cases tail with
          | nil =>
              obtain ⟨s₁, s₂, rfl, hs₁, rfl⟩ := @ih [] ht.symm
              refine ⟨c :: s₁, s₂, rfl, ?_, rfl⟩
              rw [encode_cons, hs₁, hc]
              simp
          | cons n tail =>
              obtain ⟨rfl, htail⟩ := List.cons.inj ht
              have hmem : d.toNat ∈ encodeChar c := by simp [hc]
              obtain ⟨hnat, hsingle⟩ := encodeChar_of_mem hd hmem
              have hcd : c = d := by rw [← Char.ofNat_toNat c, hnat, Char.ofNat_toNat]
              subst hcd
              rw [hsingle] at hc
              obtain ⟨rfl, rfl⟩ : before = [] ∧ tail = [] := by
                cases before with
                | nil => exact ⟨rfl, by simpa using hc.symm⟩
                | cons b before => simp at hc
              exact ⟨[], t, rfl, rfl, htail.symm⟩
  · rintro ⟨s₁, s₂, rfl, rfl, rfl⟩
    rw [encode_append, encode_cons, encodeChar_one hd]
    rfl

/-- Bytes around an ASCII character are read on both sides of it or not at all. -/
theorem decode?_append_cons (hd : d.toNat < 0x80) {before behind : List Nat} :
    decode? (before ++ d.toNat :: behind) = some t ↔
      ∃ s₁ s₂, t = s₁ ++ d :: s₂ ∧ decode? before = some s₁ ∧ decode? behind = some s₂ := by
  simp only [decode?_eq_some]
  exact encode_eq_append_cons hd

end Signpost.Utf8
