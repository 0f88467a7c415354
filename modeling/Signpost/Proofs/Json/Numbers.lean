import Signpost.Json.Reader
import Signpost.Proofs.Json.Bodies

/-!
# How numbers are spelled

The grammar of JSON numbers, stated apart from the reader. A number is passed over exactly when it
is spelled so, and none is taken in that would not be passed over.
-/

namespace Signpost.Json

open Document

/-- A run of digits that is not empty. -/
def Digits (t : Text) : Prop := t ≠ [] ∧ ∀ c ∈ t, Text.isDigit c = true

/-- The digits before the point; only zero itself starts with a zero. -/
inductive IsWhole : Text → Prop where
  | zero : IsWhole ['0']
  | digits {c : Char} {t : Text} (h : Digits (c :: t)) (hc : c ≠ '0') : IsWhole (c :: t)

/-- The point and the digits behind it, or nothing. -/
inductive IsFraction : Text → Prop where
  | none : IsFraction []
  | some {t : Text} (h : Digits t) : IsFraction ('.' :: t)

/-- The power of ten, or nothing. -/
inductive IsPower : Text → Prop where
  | none : IsPower []
  | some {e : Char} {sign t : Text} (he : e = 'e' ∨ e = 'E')
      (hsign : sign = [] ∨ sign = ['+'] ∨ sign = ['-']) (h : Digits t) : IsPower (e :: (sign ++ t))

/-- A number without sign. -/
inductive IsMagnitude : Text → Prop where
  | mk {whole fraction power : Text} (hwhole : IsWhole whole) (hfraction : IsFraction fraction)
      (hpower : IsPower power) : IsMagnitude (whole ++ (fraction ++ power))

/-- A number. -/
inductive IsNumber : Text → Prop where
  | plain {t : Text} (h : IsMagnitude t) : IsNumber t
  | minus {t : Text} (h : IsMagnitude t) : IsNumber ('-' :: t)

/-- No number goes on here. -/
def Stops (t : Text) : Prop :=
  ∀ c ∈ t.head?, Text.isDigit c = false ∧ c ≠ '.' ∧ c ≠ 'e' ∧ c ≠ 'E'

theorem Digits.head {t : Text} (h : Digits t) : ∃ c u, t = c :: u ∧ Text.isDigit c = true := by
  obtain ⟨hne, hall⟩ := h
  cases t with
  | nil => exact absurd rfl hne
  | cons c u => exact ⟨c, u, rfl, hall c List.mem_cons_self⟩

theorem dropWhile_isDigit {t rest : Text} (h : ∀ c ∈ t, Text.isDigit c = true)
    (hrest : ∀ c ∈ rest.head?, Text.isDigit c = false) :
    (t ++ rest).dropWhile Text.isDigit = rest := by
  rw [List.dropWhile_append_of_pos h]
  cases rest with
  | nil => rfl
  | cons c rest => rw [List.dropWhile_cons_of_neg (by rw [hrest c rfl]; decide)]

theorem ne_of_isDigit {c d : Char} (hc : Text.isDigit c = true) (hd : Text.isDigit d = false) :
    c ≠ d := by
  rintro rfl
  exact Bool.false_ne_true (hd.symm.trans hc)

/-! ## Passing over what is spelled as a number

Passing over a number is taken apart into what is passed over from its power and from the point on.
-/

def dropSign (t : Text) : Text :=
  match t with
  | '+' :: rest => rest
  | '-' :: rest => rest
  | _ => t

def passDigits (t : Text) : Except Fault Text :=
  match t with
  | [] => .error ⟨.badNumber, ⟨[], 0⟩⟩
  | c :: _ =>
    if Text.isDigit c then .ok (t.dropWhile Text.isDigit) else .error ⟨.badNumber, ⟨t, 1⟩⟩

theorem passPower_eq (t : Text) : passPower t = passDigits (dropSign t) := rfl

/-- What is passed over behind the digits of a fraction. -/
def passTail (t : Text) : Except Fault Text :=
  match t with
  | 'e' :: more => passPower more
  | 'E' :: more => passPower more
  | rest => .ok rest

/-- What is passed over behind the digits before the point. -/
def passBehind (t : Text) : Except Fault Text :=
  match t with
  | '.' :: more => passFraction more
  | 'e' :: more => passPower more
  | 'E' :: more => passPower more
  | _ => .ok t

section Passing

variable {t rest : Text}

theorem passPower_append {sign : Text} (hsign : sign = [] ∨ sign = ['+'] ∨ sign = ['-'])
    (h : Digits t) (hrest : Stops rest) : passPower (sign ++ t ++ rest) = .ok rest := by
  have hdrop := dropWhile_isDigit h.2 fun c hc => (hrest c hc).1
  obtain ⟨c, u, rfl, hc⟩ := h.head
  have hstrip : dropSign (sign ++ (c :: u) ++ rest) = c :: u ++ rest := by
    rcases hsign with rfl | rfl | rfl
    · rw [List.nil_append, List.cons_append, dropSign]
      · rintro _ ⟨⟩
        cases hc
      · rintro _ ⟨⟩
        cases hc
    · rfl
    · rfl
  rw [passPower_eq, hstrip]
  exact (if_pos hc).trans (congrArg Except.ok hdrop)

theorem passTail_append {power : Text} (h : IsPower power) (hrest : Stops rest) :
    passTail (power ++ rest) = .ok rest := by
  cases h with
  | none =>
      rw [List.nil_append, passTail]
      · rintro more rfl
        exact (hrest 'e' rfl).2.2.1 rfl
      · rintro more rfl
        exact (hrest 'E' rfl).2.2.2 rfl
  | some he hsign h =>
      rcases he with rfl | rfl
      · exact passPower_append hsign h hrest
      · exact passPower_append hsign h hrest

theorem passFraction_append (h : Digits t) (hrest : ∀ c ∈ rest.head?, Text.isDigit c = false) :
    passFraction (t ++ rest) = passTail rest := by
  have hdrop := dropWhile_isDigit h.2 hrest
  obtain ⟨c, u, rfl, hc⟩ := h.head
  rw [List.cons_append] at hdrop ⊢
  rw [passFraction, hc, hdrop, if_neg (by decide)]
  rfl

theorem passBehind_eq_passTail (h : ∀ c ∈ t.head?, c ≠ '.') : passBehind t = passTail t := by
  rw [passBehind.eq_def]
  split
  · exact absurd rfl (h '.' rfl)
  · rfl
  · rfl
  next hlower hupper =>
    rw [passTail]
    · exact hlower
    · exact hupper

theorem IsPower.head {power : Text} (h : IsPower power) (hrest : Stops rest) :
    ∀ c ∈ (power ++ rest).head?, Text.isDigit c = false ∧ c ≠ '.' := by
  cases h with
  | none => exact fun c hc => ⟨(hrest c hc).1, (hrest c hc).2.1⟩
  | some he =>
      rintro _ ⟨⟩
      rcases he with rfl | rfl <;> exact ⟨rfl, by decide⟩

theorem passNumber_append (h : IsWhole t) (hrest : ∀ c ∈ rest.head?, Text.isDigit c = false) :
    passNumber (t ++ rest) = passBehind rest := by
  cases h with
  | zero =>
      have hany : rest.head?.any Text.isDigit = false := by
        cases hhead : rest.head? with
        | none => rfl
        | some c => exact hrest c hhead
      show passNumber ('0' :: rest) = _
      rw [passNumber, if_neg (by decide), passBehind.eq_def]
      simp only [if_true, hany, Bool.and_false]
      rfl
  | digits h hc =>
      have hdrop := dropWhile_isDigit h.2 hrest
      rw [List.cons_append] at hdrop ⊢
      rw [passNumber, h.2 _ List.mem_cons_self, hdrop, passBehind.eq_def]
      simp only [if_neg hc, decide_eq_false hc, Bool.false_and]
      rfl

theorem IsMagnitude.passes (h : IsMagnitude t) (hrest : Stops rest) :
    passNumber (t ++ rest) = .ok rest := by
  cases h with
  | @mk whole fraction power hwhole hfraction hpower =>
      have hhead := hpower.head hrest
      rw [List.append_assoc, List.append_assoc]
      cases hfraction with
      | none =>
          rw [List.nil_append, passNumber_append hwhole fun c hc => (hhead c hc).1,
            passBehind_eq_passTail fun c hc => (hhead c hc).2]
          exact passTail_append hpower hrest
      | some h =>
          rw [passNumber_append hwhole (by rintro _ ⟨⟩; rfl)]
          exact (passFraction_append h fun c hc => (hhead c hc).1).trans
            (passTail_append hpower hrest)

end Passing

/-! ## What was passed over is spelled as a number -/

section Spelled

variable {t rest : Text}

/-- The digits at the head of a text. -/
theorem digits_of_head {c : Char} (hc : Text.isDigit c = true) (t : Text) :
    ∃ u, c :: t = (c :: u) ++ (c :: t).dropWhile Text.isDigit ∧ Digits (c :: u) := by
  refine ⟨t.takeWhile Text.isDigit, ?_, List.cons_ne_nil _ _, ?_⟩
  · rw [← List.takeWhile_cons_of_pos hc, List.takeWhile_append_dropWhile]
  · rw [← List.takeWhile_cons_of_pos hc]
    exact List.all_eq_true.mp List.all_takeWhile

theorem dropSign_eq (t : Text) :
    ∃ sign, t = sign ++ dropSign t ∧ (sign = [] ∨ sign = ['+'] ∨ sign = ['-']) := by
  rw [dropSign.eq_def]
  split
  · exact ⟨['+'], rfl, .inr (.inl rfl)⟩
  · exact ⟨['-'], rfl, .inr (.inr rfl)⟩
  · exact ⟨[], rfl, .inl rfl⟩

theorem passDigits_eq_ok : passDigits t = .ok rest ↔
    rest = t.dropWhile Text.isDigit ∧ ∃ c u, t = c :: u ∧ Text.isDigit c = true := by
  cases t with
  | nil => simp [passDigits]
  | cons c t =>
      rw [passDigits]
      split
      next hc =>
        exact ⟨fun h => ⟨(Except.ok.inj h).symm, c, t, rfl, hc⟩, fun h => congrArg _ h.1.symm⟩
      next hc =>
        refine ⟨nofun, ?_⟩
        rintro ⟨-, _, _, ⟨⟩, h⟩
        exact absurd h hc

theorem isPower_of_passPower {e : Char} (he : e = 'e' ∨ e = 'E') (h : passPower t = .ok rest) :
    ∃ power, e :: t = power ++ rest ∧ IsPower power := by
  rw [passPower_eq] at h
  obtain ⟨sign, ht, hsign⟩ := dropSign_eq t
  obtain ⟨hrest, c, u, hu, hc⟩ := passDigits_eq_ok.mp h
  obtain ⟨v, hv, hdigits⟩ := digits_of_head hc u
  rw [← hu, ← hrest] at hv
  refine ⟨e :: (sign ++ c :: v), ?_, .some he hsign hdigits⟩
  rw [List.cons_append, List.append_assoc, ← hv, ← ht]

theorem isPower_of_passTail (h : passTail t = .ok rest) :
    ∃ power, t = power ++ rest ∧ IsPower power := by
  rw [passTail.eq_def] at h
  split at h
  · exact isPower_of_passPower (.inl rfl) h
  · exact isPower_of_passPower (.inr rfl) h
  · obtain rfl := Except.ok.inj h
    exact ⟨[], rfl, .none⟩

/-- A fraction and its power are passed over. -/
theorem passFraction_eq_ok (h : passFraction t = .ok rest) :
    ∃ digits power, t = digits ++ (power ++ rest) ∧ Digits digits ∧ IsPower power := by
  rw [passFraction.eq_def] at h
  split at h
  · cases h
  next c u =>
    split at h
    · cases h
    rename_i hc
    rw [Bool.not_eq_true', Bool.not_eq_false] at hc
    obtain ⟨v, hv, hdigits⟩ := digits_of_head hc u
    obtain ⟨power, hpower, hspelled⟩ := isPower_of_passTail h
    rw [hpower] at hv
    exact ⟨c :: v, power, hv, hdigits, hspelled⟩

theorem isFraction_of_passBehind (h : passBehind t = .ok rest) :
    ∃ fraction power, t = fraction ++ (power ++ rest) ∧ IsFraction fraction ∧ IsPower power := by
  rw [passBehind.eq_def] at h
  split at h
  · obtain ⟨digits, power, rfl, hdigits, hpower⟩ := passFraction_eq_ok h
    exact ⟨'.' :: digits, power, rfl, .some hdigits, hpower⟩
  · obtain ⟨power, ht, hpower⟩ := isPower_of_passPower (.inl rfl) h
    exact ⟨[], power, ht, .none, hpower⟩
  · obtain ⟨power, ht, hpower⟩ := isPower_of_passPower (.inr rfl) h
    exact ⟨[], power, ht, .none, hpower⟩
  · obtain rfl := Except.ok.inj h
    exact ⟨[], [], rfl, .none, .none⟩

theorem isWhole_of_passNumber (h : passNumber t = .ok rest) :
    ∃ whole behind, t = whole ++ behind ∧ IsWhole whole ∧ passBehind behind = .ok rest := by
  rw [passNumber.eq_def] at h
  split at h
  · cases h
  next c tail =>
    split at h
    · cases h
    rename_i hc
    rw [Bool.not_eq_true', Bool.not_eq_false] at hc
    by_cases hzero : c = '0'
    · refine ⟨['0'], tail, by rw [hzero, List.singleton_append], .zero, ?_⟩
      simp only [if_pos hzero] at h
      split at h
      · exact h
      · exact h
      · exact h
      next hdot hlower hupper =>
        split at h
        · cases h
        · rw [passBehind]
          · exact h
          all_goals assumption
    · obtain ⟨v, hv, hdigits⟩ := digits_of_head hc tail
      refine ⟨c :: v, _, hv, .digits hdigits hzero, ?_⟩
      simp only [if_neg hzero, decide_eq_false hzero, Bool.false_and] at h
      exact h

theorem isMagnitude_of_passNumber (h : passNumber t = .ok rest) :
    ∃ u, t = u ++ rest ∧ IsMagnitude u := by
  obtain ⟨whole, behind, rfl, hwhole, hbehind⟩ := isWhole_of_passNumber h
  obtain ⟨fraction, power, rfl, hfraction, hpower⟩ := isFraction_of_passBehind hbehind
  refine ⟨whole ++ (fraction ++ power), ?_, .mk hwhole hfraction hpower⟩
  rw [List.append_assoc, List.append_assoc]

end Spelled

/-! ## Taking numbers in -/

section Taking

variable {negative : Bool} {significand : Nat} {start : Int} {t rest : Text}

/-- What a calculation hands over with the rest of the text. -/
theorem rest_of_bind {α : Type} {r : Except Fault α} {found : α × Text}
    (h : (do
      let x ← r
      return (x, rest)) = .ok found) : found.2 = rest := by
  cases r with
  | error fault => cases h
  | ok x => exact (congrArg Prod.snd (Except.ok.inj h)).symm

theorem passPower_of_readPower {x : Binary64}
    (h : readPower negative significand start t = .ok (x, rest)) : passPower t = .ok rest := by
  rw [readPower.eq_def] at h
  split at h
  next down u hsign =>
    have hu : u = dropSign t := by
      split at hsign
      · exact (Prod.mk.inj hsign).2.symm
      · exact (Prod.mk.inj hsign).2.symm
      next hplus hminus =>
        rw [dropSign]
        · exact (Prod.mk.inj hsign).2.symm
        · exact hplus
        · exact hminus
    rw [passPower_eq, ← hu]
    split at h
    · cases h
    next c tail =>
      split at h
      · cases h
      rename_i hc
      rw [Bool.not_eq_true', Bool.not_eq_false] at hc
      refine passDigits_eq_ok.mpr ⟨?_, c, tail, rfl, hc⟩
      dsimp only at h
      split at h
      · split at h
        · cases h
        · exact (Prod.mk.inj (Except.ok.inj h)).2.symm
      · exact rest_of_bind h

theorem passFraction_of_readFraction {x : Binary64}
    (h : readFraction negative significand start t = .ok (x, rest)) :
    passFraction t = .ok rest := by
  rw [readFraction.eq_def] at h
  dsimp only at h
  split at h
  · split at h <;> cases h
  rename_i hdigits
  rw [passFraction.eq_def]
  split
  · exact absurd rfl hdigits
  next c tail =>
    by_cases hc : Text.isDigit c = true
    · rw [hc, if_neg (by decide)]
      split at h
      · exact passPower_of_readPower h
      · exact passPower_of_readPower h
      · exact congrArg Except.ok (rest_of_bind h).symm
    · rw [List.takeWhile_cons_of_neg hc] at hdigits
      exact absurd rfl hdigits

/-- What is taken in could be passed over. -/
theorem passNumber_of_readNumber {x : Number} (h : readNumber negative t = .ok (x, rest)) :
    passNumber t = .ok rest := by
  rw [readNumber.eq_def] at h
  rw [passNumber.eq_def]
  split at h
  · cases h
  next c tail =>
    split at h
    · cases h
    rename_i hc
    rw [if_neg hc]
    dsimp only at h ⊢
    generalize (if c = '0' then tail else (c :: tail).dropWhile Text.isDigit) = behind at h ⊢
    generalize (if c = '0' then ['0'] else (c :: tail).takeWhile Text.isDigit) = digits at h
    split at h
    · obtain ⟨found, hread, hfound⟩ := map_eq_ok.mp h
      obtain ⟨-, rfl⟩ := Prod.mk.inj hfound
      exact passFraction_of_readFraction hread
    · obtain ⟨found, hread, hfound⟩ := map_eq_ok.mp h
      obtain ⟨-, rfl⟩ := Prod.mk.inj hfound
      exact passPower_of_readPower hread
    · obtain ⟨found, hread, hfound⟩ := map_eq_ok.mp h
      obtain ⟨-, rfl⟩ := Prod.mk.inj hfound
      exact passPower_of_readPower hread
    · split at h
      · cases h
      rename_i hzero
      rw [if_neg hzero]
      split at h
      · exact congrArg Except.ok (Prod.mk.inj (Except.ok.inj h)).2
      · obtain ⟨found, hread, hfound⟩ := map_eq_ok.mp h
        obtain ⟨-, rfl⟩ := Prod.mk.inj hfound
        exact congrArg Except.ok (rest_of_bind hread).symm

/-- A number without sign that is spelled correctly is found, be it one that can be taken in or
not. -/
theorem IsMagnitude.found {u : Text} (h : IsMagnitude u) (hrest : Stops rest) :
    ∃ node, numberNode negative (u ++ rest) = (node, rest) ∧
      ((∃ n after, node = .integer n after) ∨ (∃ x after, node = .float x after) ∨
        ∃ fault, node = .unreadable fault) := by
  have hpass := h.passes hrest
  rw [numberNode]
  split
  next hread =>
    obtain rfl := Except.ok.inj ((passNumber_of_readNumber hread).symm.trans hpass)
    exact ⟨_, rfl, .inl ⟨_, _, rfl⟩⟩
  next hread =>
    obtain rfl := Except.ok.inj ((passNumber_of_readNumber hread).symm.trans hpass)
    exact ⟨_, rfl, .inr (.inl ⟨_, _, rfl⟩)⟩
  · rw [hpass]
    exact ⟨_, rfl, .inr (.inr ⟨_, rfl⟩)⟩

end Taking

end Signpost.Json
