import Signpost.Proofs.Json.Quoted
import Signpost.Proofs.Outcome

/-!
# What stands between quotes

The grammar of JSON texts, stated apart from the reader. A body is what stands between two quotes.
In every body each escape is spelled correctly; a body denotes a text if its surrogates stand in
pairs besides. A text is taken in exactly when its body denotes it, and passed over exactly when
there is a body.
-/

namespace Signpost.Json

open Document

/-- Four hexadecimal digits and their number. -/
inductive FourHex : Text → Nat → Prop where
  | mk {w x y z : Char} {a b c d : Nat} (hw : Text.hexValue? w = some a)
      (hx : Text.hexValue? x = some b) (hy : Text.hexValue? y = some c)
      (hz : Text.hexValue? z = some d) : FourHex [w, x, y, z] (((a * 16 + b) * 16 + c) * 16 + d)

/-- What stands behind a backslash, and the character it denotes. -/
inductive Escapes : Text → Char → Prop where
  | letter {c x : Char} (h : letterEscape? c = some x) : Escapes [c] x
  | number {digits : Text} {n : Nat} (h : FourHex digits n) (hn : ¬(0xD800 ≤ n ∧ n ≤ 0xDFFF)) :
      Escapes ('u' :: digits) (Char.ofNat n)
  | pair {digits digits' : Text} {high low : Nat} (hhigh : FourHex digits high)
      (hlow : FourHex digits' low) (h : 0xD800 ≤ high ∧ high ≤ 0xDBFF)
      (h' : 0xDC00 ≤ low ∧ low ≤ 0xDFFF) :
      Escapes ('u' :: (digits ++ '\\' :: 'u' :: digits'))
        (Char.ofNat (0x10000 + (high - 0xD800) * 0x400 + (low - 0xDC00)))

/-- What may stand behind a backslash. -/
inductive IsEscape : Text → Prop where
  | letter {c x : Char} (h : letterEscape? c = some x) : IsEscape [c]
  | number {digits : Text} {n : Nat} (h : FourHex digits n) : IsEscape ('u' :: digits)

/-- A character that stands for itself between quotes. -/
def IsPlain (c : Char) : Prop := c ≠ '"' ∧ c ≠ '\\' ∧ ¬c.toNat < 0x20

/-- The body denotes the text. -/
inductive Denotes : Text → Text → Prop where
  | nil : Denotes [] []
  | plain {c : Char} {body t : Text} (hc : IsPlain c) (rest : Denotes body t) :
      Denotes (c :: body) (c :: t)
  | escape {e body t : Text} {x : Char} (he : Escapes e x) (rest : Denotes body t) :
      Denotes ('\\' :: (e ++ body)) (x :: t)

/-- What may stand between quotes. -/
inductive IsBody : Text → Prop where
  | nil : IsBody []
  | plain {c : Char} {body : Text} (hc : IsPlain c) (rest : IsBody body) : IsBody (c :: body)
  | escape {e body : Text} (he : IsEscape e) (rest : IsBody body) : IsBody ('\\' :: (e ++ body))

/-- The body denotes the text, or none because of a surrogate that stands alone. -/
def Names (body : Text) : Option Text → Prop
  | some t => Denotes body t
  | none => IsBody body ∧ ∀ t, ¬Denotes body t

/-! ## Escapes -/

theorem FourHex.length {digits : Text} {n : Nat} (h : FourHex digits n) : digits.length = 4 := by
  cases h
  rfl

theorem FourHex.reads {digits : Text} {n : Nat} (h : FourHex digits n) (t : Text) :
    fourDigits (digits ++ t) = .ok n := by
  cases h with
  | mk hw hx hy hz => exact fourDigits_append rfl (by simp [hw, hx, hy, hz]) t

/-- A list that is read element by element into one with a first element has a first element. -/
theorem mapM_eq_some_cons {t : Text} {f : Char → Option Nat} {b : Nat} {bs : List Nat}
    (h : t.mapM f = some (b :: bs)) :
    ∃ c rest, t = c :: rest ∧ f c = some b ∧ rest.mapM f = some bs := by
  cases t with
  | nil => cases h
  | cons c rest =>
      rw [List.mapM_cons] at h
      obtain ⟨a, ha, h⟩ := Option.bind_eq_some_iff.mp h
      obtain ⟨as, has, h⟩ := Option.bind_eq_some_iff.mp h
      obtain ⟨rfl, rfl⟩ := List.cons.inj (Option.some.inj h)
      exact ⟨c, rest, rfl, ha, has⟩

theorem fourHex_of_fourDigits {t : Text} {n : Nat} (h : fourDigits t = .ok n) :
    ∃ digits rest, t = digits ++ rest ∧ FourHex digits n := by
  rw [fourDigits] at h
  split at h
  · cases h
  split at h
  next a b c d hvalue =>
    obtain rfl := Except.ok.inj h
    have hlen := List.length_take_le 4 t
    obtain ⟨w, u, htake, hw, hvalue⟩ := mapM_eq_some_cons hvalue
    obtain ⟨x, u, rfl, hx, hvalue⟩ := mapM_eq_some_cons hvalue
    obtain ⟨y, u, rfl, hy, hvalue⟩ := mapM_eq_some_cons hvalue
    obtain ⟨z, u, rfl, hz, hvalue⟩ := mapM_eq_some_cons hvalue
    simp only [htake, List.length_cons] at hlen
    obtain rfl : u = [] := List.length_eq_zero_iff.mp (by omega)
    exact ⟨[w, x, y, z], t.drop 4, by rw [← htake, List.take_append_drop], .mk hw hx hy hz⟩
  · cases h

theorem ne_u_of_letterEscape? {c x : Char} (h : letterEscape? c = some x) : c ≠ 'u' := by
  rintro rfl
  cases h

theorem Escapes.reads {e : Text} {x : Char} (h : Escapes e x) (t : Text) :
    readEscape (e ++ t) = .ok (x, e.length) := by
  cases h with
  | letter h =>
      rw [List.singleton_append, readEscape]
      · simp only [h]
        rfl
      · exact ne_u_of_letterEscape? h
  | number h hn =>
      simp only [List.cons_append, readEscape, h.reads, bind, Except.bind, List.length_cons,
        h.length]
      rw [if_neg (by simp; omega), if_neg (by simp; omega)]
  | @pair digits digits' high low hhigh hlow h h' =>
      have hdrop : (digits ++ '\\' :: 'u' :: (digits' ++ t)).drop 4 =
          '\\' :: 'u' :: (digits' ++ t) := List.drop_left' hhigh.length
      simp only [List.cons_append, List.append_assoc, readEscape, hhigh.reads, bind, Except.bind,
        hdrop, lowSurrogate, hlow.reads, List.length_cons, List.length_append, hhigh.length,
        hlow.length]
      rw [if_neg (by simp; omega), if_pos (by simp; omega), if_neg (by simp; omega)]

theorem IsEscape.passes {e : Text} (h : IsEscape e) (t : Text) :
    passEscape (e ++ t) = .ok e.length := by
  cases h with
  | letter h =>
      rw [List.singleton_append, passEscape]
      · simp only [h]
        rfl
      · exact ne_u_of_letterEscape? h
  | number h =>
      simp only [List.cons_append, passEscape, h.reads, bind, Except.bind, List.length_cons,
        h.length]
      rfl

theorem escapes_of_lowSurrogate {high n : Nat} {digits t : Text} {x : Char}
    (hhigh : FourHex digits high) (hrange : 0xD800 ≤ high ∧ high ≤ 0xDBFF)
    (h : lowSurrogate high t = .ok (x, n)) :
    ∃ e rest, 'u' :: (digits ++ t) = e ++ rest ∧ e.length = n ∧ Escapes e x := by
  rw [lowSurrogate.eq_def] at h
  split at h
  · cases h
  · cases h
  next rest =>
    cases hdigits : fourDigits rest with
    | error fault =>
        rw [hdigits] at h
        cases h
    | ok low =>
        obtain ⟨digits', rest, rfl, hlow⟩ := fourHex_of_fourDigits hdigits
        simp only [hdigits, bind, Except.bind] at h
        split at h
        · cases h
        rename_i hlone
        obtain ⟨rfl, rfl⟩ := Prod.mk.inj (Except.ok.inj h)
        refine ⟨'u' :: (digits ++ '\\' :: 'u' :: digits'), rest, ?_, ?_,
          .pair hhigh hlow hrange ?_⟩
        · simp only [List.cons_append, List.append_assoc]
        · simp only [List.length_cons, List.length_append, hhigh.length, hlow.length]
        · simpa using hlone
  · cases h
  · cases h

theorem escapes_of_readEscape {t : Text} {x : Char} {n : Nat} (h : readEscape t = .ok (x, n)) :
    ∃ e rest, t = e ++ rest ∧ e.length = n ∧ Escapes e x := by
  rw [readEscape.eq_def] at h
  split at h
  · cases h
  next rest =>
    cases hdigits : fourDigits rest with
    | error fault =>
        rw [hdigits] at h
        cases h
    | ok code =>
        obtain ⟨digits, rest, rfl, hcode⟩ := fourHex_of_fourDigits hdigits
        simp only [hdigits, bind, Except.bind] at h
        split at h
        · cases h
        rename_i hlow
        split at h
        · rename_i hhigh
          rw [List.drop_left' hcode.length] at h
          exact escapes_of_lowSurrogate hcode (by simpa using hhigh) h
        · rename_i hhigh
          obtain ⟨rfl, rfl⟩ := Prod.mk.inj (Except.ok.inj h)
          refine ⟨'u' :: digits, rest, rfl, by rw [List.length_cons, hcode.length], .number hcode ?_⟩
          simp at hlow hhigh
          omega
  next c rest _ =>
    split at h
    next hletter =>
      obtain ⟨rfl, rfl⟩ := Prod.mk.inj (Except.ok.inj h)
      exact ⟨[c], rest, rfl, rfl, .letter hletter⟩
    · cases h

theorem isEscape_of_passEscape {t : Text} {n : Nat} (h : passEscape t = .ok n) :
    ∃ e rest, t = e ++ rest ∧ e.length = n ∧ IsEscape e := by
  rw [passEscape.eq_def] at h
  split at h
  · cases h
  next rest =>
    cases hdigits : fourDigits rest with
    | error fault =>
        rw [hdigits] at h
        cases h
    | ok code =>
        obtain ⟨digits, rest, rfl, hcode⟩ := fourHex_of_fourDigits hdigits
        simp only [hdigits, bind, Except.bind] at h
        obtain rfl := Except.ok.inj h
        exact ⟨'u' :: digits, rest, rfl, by rw [List.length_cons, hcode.length], .number hcode⟩
  next c rest _ =>
    split at h
    next hletter =>
      obtain rfl := Except.ok.inj h
      exact ⟨[c], rest, rfl, rfl, .letter hletter⟩
    · cases h

/-! ## Bodies -/

theorem passQuoted_append (skipped t : Text) :
    passQuoted skipped.length (skipped ++ t) = passQuoted 0 t := by
  induction skipped with
  | nil => rfl
  | cons c rest ih => exact ih

theorem Denotes.reads {body text : Text} (h : Denotes body text) (rest : Text) :
    readQuoted 0 (body ++ '"' :: rest) = .ok (text, rest) := by
  induction h with
  | nil => rfl
  | plain hc _ ih =>
      obtain ⟨hquote, hbackslash, hcontrol⟩ := hc
      rw [List.cons_append, readQuoted, if_neg hquote, if_neg hbackslash, if_neg hcontrol, ih]
      rfl
  | escape he _ ih =>
      rw [List.cons_append, List.append_assoc, readQuoted, if_neg (by decide), if_pos rfl, he.reads]
      dsimp only
      rw [readQuoted_append, ih]
      rfl

theorem IsBody.passes {body : Text} (h : IsBody body) (rest : Text) :
    passQuoted 0 (body ++ '"' :: rest) = .ok rest := by
  induction h with
  | nil => rfl
  | plain hc _ ih =>
      obtain ⟨hquote, hbackslash, hcontrol⟩ := hc
      rw [List.cons_append, passQuoted, if_neg hquote, if_neg hbackslash, if_neg hcontrol, ih]
  | escape he _ ih =>
      rw [List.cons_append, List.append_assoc, passQuoted, if_neg (by decide), if_pos rfl,
        he.passes]
      dsimp only
      rw [passQuoted_append, ih]

/-- Behind `skip` characters, what was taken in is a body that denotes the text, and a quote. -/
theorem denotes_of_readQuoted {skip : Nat} {t text rest : Text}
    (h : readQuoted skip t = .ok (text, rest)) :
    ∃ body, t.drop skip = body ++ '"' :: rest ∧ Denotes body text := by
  induction t generalizing skip text with
  | nil => cases skip <;> cases h
  | cons c t ih =>
      cases skip with
      | succ skip => exact ih h
      | zero =>
          rw [readQuoted] at h
          split at h
          · rename_i hquote
            obtain ⟨rfl, rfl⟩ := Prod.mk.inj (Except.ok.inj h)
            exact ⟨[], by rw [hquote]; rfl, .nil⟩
          split at h
          · rename_i hbackslash
            split at h
            · cases h
            next x n hescape =>
              obtain ⟨e, u, rfl, rfl, he⟩ := escapes_of_readEscape hescape
              obtain ⟨found, hread, hmap⟩ := map_eq_ok.mp h
              obtain ⟨rfl, rfl⟩ := Prod.mk.inj hmap
              obtain ⟨body, hbody, hdenotes⟩ := ih hread
              rw [List.drop_left' rfl] at hbody
              refine ⟨'\\' :: (e ++ body), ?_, .escape he hdenotes⟩
              rw [hbackslash, hbody, List.drop_zero, List.cons_append, List.append_assoc]
          split at h
          · cases h
          · rename_i hquote hbackslash hcontrol
            obtain ⟨found, hread, hmap⟩ := map_eq_ok.mp h
            obtain ⟨rfl, rfl⟩ := Prod.mk.inj hmap
            obtain ⟨body, hbody, hdenotes⟩ := ih hread
            rw [List.drop_zero] at hbody
            refine ⟨c :: body, ?_, .plain ⟨hquote, hbackslash, hcontrol⟩ hdenotes⟩
            rw [hbody, List.drop_zero, List.cons_append]

/-- Behind `skip` characters, what was passed over is a body and a quote. -/
theorem isBody_of_passQuoted {skip : Nat} {t rest : Text} (h : passQuoted skip t = .ok rest) :
    ∃ body, t.drop skip = body ++ '"' :: rest ∧ IsBody body := by
  induction t generalizing skip with
  | nil => cases skip <;> cases h
  | cons c t ih =>
      cases skip with
      | succ skip => exact ih h
      | zero =>
          rw [passQuoted] at h
          split at h
          · rename_i hquote
            obtain rfl := Except.ok.inj h
            exact ⟨[], by rw [hquote]; rfl, .nil⟩
          split at h
          · rename_i hbackslash
            split at h
            · cases h
            next n hescape =>
              obtain ⟨e, u, rfl, rfl, he⟩ := isEscape_of_passEscape hescape
              obtain ⟨body, hbody, hrest⟩ := ih h
              rw [List.drop_left' rfl] at hbody
              refine ⟨'\\' :: (e ++ body), ?_, .escape he hrest⟩
              rw [hbackslash, hbody, List.drop_zero, List.cons_append, List.append_assoc]
          split at h
          · cases h
          · rename_i hquote hbackslash hcontrol
            obtain ⟨body, hbody, hrest⟩ := ih h
            rw [List.drop_zero] at hbody
            refine ⟨c :: body, ?_, .plain ⟨hquote, hbackslash, hcontrol⟩ hrest⟩
            rw [hbody, List.drop_zero, List.cons_append]

theorem Denotes.isBody {body text : Text} (h : Denotes body text) : IsBody body := by
  induction h with
  | nil => exact .nil
  | plain hc _ ih => exact .plain hc ih
  | escape he _ ih =>
      cases he with
      | letter h => exact .escape (.letter h) ih
      | number h hn => exact .escape (.number h) ih
      | pair hhigh hlow h h' =>
          rw [List.cons_append, List.append_assoc, ← List.cons_append]
          exact .escape (.number hhigh) (.escape (.number hlow) ih)

/-- Where one body ends, no other does. -/
theorem IsBody.unique {body body' rest rest' : Text} (h : IsBody body) (h' : IsBody body')
    (heq : body ++ '"' :: rest = body' ++ '"' :: rest') : body = body' := by
  have hpass := h.passes rest
  rw [heq, h'.passes rest'] at hpass
  obtain rfl := Except.ok.inj hpass
  exact List.append_cancel_right heq

/-- Every body denotes a text or none. -/
theorem IsBody.names {body : Text} (h : IsBody body) : ∃ text, Names body text := by
  by_cases hdenotes : ∃ t, Denotes body t
  · exact hdenotes.imp' some fun _ h => h
  · exact ⟨none, h, not_exists.mp hdenotes⟩

/-- A body that denotes no text is not taken in. -/
theorem Names.refuses {body : Text} (h : Names body none) (rest : Text) :
    ∃ fault, readQuoted 0 (body ++ '"' :: rest) = .error fault := by
  cases hread : readQuoted 0 (body ++ '"' :: rest) with
  | error fault => exact ⟨fault, rfl⟩
  | ok found =>
      obtain ⟨body', heq, hdenotes⟩ := denotes_of_readQuoted hread
      obtain rfl := h.1.unique hdenotes.isBody heq
      exact absurd hdenotes (h.2 _)

end Signpost.Json
