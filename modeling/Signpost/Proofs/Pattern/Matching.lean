import Mathlib.Data.List.Basic
import Mathlib.Logic.Function.Iterate
import Signpost.Pattern.Expr

/-!
# What an expression matches

Here an expression matches a part of a text between what stands before the part and what stands
behind it, one rule for each form of an expression. Running an expression on sets of places finds
exactly these parts, as `Expr.occursIn_iff` says. A run cuts the rounds of a repetition short: of
more rounds than a text has characters one stays where it is, and it can be left out or repeated.
-/

namespace Signpost.Pattern

/-! ## Matches -/

/-- Parts one behind the other, `n` of them, of which each is related to what stands around it. -/
def Rounds (R : Text → Text → Text → Prop) : (n : Nat) → (before part behind : Text) → Prop
  | 0, _, part, _ => part = []
  | n + 1, before, part, behind => ∃ first rest, part = first ++ rest ∧
      R before first (rest ++ behind) ∧ Rounds R n (before ++ first) rest behind

/-- Whether an expression matches a part of a text. A bound of a repetition that is below the least
number of rounds allows just that number. -/
def Expr.Matches : Expr → (before part behind : Text) → Prop
  | empty => fun _ part _ => part = []
  | chars set => fun _ part _ => ∃ c, part = [c] ∧ set.contains c = true
  | look l => fun before part behind =>
      part = [] ∧ l.holds before.getLast? behind.head? = true
  | seq a b => fun before part behind => ∃ first rest, part = first ++ rest ∧
      a.Matches before first (rest ++ behind) ∧ b.Matches (before ++ first) rest behind
  | alt a b => fun before part behind =>
      a.Matches before part behind ∨ b.Matches before part behind
  | repetition a least most => fun before part behind =>
      ∃ n, least ≤ n ∧ (∀ m ∈ most, n ≤ max least m) ∧ Rounds a.Matches n before part behind

variable {text : Text} {R R' : Text → Text → Text → Prop} {S T : Nat → Nat → Prop}
  {f g : Places → Places} {s : Places} {i j n : Nat}

/-! ## Places of matches -/

/-- A match from one place of a text to another. -/
def Spans (text : Text) (R : Text → Text → Text → Prop) (i j : Nat) : Prop :=
  ∃ before part behind, text = before ++ (part ++ behind) ∧ before.length = i ∧
    i + part.length = j ∧ R before part behind

theorem Spans.bounds (h : Spans text R i j) : i ≤ j ∧ j ≤ text.length := by
  obtain ⟨before, part, behind, rfl, rfl, rfl, -⟩ := h
  simp only [List.length_append]
  omega

theorem spans_empty : Spans text (fun _ part _ => part = []) i j ↔ i ≤ text.length ∧ i = j := by
  constructor
  · rintro ⟨before, part, behind, rfl, rfl, rfl, rfl⟩
    simp
  · rintro ⟨hi, rfl⟩
    exact ⟨text.take i, [], text.drop i, by simp, List.length_take_of_le hi, rfl, rfl⟩

/-- The place between two matches, one behind the other, is settled by the first. -/
theorem spans_seq : Spans text (fun before part behind => ∃ first rest, part = first ++ rest ∧
      R before first (rest ++ behind) ∧ R' (before ++ first) rest behind) i j ↔
    ∃ k, Spans text R i k ∧ Spans text R' k j := by
  constructor
  · rintro ⟨before, _, behind, rfl, rfl, rfl, first, rest, rfl, hfirst, hrest⟩
    refine ⟨before.length + first.length, ⟨before, first, rest ++ behind, by simp, rfl, rfl, hfirst⟩,
      before ++ first, rest, behind, by simp, by simp, ?_, hrest⟩
    rw [List.length_append, Nat.add_assoc]
  · rintro ⟨_, ⟨before, first, behind', rfl, rfl, rfl, hfirst⟩, before', rest, behind, heq, hlength,
      rfl, hrest⟩
    rw [← List.append_assoc, ← List.length_append] at *
    obtain ⟨rfl, rfl⟩ := List.append_inj heq hlength.symm
    exact ⟨before, first ++ rest, behind, by simp, rfl, by simp [Nat.add_assoc], first, rest, rfl,
      hfirst, hrest⟩

theorem spans_or : Spans text (fun before part behind =>
      R before part behind ∨ R' before part behind) i j ↔
    Spans text R i j ∨ Spans text R' i j := by
  constructor
  · rintro ⟨before, part, behind, htext, hi, hj, h | h⟩
    · exact .inl ⟨before, part, behind, htext, hi, hj, h⟩
    · exact .inr ⟨before, part, behind, htext, hi, hj, h⟩
  · rintro (⟨before, part, behind, htext, hi, hj, h⟩ | ⟨before, part, behind, htext, hi, hj, h⟩)
    · exact ⟨before, part, behind, htext, hi, hj, .inl h⟩
    · exact ⟨before, part, behind, htext, hi, hj, .inr h⟩

/-- Steps from one place to another, `n` of them. -/
def Steps (S : Nat → Nat → Prop) : (n i j : Nat) → Prop
  | 0, i, j => i = j
  | n + 1, i, j => ∃ k, S i k ∧ Steps S n k j

theorem spans_rounds (hi : i ≤ text.length) :
    Spans text (Rounds R n) i j ↔ Steps (Spans text R) n i j := by
  induction n generalizing i with
  | zero => exact spans_empty.trans (and_iff_right hi)
  | succ n ih =>
      refine spans_seq.trans (exists_congr fun k => and_congr_right fun hk => ?_)
      exact ih hk.bounds.2

theorem spans_repetition {least : Nat} {most : Option Nat} (hi : i ≤ text.length) :
    Spans text (fun before part behind =>
        ∃ n, least ≤ n ∧ (∀ m ∈ most, n ≤ max least m) ∧ Rounds R n before part behind) i j ↔
      ∃ n, least ≤ n ∧ (∀ m ∈ most, n ≤ max least m) ∧ Steps (Spans text R) n i j := by
  simp only [← spans_rounds hi]
  constructor
  · rintro ⟨before, part, behind, htext, hbefore, hpart, n, hleast, hmost, h⟩
    exact ⟨n, hleast, hmost, before, part, behind, htext, hbefore, hpart, h⟩
  · rintro ⟨n, hleast, hmost, before, part, behind, htext, hbefore, hpart, h⟩
    exact ⟨before, part, behind, htext, hbefore, hpart, n, hleast, hmost, h⟩

theorem steps_add {m : Nat} : Steps S (n + m) i j ↔ ∃ k, Steps S n i k ∧ Steps S m k j := by
  induction n generalizing i with
  | zero => simp [Steps]
  | succ n ih =>
      rw [Nat.succ_add]
      simp only [Steps, ih]
      constructor
      · rintro ⟨k, hk, l, hl, hm⟩
        exact ⟨l, ⟨k, hk, hl⟩, hm⟩
      · rintro ⟨l, ⟨k, hk, hl⟩, hm⟩
        exact ⟨k, hk, l, hl, hm⟩

/-! ## Rounds that stay where they are -/

section Bounded

variable (hS : ∀ i j, S i j → i ≤ j ∧ j ≤ text.length)
include hS

theorem Steps.bounds (h : Steps S n i j) (hi : i ≤ text.length) : i ≤ j ∧ j ≤ text.length := by
  induction n generalizing i with
  | zero => exact h ▸ ⟨Nat.le_refl i, hi⟩
  | succ n ih =>
      obtain ⟨k, hk, hrest⟩ := h
      have hfirst := hS i k hk
      exact ⟨Nat.le_trans hfirst.1 (ih hrest hfirst.2).1, (ih hrest hfirst.2).2⟩

/-- Of more steps than there are places on the way one stays where it is. It can be left out, and it
can be taken twice. -/
theorem Steps.shift (h : Steps S (n + 1) i j) (hlong : j < i + (n + 1)) (hi : i ≤ text.length) :
    Steps S n i j ∧ Steps S (n + 2) i j := by
  induction n generalizing i with
  | zero =>
      obtain ⟨k, hk, rfl⟩ := h
      obtain rfl : i = k := by have := (hS i k hk).1; omega
      exact ⟨rfl, i, hk, i, hk, rfl⟩
  | succ n ih =>
      obtain ⟨k, hk, hrest⟩ := h
      obtain ⟨hfirst, hle⟩ := hS i k hk
      by_cases hstays : k = i
      · subst hstays
        exact ⟨hrest, k, hk, k, hk, hrest⟩
      · obtain ⟨hless, hmore⟩ := ih hrest (by omega) hle
        exact ⟨⟨k, hk, hless⟩, k, hk, hmore⟩

/-- More rounds than characters lead to the same places, however many there are. -/
theorem steps_min (hi : i ≤ text.length) :
    Steps S (min n (text.length + 1)) i j ↔ Steps S n i j := by
  induction n with
  | zero => rw [Nat.zero_min]
  | succ n ih =>
      by_cases hn : n < text.length + 1
      · rw [Nat.min_eq_left hn]
      · have hn' : min n (text.length + 1) = text.length + 1 := Nat.min_eq_right (by omega)
        rw [Nat.min_eq_right (by omega), ← hn', ih]
        obtain ⟨n, rfl⟩ := Nat.exists_eq_add_one.mpr (show 0 < n by omega)
        constructor
        · intro h
          have hj := (h.bounds hS hi).2
          exact (h.shift hS (by omega) hi).2
        · intro h
          have hj := (h.bounds hS hi).2
          exact (h.shift hS (by omega) hi).1

/-- The further rounds that a run makes of a repetition. -/
def furtherRounds (least : Nat) (most : Option Nat) (rounds : Nat) : Nat :=
  match most with
  | none => rounds
  | some most => min (most - least) rounds

/-- The rounds that a run makes lead to the same places as all that a repetition allows. -/
theorem steps_bounded (least : Nat) (most : Option Nat) (hi : i ≤ text.length) :
    (∃ m ≤ furtherRounds least most (text.length + 1),
      Steps S (min least (text.length + 1) + m) i j) ↔
    ∃ n, least ≤ n ∧ (∀ m ∈ most, n ≤ max least m) ∧ Steps S n i j := by
  constructor
  · rintro ⟨m, hm, h⟩
    refine ⟨least + m, Nat.le_add_right _ _, ?_, ?_⟩
    · rintro b rfl
      rw [furtherRounds] at hm
      omega
    · rw [← steps_min hS hi] at h ⊢
      rwa [show min (least + m) (text.length + 1) =
        min (min least (text.length + 1) + m) (text.length + 1) by omega]
  · rintro ⟨n, hleast, hmost, h⟩
    refine ⟨min (n - least) (text.length + 1), ?_, ?_⟩
    · cases most with
      | none => exact Nat.min_le_right _ _
      | some b =>
          have hn := hmost b rfl
          rw [furtherRounds]
          omega
    · rw [← steps_min hS hi] at h ⊢
      rwa [show min (min least (text.length + 1) + min (n - least) (text.length + 1))
        (text.length + 1) = min n (text.length + 1) by omega]

end Bounded

/-! ## Runs -/

/-- The places that `f` finds from a set are those that `S` leads to from a place of the set. -/
def Tracks (text : Text) (f : Places → Places) (S : Nat → Nat → Prop) : Prop :=
  ∀ s : Places, s.length = text.length + 1 → (f s).length = text.length + 1 ∧
    ∀ j, (f s)[j]? = some true ↔ ∃ i, s[i]? = some true ∧ S i j

theorem Tracks.congr (h : Tracks text f S) (hST : ∀ i j, i ≤ text.length → (S i j ↔ T i j)) :
    Tracks text f T := by
  intro s hs
  refine ⟨(h s hs).1, fun j => ((h s hs).2 j).trans (exists_congr fun i => ?_)⟩
  refine and_congr_right fun hi => hST i j ?_
  have hlt := (List.getElem?_eq_some_iff.mp hi).1
  omega

theorem tracks_self : Tracks text id Eq := fun _ hs => ⟨hs, fun j => by simp⟩

theorem Tracks.comp (hg : Tracks text g T) (hf : Tracks text f S) :
    Tracks text (fun s => g (f s)) fun i j => ∃ k, S i k ∧ T k j := by
  intro s hs
  obtain ⟨hlength, hplaces⟩ := hf s hs
  refine ⟨(hg _ hlength).1, fun j => ?_⟩
  rw [(hg _ hlength).2]
  simp only [hplaces]
  constructor
  · rintro ⟨k, ⟨i, hi, hk⟩, hj⟩
    exact ⟨i, hi, k, hk, hj⟩
  · rintro ⟨i, hi, k, hk, hj⟩
    exact ⟨k, ⟨i, hi, hk⟩, hj⟩

theorem Tracks.union (hf : Tracks text f S) (hg : Tracks text g T) :
    Tracks text (fun s => (f s).union (g s)) fun i j => S i j ∨ T i j := by
  intro s hs
  obtain ⟨hflength, hfplaces⟩ := hf s hs
  obtain ⟨hglength, hgplaces⟩ := hg s hs
  refine ⟨by simp [Places.union, hflength, hglength], fun j => ?_⟩
  have hboth : ((f s).union (g s))[j]? = some true ↔
      (f s)[j]? = some true ∨ (g s)[j]? = some true := by
    rw [Places.union, List.getElem?_zipWith]
    by_cases hj : j < text.length + 1
    · rw [List.getElem?_eq_getElem (by omega), List.getElem?_eq_getElem (by omega)]
      simp
    · rw [List.getElem?_eq_none (by omega), List.getElem?_eq_none (by omega)]
      simp
  rw [hboth, hfplaces, hgplaces, ← exists_or]
  simp only [and_or_left]

theorem Places.iterate_eq (f : Places → Places) (n : Nat) (s : Places) :
    Places.iterate f n s = f^[n] s := by
  induction n generalizing s with
  | zero => rfl
  | succ n ih =>
      rw [Places.iterate, Function.iterate_succ_apply]
      split
      next hfixed =>
        rw [eq_of_beq hfixed]
        exact (Function.iterate_fixed (eq_of_beq hfixed) n).symm
      next => exact ih _

theorem Places.reach_eq (f : Places → Places) (n : Nat) (s : Places) :
    Places.reach f n s = (fun s => s.union (f s))^[n] s := by
  induction n generalizing s with
  | zero => rfl
  | succ n ih =>
      rw [Places.reach, Function.iterate_succ_apply]
      split
      next hfixed =>
        rw [eq_of_beq hfixed]
        have hstays : (fun s : Places => s.union (f s)) s = s := eq_of_beq hfixed
        exact (Function.iterate_fixed hstays n).symm
      next => exact ih _

theorem Tracks.iterate (h : Tracks text f S) (n : Nat) : Tracks text f^[n] (Steps S n) := by
  induction n with
  | zero => exact tracks_self
  | succ n ih => exact ih.comp h

theorem steps_or_eq : Steps (fun i j => i = j ∨ S i j) n i j ↔ ∃ m ≤ n, Steps S m i j := by
  induction n generalizing i with
  | zero => simp [Steps]
  | succ n ih =>
      simp only [Steps, ih]
      constructor
      · rintro ⟨k, rfl | hk, m, hm, h⟩
        · exact ⟨m, Nat.le_succ_of_le hm, h⟩
        · exact ⟨m + 1, Nat.succ_le_succ hm, k, hk, h⟩
      · rintro ⟨_ | m, hm, h⟩
        · exact ⟨i, .inl rfl, 0, Nat.zero_le n, h⟩
        · obtain ⟨k, hk, h⟩ := h
          exact ⟨k, .inr hk, m, Nat.le_of_succ_le_succ hm, h⟩

theorem Tracks.reach (h : Tracks text f S) (n : Nat) :
    Tracks text (Places.reach f n) fun i j => ∃ m ≤ n, Steps S m i j := by
  rw [show Places.reach f n = _ from funext (Places.reach_eq f n)]
  exact ((tracks_self.union h).iterate n).congr fun _ _ _ => steps_or_eq

theorem Tracks.repetition (h : Tracks text f S) (hS : ∀ i j, S i j → i ≤ j ∧ j ≤ text.length)
    (least : Nat) (most : Option Nat) :
    Tracks text (fun s => Places.reach f (furtherRounds least most (text.length + 1))
        (Places.iterate f (min least (text.length + 1)) s))
      fun i j => ∃ n, least ≤ n ∧ (∀ m ∈ most, n ≤ max least m) ∧ Steps S n i j := by
  simp only [Places.iterate_eq]
  refine ((h.reach _).comp (h.iterate _)).congr fun i j hi => ?_
  rw [← steps_bounded hS least most hi]
  simp only [steps_add]
  constructor
  · rintro ⟨k, hk, m, hm, hj⟩
    exact ⟨m, hm, k, hk, hj⟩
  · rintro ⟨m, hm, k, hk, hj⟩
    exact ⟨k, hk, m, hm, hj⟩

theorem spans_chars {set : CharSet} :
    Spans text (fun _ part _ => ∃ c, part = [c] ∧ set.contains c = true) i j ↔
      ∃ c, text[i]? = some c ∧ set.contains c = true ∧ i + 1 = j := by
  constructor
  · rintro ⟨before, _, behind, rfl, rfl, rfl, c, rfl, hc⟩
    exact ⟨c, by simp, hc, rfl⟩
  · rintro ⟨c, hc, hset, rfl⟩
    obtain ⟨hi, rfl⟩ := List.getElem?_eq_some_iff.mp hc
    exact ⟨text.take i, [text[i]], text.drop (i + 1), by simp,
      List.length_take_of_le (Nat.le_of_lt hi), rfl, _, rfl, hset⟩

theorem tracks_advance (set : CharSet) : Tracks text (Places.advance set text)
    (Spans text fun _ part _ => ∃ c, part = [c] ∧ set.contains c = true) := by
  intro s hs
  refine ⟨by simp [Places.advance, hs], fun j => ?_⟩
  simp only [spans_chars]
  cases j with
  | zero => simp [Places.advance]
  | succ j =>
      have hplace : (∃ i, s[i]? = some true ∧
          ∃ c, text[i]? = some c ∧ set.contains c = true ∧ i + 1 = j + 1) ↔
          s[j]? = some true ∧ ∃ c, text[j]? = some c ∧ set.contains c = true := by
        constructor
        · rintro ⟨i, hi, c, hc, hset, heq⟩
          obtain rfl := Nat.succ.inj heq
          exact ⟨hi, c, hc, hset⟩
        · rintro ⟨hj, c, hc, hset⟩
          exact ⟨j, hj, c, hc, hset, rfl⟩
      rw [hplace, Places.advance, List.getElem?_cons_succ, List.getElem?_zipWith]
      cases s[j]? <;> cases text[j]? <;> simp

theorem spans_look {l : Look} : Spans text (fun before part behind =>
      part = [] ∧ l.holds before.getLast? behind.head? = true) i j ↔
    ∃ before behind, text = before ++ behind ∧ before.length = i ∧ i = j ∧
      l.holds before.getLast? behind.head? = true := by
  constructor
  · rintro ⟨before, _, behind, rfl, rfl, rfl, rfl, hl⟩
    exact ⟨before, behind, rfl, rfl, rfl, hl⟩
  · rintro ⟨before, behind, rfl, rfl, rfl, hl⟩
    exact ⟨before, [], behind, rfl, rfl, rfl, rfl, hl⟩

/-- The answer at a place depends on the characters around it. -/
theorem Places.filter_append (l : Look) (before : Option Char) (x y : Text) (s : Places) :
    (Places.filter l before (x ++ y) s)[x.length]? =
      s[x.length]?.map fun here => here && l.holds (x.getLast?.or before) y.head? := by
  induction x generalizing before s with
  | nil =>
      cases s with
      | nil => cases y <;> rfl
      | cons here s => cases y <;> rfl
  | cons c x ih =>
      cases s with
      | nil => rfl
      | cons here s =>
          have hlast : (c :: x).getLast?.or before = x.getLast?.or (some c) := by
            rw [List.getLast?_cons]
            cases x.getLast? <;> rfl
          rw [hlast]
          exact ih (some c) s

theorem Places.length_filter (l : Look) (before : Option Char) (text : Text) (s : Places)
    (hs : s.length = text.length + 1) : (Places.filter l before text s).length = s.length := by
  induction text generalizing before s with
  | nil =>
      obtain ⟨here, rfl⟩ := List.length_eq_one_iff.mp hs
      rfl
  | cons c text ih =>
      cases s with
      | nil => rfl
      | cons here s => exact congrArg (· + 1) (ih _ s (Nat.succ.inj hs))

theorem tracks_filter (l : Look) : Tracks text (Places.filter l none text)
    (Spans text fun before part behind =>
      part = [] ∧ l.holds before.getLast? behind.head? = true) := by
  intro s hs
  refine ⟨(Places.length_filter l none text s hs).trans hs, fun j => ?_⟩
  simp only [spans_look]
  constructor
  · intro h
    have hj : j < text.length + 1 := by
      rw [← hs, ← Places.length_filter l none text s hs]
      exact (List.getElem?_eq_some_iff.mp h).1
    obtain ⟨before, behind, rfl, rfl⟩ : ∃ before behind, text = before ++ behind ∧
        before.length = j :=
      ⟨text.take j, text.drop j, by simp, List.length_take_of_le (Nat.le_of_lt_succ hj)⟩
    rw [Places.filter_append, Option.or_none, Option.map_eq_some_iff] at h
    obtain ⟨here, hhere, hboth⟩ := h
    obtain ⟨rfl, hl⟩ := Bool.and_eq_true_iff.mp hboth
    exact ⟨before.length, hhere, before, behind, rfl, rfl, rfl, hl⟩
  · rintro ⟨_, hi, before, behind, rfl, rfl, rfl, hl⟩
    rw [Places.filter_append, hi]
    simpa using hl

/-- A run finds the places where a match ends that begins in the set. -/
theorem Expr.tracks_ends (e : Expr) : Tracks text (e.ends text) (Spans text e.Matches) := by
  induction e with
  | empty => exact tracks_self.congr fun i j hi => (spans_empty.trans (and_iff_right hi)).symm
  | chars set => exact tracks_advance set
  | look l => exact tracks_filter l
  | seq a b iha ihb => exact (ihb.comp iha).congr fun i j _ => spans_seq.symm
  | alt a b iha ihb => exact (iha.union ihb).congr fun i j _ => spans_or.symm
  | repetition a least most ih =>
      exact (ih.repetition (fun i j h => h.bounds) least most).congr fun i j hi =>
        (spans_repetition hi).symm

/-- An expression occurs in a text exactly when it matches some part of it where that stands. -/
theorem Expr.occursIn_iff {e : Expr} : e.occursIn text = true ↔
    ∃ before part behind, text = before ++ (part ++ behind) ∧ e.Matches before part behind := by
  obtain ⟨-, hplaces⟩ := e.tracks_ends (List.replicate (text.length + 1) true)
    List.length_replicate
  rw [Expr.occursIn, List.any_eq_true]
  simp only [id_eq, exists_eq_right, List.mem_iff_getElem?, hplaces]
  constructor
  · rintro ⟨j, i, -, before, part, behind, htext, -, -, h⟩
    exact ⟨before, part, behind, htext, h⟩
  · rintro ⟨before, part, behind, rfl, h⟩
    refine ⟨_, before.length, ?_, before, part, behind, rfl, rfl, rfl, h⟩
    rw [List.getElem?_replicate, if_pos (by simp only [List.length_append]; omega)]

end Signpost.Pattern
