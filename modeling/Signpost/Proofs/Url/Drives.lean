import Signpost.Proofs.Text.Escapes
import Signpost.Proofs.Url.Segments

/-!
# Drive letters in paths

A segment of two dots takes back the segment before it, but never a drive letter, on the web either.
A drive letter is known as such only when it is spelled without escapes. So two spellings of one
path have the same segments, once their escapes are resolved, unless two dots meet a drive letter;
then the spelling by escapes alone has fewer.
-/

namespace Signpost.Url

variable {done done' written written' : List Text} {e s part : Text}

/-- Whether a segment of two dots meets a drive letter; the segments `done` are reversed. -/
def meetsDrive : (done : List Text) → List Text → Bool
  | _, [] => false
  | done, segment :: rest =>
    (isAbove segment && done.head?.any startsWithDrive) ||
      meetsDrive (settleOne .web done segment) rest

theorem keepSegment_web : keepSegment .web done s = Percent.encode isEscapedInPath s := rfl

theorem takeBack_of_not_drive (h : done.head?.any startsWithDrive = false) :
    takeBack done = done.tail := by
  cases done with
  | nil => rfl
  | cons first done => exact if_neg (by simpa using h)

theorem length_takeBack (done : List Text) : (takeBack done).length ≤ done.length ∧
    done.length - 1 ≤ (takeBack done).length := by
  cases done with
  | nil => exact ⟨Nat.le_refl _, Nat.le_refl _⟩
  | cons first done =>
      rw [takeBack]
      split
      · exact ⟨Nat.le_refl _, Nat.sub_le _ _⟩
      · exact ⟨Nat.le_succ _, Nat.le_refl _⟩

theorem percent_not_mem_of_drive (h : startsWithDrive part = true) (hbackslash : '\\' ∉ part) :
    '%' ∉ part := by
  unfold startsWithDrive at h
  split at h
  next => exact absurd (by simp) hbackslash
  next =>
    unfold isDrive at h
    split at h
    next c d =>
      simp only [Bool.and_eq_true, Bool.or_eq_true, decide_eq_true_eq] at h
      simp only [List.mem_cons, List.not_mem_nil, or_false, not_or]
      constructor
      · rintro rfl
        exact nomatch h.1
      · rintro rfl
        exact absurd h.2 (by decide)
    next => exact nomatch h

/-! ## Spellings of one segment -/

/-- Two spellings of a segment, the first without escapes. -/
structure Respelled (s e : Text) : Prop where
  spells : Percent.Spells s e
  chars : ∀ c ∈ s, c ≠ '%' ∧ c ≠ '/' ∧ c ≠ '\\' ∧ c ≠ '?' ∧ c ≠ '#'

namespace Respelled

theorem decode? (h : Respelled s e) : Percent.decode? e = some s :=
  h.spells.decode? fun hmem => (h.chars _ hmem).1 rfl

theorem self (h : Respelled s e) : Respelled s s := ⟨.refl, h.chars⟩

theorem isAbove_eq (h : Respelled s e) : isAbove e = isAbove s := by
  rw [Bool.eq_iff_iff, isAbove_iff, isAbove_iff, h.decode?, h.self.decode?]

theorem isHere_eq (h : Respelled s e) : isHere e = isHere s := by
  rw [Bool.eq_iff_iff, isHere_iff, isHere_iff, h.decode?, h.self.decode?]

theorem closing_eq (h : Respelled s e) : closing e = closing s := by
  rw [closing, closing, h.isAbove_eq, h.isHere_eq]

/-- Both are kept as segments that resolve to the one without escapes. -/
theorem decode?_encode (h : Respelled s e) :
    Percent.decode? (Percent.encode isEscapedInPath e) = some s := by
  rw [Percent.decode?_encode leavesEscapes_isEscapedInPath, h.decode?]

theorem backslash_not_mem (h : Respelled s e) : '\\' ∉ Percent.encode isEscapedInPath e := by
  intro hmem
  rcases (Percent.spells_encode rfl).mem hmem with hmem | hc | hc
  · rcases h.spells.mem hmem with hmem | hc | hc
    · exact (h.chars _ hmem).2.2.1 rfl
    · exact absurd hc (by decide)
    · exact nomatch hc
  · exact absurd hc (by decide)
  · exact nomatch hc

/-- A drive letter is kept only when it is spelled without escapes. -/
theorem eq_of_drive (h : Respelled s e)
    (hdrive : startsWithDrive (Percent.encode isEscapedInPath e) = true) : e = s := by
  have hplain : '%' ∉ Percent.encode isEscapedInPath e :=
    percent_not_mem_of_drive hdrive h.backslash_not_mem
  refine h.spells.eq_of_not_mem ?_
  rwa [← Percent.encode_eq_self_of_not_mem hplain]

end Respelled

/-! ## Spellings that stay together -/

/-- Two kept segments that resolve to one, a drive letter being the one without escapes too. -/
structure Alike (s e : Text) : Prop where
  resolved : Percent.decode? e = Percent.decode? s
  drive : startsWithDrive e = true → startsWithDrive s = true

theorem Respelled.alike (h : Respelled s e) :
    Alike (Percent.encode isEscapedInPath s) (Percent.encode isEscapedInPath e) := by
  refine ⟨by rw [h.decode?_encode, h.self.decode?_encode], fun hdrive => ?_⟩
  rw [← h.eq_of_drive hdrive]
  exact hdrive

theorem Alike.head (hdone : List.Forall₂ Alike done done')
    (h : done.head?.any startsWithDrive = false) : done'.head?.any startsWithDrive = false := by
  cases hdone with
  | nil => rfl
  | cons hfirst _ =>
      rw [List.head?_cons, Option.any_some] at h ⊢
      exact Bool.eq_false_iff.mpr fun hdrive => Bool.eq_false_iff.mp h (hfirst.drive hdrive)

/-- One step that does not meet a drive letter. -/
theorem alike_settleOne (hdone : List.Forall₂ Alike done done') (h : Respelled s e)
    (hmeets : (isAbove s && done.head?.any startsWithDrive) = false) :
    List.Forall₂ Alike (settleOne .web done s) (settleOne .web done' e) := by
  rw [settleOne, settleOne, h.isAbove_eq, h.isHere_eq, keepSegment_web, keepSegment_web]
  split
  next habove =>
    rw [habove, Bool.true_and] at hmeets
    rw [takeBack_of_not_drive hmeets, takeBack_of_not_drive (Alike.head hdone hmeets)]
    cases hdone with
    | nil => exact .nil
    | cons _ hrest => exact hrest
  · split
    · exact hdone
    · exact .cons h.alike hdone

theorem alike_settleSegments (hdone : List.Forall₂ Alike done done')
    (h : List.Forall₂ Respelled written written') (hmeets : meetsDrive done written = false) :
    List.Forall₂ Alike (settleSegments .web done written) (settleSegments .web done' written') := by
  induction h generalizing done done' with
  | nil =>
      rw [settleSegments, settleSegments]
      exact List.rel_reverse hdone
  | @cons s e _ _ hsegment hrest ih =>
      rw [meetsDrive, Bool.or_eq_false_iff] at hmeets
      have hone := alike_settleOne hdone hsegment hmeets.1
      cases hrest with
      | nil =>
          rw [settleSegments_single, settleSegments_single, hsegment.closing_eq]
          refine List.rel_append (List.rel_reverse hone) ?_
          rcases closing_eq s with h | h
          · rw [h]
            exact .nil
          · rw [h]
            exact .cons ⟨rfl, id⟩ .nil
      | cons hnext hrest =>
          have hmore {next : Text} {rest : List Text} : next :: rest ≠ [] := List.cons_ne_nil _ _
          rw [settleSegments_cons hmore, settleSegments_cons hmore]
          exact ih hone hmeets.2

/-! ## Spellings that come apart -/

/-- The spelling by escapes has fallen behind: the other has kept a drive letter that it has not. -/
def FallenBehind (done done' : List Text) : Prop :=
  ∃ above drive below, done = above ++ drive :: below ∧ startsWithDrive drive = true ∧
    done'.length ≤ above.length + below.length

theorem FallenBehind.length_lt (h : FallenBehind done done') : done'.length < done.length := by
  obtain ⟨above, drive, below, rfl, -, hlength⟩ := h
  rw [List.length_append, List.length_cons]
  omega

/-- No drive letter is among the segments of the spelling by escapes. -/
def Free (done : List Text) : Prop := ∀ part ∈ done, startsWithDrive part = false

theorem Free.takeBack (h : Free done) : takeBack done = done.tail := by
  refine takeBack_of_not_drive ?_
  cases done with
  | nil => rfl
  | cons first done => exact h first List.mem_cons_self

/-- Two spellings of a segment, the second of which is kept as no drive letter. -/
structure Freed (s e : Text) : Prop extends Respelled s e where
  free : startsWithDrive (Percent.encode isEscapedInPath e) = false

/-- A segment that is spelled by escapes alone is kept as no drive letter. -/
theorem Respelled.freed (h : Respelled s s) : Freed s (Percent.encode (· != '/') s) := by
  have hspelled : Respelled s (Percent.encode (· != '/') s) := ⟨Percent.spells_encode rfl, h.chars⟩
  refine ⟨hspelled, ?_⟩
  rw [← Bool.not_eq_true]
  intro hdrive
  have heq := hspelled.eq_of_drive hdrive
  cases s with
  | nil => exact nomatch hdrive
  | cons c s =>
      have hc := h.chars c List.mem_cons_self
      have hpercent : '%' ∈ Percent.encode (· != '/') (c :: s) := by
        have hescaped : Percent.encodeChar (· != '/') c =
            (Utf8.encodeChar c).flatMap Percent.escapeByte := if_neg (by simp [hc.2.1])
        have hbytes (b : Nat) (hb : b ∈ Utf8.encodeChar c) : b < 256 := Utf8.lt_of_mem_encodeChar hb
        have hescapes := Percent.areEscapes_flatMap hbytes
        rw [Percent.encode_cons, hescaped]
        exact List.mem_append_left _ hescapes.percent_mem
      rw [heq] at hpercent
      exact (h.chars _ hpercent).1 rfl

theorem Freed.settleOne (h : Freed s e) (hfree : Free done') : Free (settleOne .web done' e) :=
  forall_settleOne hfree fun _ _ => h.free

theorem FallenBehind.settleOne (h : FallenBehind done done') (hfree : Free done')
    (hsegment : Freed s e) : FallenBehind (settleOne .web done s) (settleOne .web done' e) := by
  obtain ⟨above, drive, below, rfl, hdrive, hlength⟩ := h
  rw [Url.settleOne, Url.settleOne, hsegment.isAbove_eq, hsegment.isHere_eq, hfree.takeBack]
  split
  · have htail : done'.tail.length = done'.length - 1 := List.length_tail
    cases above with
    | nil =>
        refine ⟨[], drive, below, if_pos hdrive, hdrive, ?_⟩
        rw [List.length_nil] at hlength ⊢
        omega
    | cons first above =>
        rw [List.cons_append, takeBack]
        split
        · refine ⟨first :: above, drive, below, rfl, hdrive, ?_⟩
          omega
        · refine ⟨above, drive, below, rfl, hdrive, ?_⟩
          rw [List.length_cons] at hlength
          omega
  · split
    · exact ⟨above, drive, below, rfl, hdrive, hlength⟩
    · refine ⟨_ :: above, drive, below, rfl, hdrive, ?_⟩
      rw [List.length_cons, List.length_cons]
      omega

/-- Of a whole path a step and the steps behind it decide; the last one may add an empty segment to
both. -/
theorem length_settleSegments_cons_lt (hsegment : Freed s e)
    (hrest : List.Forall₂ Freed written written')
    (hlast : written = [] → (settleOne .web done' e).length < (settleOne .web done s).length)
    (hmore : written ≠ [] → (settleSegments .web (settleOne .web done' e) written').length <
      (settleSegments .web (settleOne .web done s) written).length) :
    (settleSegments .web done' (e :: written')).length <
      (settleSegments .web done (s :: written)).length := by
  cases hrest with
  | nil =>
      have hlt := hlast rfl
      rw [settleSegments_single, settleSegments_single, hsegment.closing_eq]
      simp only [List.length_append, List.length_reverse]
      omega
  | cons hnext hrest =>
      rw [settleSegments_cons (List.cons_ne_nil _ _), settleSegments_cons (List.cons_ne_nil _ _)]
      exact hmore (List.cons_ne_nil _ _)

theorem FallenBehind.settleSegments (h : FallenBehind done done') (hfree : Free done')
    (hsegments : List.Forall₂ Freed written written') :
    (settleSegments .web done' written').length < (settleSegments .web done written).length := by
  induction hsegments generalizing done done' with
  | nil =>
      rw [Url.settleSegments, Url.settleSegments, List.length_reverse, List.length_reverse]
      exact h.length_lt
  | cons hsegment hrest ih =>
      have hone := h.settleOne hfree hsegment
      exact length_settleSegments_cons_lt hsegment hrest (fun _ => hone.length_lt)
        fun _ => ih hone (hsegment.settleOne hfree)

/-- One step of two dots that meet a drive letter. -/
theorem fallenBehind_of_meets (hlength : done'.length ≤ done.length) (hfree : Free done')
    (hsegment : Freed s e) (hmeets : (isAbove s && done.head?.any startsWithDrive) = true) :
    FallenBehind (settleOne .web done s) (settleOne .web done' e) := by
  obtain ⟨habove, hdrive⟩ := Bool.and_eq_true_iff.mp hmeets
  rw [settleOne, settleOne, hsegment.isAbove_eq, habove, if_pos rfl, if_pos rfl, hfree.takeBack]
  cases done with
  | nil => cases hdrive
  | cons drive below =>
      refine ⟨[], drive, below, if_pos hdrive, hdrive, ?_⟩
      rw [List.length_tail, List.length_nil]
      rw [List.length_cons] at hlength
      omega

theorem length_settleOne_le (hlength : done'.length ≤ done.length) (hfree : Free done')
    (hsegment : Freed s e) :
    (settleOne .web done' e).length ≤ (settleOne .web done s).length := by
  rw [settleOne, settleOne, hsegment.isAbove_eq, hsegment.isHere_eq, hfree.takeBack]
  split
  · have hback := (length_takeBack done).2
    rw [List.length_tail]
    omega
  · split
    · exact hlength
    · rw [List.length_cons, List.length_cons]
      omega

theorem length_settleSegments_lt (hlength : done'.length ≤ done.length) (hfree : Free done')
    (hsegments : List.Forall₂ Freed written written') (hmeets : meetsDrive done written = true) :
    (settleSegments .web done' written').length < (settleSegments .web done written).length := by
  induction hsegments generalizing done done' with
  | nil => exact nomatch hmeets
  | @cons s e rest _ hsegment hrest ih =>
      have hfree' := hsegment.settleOne hfree
      rw [meetsDrive, Bool.or_eq_true] at hmeets
      rcases hmeets with hnow | hlater
      · have hone := fallenBehind_of_meets hlength hfree hsegment hnow
        exact length_settleSegments_cons_lt hsegment hrest (fun _ => hone.length_lt)
          fun _ => hone.settleSegments hfree' hrest
      · refine length_settleSegments_cons_lt hsegment hrest ?_ fun _ =>
          ih (length_settleOne_le hlength hfree hsegment) hfree' hlater
        rintro rfl
        exact nomatch hlater

end Signpost.Url
