import Mathlib.Data.List.Flatten
import Signpost.Proofs.Url.Drives

/-!
# Resolving dot segments

What dot segments mean is said by the segments alone: one dot adds nothing and two dots take the
segment before them back, whichever it is. Settling the segments of a text comes to the same, with
characters spelled as escapes, until two dots meet a drive letter. The drive letter is then kept, and
the segments that should be there are among the others.
-/

namespace Signpost.Url

variable {done written ref front : List Text} {t s last : Text}

/-! ## The segments of a text -/

/-- The text with slashes in the place of its backslashes. -/
def forward (t : Text) : Text := t.map fun c => if c = '\\' then '/' else c

theorem splitBy_isSlash (t : Text) :
    Text.splitBy (isSlash .web) t = Text.splitOn '/' (forward t) := by
  induction t with
  | nil => rfl
  | cons c t ih =>
      have hcons : forward (c :: t) = (if c = '\\' then '/' else c) :: forward t := rfl
      by_cases hslash : isSlash .web c = true
      · have hc : (if c = '\\' then '/' else c) = '/' := by
          simp only [isSlash, Bool.or_eq_true, Bool.and_eq_true, decide_eq_true_eq] at hslash
          rcases hslash with rfl | ⟨-, rfl⟩ <;> rfl
        rw [Text.splitBy, if_pos hslash, hcons, hc, ih]
        rfl
      · have hbackslash : c ≠ '\\' := by
          rintro rfl
          exact hslash rfl
        have hne : c ≠ '/' := by
          rintro rfl
          exact hslash rfl
        rw [hcons, if_neg hbackslash, Text.splitOn_cons_of_ne hne, ← ih, Text.splitBy,
          if_neg hslash]
        cases hparts : Text.splitBy (isSlash .web) t with
        | nil => exact absurd hparts Text.splitBy_ne_nil
        | cons part parts => rfl

/-- The segment is a dot or two dots; each dot may be spelled by an escape. -/
def IsDots (segment : Text) : Prop :=
  Percent.decode? segment = some ['.'] ∨ Percent.decode? segment = some ['.', '.']

instance : DecidablePred IsDots := fun _ => inferInstanceAs (Decidable (_ ∨ _))

/-- Adds a segment to those before it, which are reversed. -/
def addSegment (done : List Text) (segment : Text) : List Text :=
  if Percent.decode? segment = some ['.', '.'] then done.tail
  else if Percent.decode? segment = some ['.'] then done
  else segment :: done

/-- The segments without dot segments; behind a dot segment at the end a slash stays. -/
def withoutDots (segments : List Text) : List Text :=
  (segments.foldl addSegment []).reverse ++
    if ∃ last ∈ segments.getLast?, IsDots last then [[]] else []

/-! ## Settling resolves dot segments -/

theorem settleSegments_concat {kind : SchemeKind} :
    settleSegments kind done (front ++ [last]) =
      ((front ++ [last]).foldl (settleOne kind) done).reverse ++ closing last := by
  rw [settleSegments_append (List.cons_ne_nil _ _), settleSegments_single, List.foldl_concat]

theorem closing_eq_ite (last : Text) : closing last = if IsDots last then [[]] else [] := by
  rw [closing]
  refine if_congr ?_ rfl rfl
  rw [Bool.or_eq_true, isAbove_iff, isHere_iff, IsDots, or_comm]

theorem withoutDots_concat :
    withoutDots (front ++ [last]) =
      ((front ++ [last]).foldl addSegment []).reverse ++ closing last := by
  rw [withoutDots, closing_eq_ite, List.getLast?_concat]
  simp only [Option.mem_some_iff, exists_eq_left']

/-- A segment as the path of a URL spells it. -/
abbrev spelled (segment : Text) : Text := Percent.encode isEscapedInPath segment

theorem settleOne_eq (h : (isAbove s && (done.map spelled).head?.any startsWithDrive) = false) :
    settleOne .web (done.map spelled) s = (addSegment done s).map spelled := by
  rw [settleOne, addSegment]
  by_cases habove : isAbove s = true
  · rw [habove, Bool.true_and] at h
    rw [if_pos habove, if_pos (isAbove_iff.mp habove), takeBack_of_not_drive h, List.map_tail]
  · rw [if_neg habove, if_neg (mt isAbove_iff.mpr habove)]
    by_cases hhere : isHere s = true
    · rw [if_pos hhere, if_pos (isHere_iff.mp hhere)]
    · rw [if_neg hhere, if_neg (mt isHere_iff.mpr hhere)]
      rfl

theorem foldl_settleOne_eq (h : meetsDrive (done.map spelled) written = false) :
    written.foldl (settleOne .web) (done.map spelled) =
      (written.foldl addSegment done).map spelled := by
  induction written generalizing done with
  | nil => rfl
  | cons s rest ih =>
      rw [meetsDrive, Bool.or_eq_false_iff] at h
      have hone := settleOne_eq h.1
      rw [List.foldl_cons, List.foldl_cons, hone, ih (hone ▸ h.2)]

/-! ## Drive letters that are kept -/

/-- A drive letter is kept, and the other segments are among the rest. -/
def KeepsDrive (done ref : List Text) : Prop :=
  ∃ above drive below, done = above ++ drive :: below ∧ startsWithDrive drive = true ∧
    List.Sublist ref (above ++ below)

theorem KeepsDrive.settleOne (h : KeepsDrive done (ref.map spelled)) :
    KeepsDrive (settleOne .web done s) ((addSegment ref s).map spelled) := by
  obtain ⟨above, drive, below, rfl, hdrive, hsub⟩ := h
  rw [Url.settleOne, addSegment]
  by_cases habove : isAbove s = true
  · rw [if_pos habove, if_pos (isAbove_iff.mp habove), List.map_tail]
    cases above with
    | nil => exact ⟨[], drive, below, if_pos hdrive, hdrive, (List.tail_sublist _).trans hsub⟩
    | cons first above =>
        rw [List.cons_append, takeBack]
        split
        · exact ⟨first :: above, drive, below, rfl, hdrive, (List.tail_sublist _).trans hsub⟩
        · exact ⟨above, drive, below, rfl, hdrive, hsub.tail⟩
  · rw [if_neg habove, if_neg (mt isAbove_iff.mpr habove)]
    by_cases hhere : isHere s = true
    · rw [if_pos hhere, if_pos (isHere_iff.mp hhere)]
      exact ⟨above, drive, below, rfl, hdrive, hsub⟩
    · rw [if_neg hhere, if_neg (mt isHere_iff.mpr hhere)]
      exact ⟨spelled s :: above, drive, below, rfl, hdrive, hsub.cons_cons _⟩

theorem KeepsDrive.foldl (h : KeepsDrive done (ref.map spelled)) :
    KeepsDrive (written.foldl (Url.settleOne .web) done)
      ((written.foldl addSegment ref).map spelled) := by
  induction written generalizing done ref with
  | nil => exact h
  | cons s rest ih => exact ih h.settleOne

/-- Two dots that meet a drive letter. -/
theorem keepsDrive_of_drive
    (h : (isAbove s && (done.map spelled).head?.any startsWithDrive) = true) :
    KeepsDrive (settleOne .web (done.map spelled) s) ((addSegment done s).map spelled) := by
  obtain ⟨habove, hdrive⟩ := Bool.and_eq_true_iff.mp h
  rw [settleOne, addSegment, if_pos habove, if_pos (isAbove_iff.mp habove)]
  cases done with
  | nil => cases hdrive
  | cons first done =>
      exact ⟨[], spelled first, done.map spelled, if_pos hdrive, hdrive, List.Sublist.refl _⟩

theorem keepsDrive_of_meets (h : meetsDrive (done.map spelled) written = true) :
    KeepsDrive (written.foldl (settleOne .web) (done.map spelled))
      ((written.foldl addSegment done).map spelled) := by
  induction written generalizing done with
  | nil => exact nomatch h
  | cons s rest ih =>
      rw [meetsDrive] at h
      cases hnow : isAbove s && (done.map spelled).head?.any startsWithDrive with
      | false =>
          rw [hnow, Bool.false_or, settleOne_eq hnow] at h
          rw [List.foldl_cons, List.foldl_cons, settleOne_eq hnow]
          exact ih h
      | true =>
          exact (keepsDrive_of_drive hnow).foldl

/-! ## Segments that are left -/

theorem addSegment_sublist (done : List Text) (s : Text) :
    (addSegment done s).Sublist (s :: done) := by
  rw [addSegment]
  split
  · exact (List.tail_sublist done).cons s
  · split
    · exact List.sublist_cons_self s done
    · exact List.Sublist.refl _

/-- Resolving dot segments adds no segment. -/
theorem foldl_addSegment_sublist (done written : List Text) :
    (written.foldl addSegment done).Sublist (written.reverse ++ done) := by
  induction written generalizing done with
  | nil => exact List.Sublist.refl _
  | cons s rest ih =>
      rw [List.foldl_cons, List.reverse_cons, List.append_assoc, List.singleton_append]
      exact (ih _).trans ((addSegment_sublist done s).append_left rest.reverse)

theorem forall_withoutDots {P : Text → Prop} (hnil : P []) (h : ∀ part ∈ written, P part) :
    ∀ part ∈ withoutDots written, P part := by
  rw [withoutDots, List.forall_mem_append]
  constructor
  · intro part hpart
    have hmem := (foldl_addSegment_sublist [] written).subset (List.mem_reverse.mp hpart)
    rw [List.append_nil, List.mem_reverse] at hmem
    exact h part hmem
  · split
    · exact List.forall_mem_singleton.mpr hnil
    · exact List.forall_mem_nil _

/-! ## Whole paths -/

theorem map_spelled_closing (last : Text) : (closing last).map spelled = closing last := by
  rcases closing_eq last with h | h
  · rw [h]
    rfl
  · rw [h]
    rfl

theorem map_spelled_withoutDots : (withoutDots (front ++ [last])).map spelled =
    (((front ++ [last]).foldl addSegment []).map spelled).reverse ++ closing last := by
  rw [withoutDots_concat, List.map_append, List.map_reverse, map_spelled_closing]

theorem settleSegments_eq (hne : written ≠ []) (h : meetsDrive [] written = false) :
    settleSegments .web [] written = (withoutDots written).map spelled := by
  obtain ⟨front, last, rfl⟩ := (List.eq_nil_or_concat' written).resolve_left hne
  have hfold := @foldl_settleOne_eq [] _ h
  rw [settleSegments_concat, map_spelled_withoutDots, ← hfold]
  rfl

/-- The last segment is the same, whether drive letters are kept or not. -/
theorem getLast?_settleSegments (hne : written ≠ []) :
    (settleSegments .web [] written).getLast? = ((withoutDots written).map spelled).getLast? := by
  obtain ⟨front, last, rfl⟩ := (List.eq_nil_or_concat' written).resolve_left hne
  rw [settleSegments_concat, map_spelled_withoutDots, List.foldl_concat, List.foldl_concat]
  by_cases hdots : IsDots last
  · rw [closing_eq_ite, if_pos hdots, List.getLast?_concat, List.getLast?_concat]
  · have habove : ¬isAbove last = true := fun h => hdots (.inr (isAbove_iff.mp h))
    have hhere : ¬isHere last = true := fun h => hdots (.inl (isHere_iff.mp h))
    rw [closing_eq_ite, if_neg hdots, List.append_nil, List.append_nil, settleOne, addSegment,
      if_neg habove, if_neg hhere, if_neg (mt isAbove_iff.mpr habove),
      if_neg (mt isHere_iff.mpr hhere), List.map_cons, List.getLast?_reverse,
      List.getLast?_reverse]
    rfl

/-- Where two dots meet a drive letter the path is longer, however its segments are shown. -/
theorem KeepsDrive.length_render_lt (h : KeepsDrive done ref) (f : Text → Text) :
    (UrlPath.segments (ref.reverse.map f)).render.length <
      (UrlPath.segments (done.reverse.map f)).render.length := by
  obtain ⟨above, drive, below, rfl, -, hsub⟩ := h
  have hle : (UrlPath.segments (ref.reverse.map f)).render.length ≤
      (UrlPath.segments ((above ++ below).reverse.map f)).render.length :=
    ((hsub.reverse.map f).flatMap _).length_le
  refine Nat.lt_of_le_of_lt hle ?_
  simp only [List.reverse_append, List.reverse_cons, List.map_append, List.append_assoc,
    render_segments_append, List.length_append]
  have hdrive : 0 < (UrlPath.segments ([drive].map f)).render.length := Nat.succ_pos _
  omega

theorem length_render_settleSegments_lt (h : meetsDrive [] written = true) (f : Text → Text) :
    (UrlPath.segments (((withoutDots written).map spelled).map f)).render.length <
      (UrlPath.segments ((settleSegments .web [] written).map f)).render.length := by
  have hne : written ≠ [] := by
    rintro rfl
    cases h
  obtain ⟨front, last, rfl⟩ := (List.eq_nil_or_concat' written).resolve_left hne
  have hkeeps := (@keepsDrive_of_meets [] _ h).length_render_lt f
  rw [settleSegments_concat, map_spelled_withoutDots]
  simp only [List.map_append, render_segments_append, List.length_append]
  exact Nat.add_lt_add_right hkeeps _

end Signpost.Url
