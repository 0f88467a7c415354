import Signpost.Proofs.Text.Percent
import Signpost.Proofs.Text.Split
import Signpost.Url.Path

/-!
# Paths that are extended

A path on the web is settled segment by segment, so what is written behind a slash does not change
how the segments before it are settled. A text without dot segments that is written behind a path
stands in the settled path as it is, but for the characters that are spelled as escapes.
-/

namespace Signpost.Url

variable {kind : SchemeKind} {done front rest : List Text} {segment t r : Text}

/-- Percent signs and digits are spelled as they are in a path. -/
theorem leavesEscapes_isEscapedInPath : Percent.LeavesEscapes isEscapedInPath := by
  refine ⟨by decide, fun c n hc => ?_⟩
  have small : ∀ n < 0x80, (Text.hexValue? (Char.ofNat n)).isSome = true →
      isEscapedInPath (Char.ofNat n) = false := by decide
  have h := small c.toNat (Text.lt_of_hexValue? hc)
  rw [Char.ofNat_toNat, hc] at h
  exact h rfl

theorem leavesEscapes_isEscapedAlways : Percent.LeavesEscapes isEscapedAlways := by
  refine ⟨by decide, fun c n hc => ?_⟩
  rw [isEscapedAlways, Bool.or_eq_false_iff]
  have h := leavesEscapes_isEscapedInPath.digits c n hc
  simp only [isEscapedInPath, Bool.or_eq_false_iff, decide_eq_false_iff_not] at h ⊢
  exact ⟨fun hlow => h.1.1 hlow.le, h.1.2⟩

/-! ## Settling -/

/-- The segments behind one that others follow; both are reversed. -/
def settleOne (kind : SchemeKind) (done : List Text) (segment : Text) : List Text :=
  if isAbove segment then takeBack done
  else if isHere segment then done
  else keepSegment kind done segment :: done

theorem settleSegments_cons (hrest : rest ≠ []) :
    settleSegments kind done (segment :: rest) =
      settleSegments kind (settleOne kind done segment) rest := by
  obtain ⟨next, rest, rfl⟩ := List.exists_cons_of_ne_nil hrest
  rw [settleSegments, settleOne]
  · split
    · rfl
    · split <;> rfl
  · exact fun h => nomatch h

theorem settleSegments_append (hrest : rest ≠ []) :
    settleSegments kind done (front ++ rest) =
      settleSegments kind (front.foldl (settleOne kind) done) rest := by
  induction front generalizing done with
  | nil => rfl
  | cons segment front ih =>
      rw [List.cons_append, settleSegments_cons (List.append_ne_nil_of_right_ne_nil _ hrest), ih]
      rfl

/-- What follows the last segment: a slash in the place of a dot segment. -/
def closing (last : Text) : List Text := if isAbove last || isHere last then [[]] else []

theorem settleSegments_single :
    settleSegments kind done [segment] =
      (settleOne kind done segment).reverse ++ closing segment := by
  rw [settleSegments, settleOne, closing]
  cases isAbove segment with
  | true => exact List.reverse_cons
  | false =>
      cases isHere segment with
      | true => exact List.reverse_cons
      | false => exact (List.append_nil _).symm

theorem closing_eq (segment : Text) : closing segment = [] ∨ closing segment = [[]] := by
  rw [closing]
  split
  · exact .inr rfl
  · exact .inl rfl

theorem settleSegments_ne_nil (hrest : rest ≠ []) : settleSegments kind done rest ≠ [] := by
  obtain ⟨front, last, rfl⟩ := (List.eq_nil_or_concat' rest).resolve_left hrest
  rw [settleSegments_append (List.cons_ne_nil _ _), settleSegments]
  split
  · simp
  · split <;> simp

/-- A text that holds no backslash, query, fragment or dot segment. -/
structure Settled (t : Text) : Prop where
  plain : ∀ c ∈ t, c ≠ '\\' ∧ isPathEnd c = false
  segments : ∀ part ∈ Text.splitOn '/' t, isHere part = false ∧ isAbove part = false

theorem settleSegments_plain (h : ∀ part ∈ rest, isHere part = false ∧ isAbove part = false) :
    settleSegments .web done rest = done.reverse ++ rest.map (Percent.encode isEscapedInPath) := by
  induction rest generalizing done with
  | nil => rw [settleSegments, List.map_nil, List.append_nil]
  | cons segment rest ih =>
      obtain ⟨⟨hhere, habove⟩, hrest⟩ := List.forall_mem_cons.mp h
      have hone : settleOne .web done segment = Percent.encode isEscapedInPath segment :: done := by
        rw [settleOne, if_neg (by simp [habove]), if_neg (by simp [hhere])]
        rfl
      by_cases hnil : rest = []
      · subst hnil
        rw [settleSegments, if_neg (by simp [habove]), if_neg (by simp [hhere])]
        exact List.reverse_cons
      · rw [settleSegments_cons hnil, hone, ih hrest]
        simp

/-! ## Rendering -/

theorem render_segments_append : (UrlPath.segments (front ++ rest)).render =
    (UrlPath.segments front).render ++ (UrlPath.segments rest).render := List.flatMap_append

theorem render_map_encode (hrest : rest ≠ []) :
    (UrlPath.segments (rest.map (Percent.encode isEscapedInPath))).render =
      '/' :: Percent.encode isEscapedInPath (Text.join ['/'] rest) := by
  induction rest with
  | nil => exact absurd rfl hrest
  | cons segment rest ih =>
      by_cases hnil : rest = []
      · subst hnil
        exact List.append_nil _
      · obtain ⟨next, behind, rfl⟩ := List.exists_cons_of_ne_nil hnil
        rw [Text.join, Percent.encode_append, Percent.encode_append, List.append_assoc]
        · exact congrArg (('/' :: Percent.encode isEscapedInPath segment) ++ ·) (ih hnil)
        · exact hnil

theorem Settled.splitBy (h : Settled t) : Text.splitBy (isSlash .web) t = Text.splitOn '/' t := by
  refine Text.splitBy_congr fun c hc => ?_
  have hne := (h.plain c hc).1
  rw [isSlash, decide_eq_false hne, Bool.and_false, Bool.or_false]
  rfl

/-- What a settled text adds to a path. -/
theorem Settled.render (h : Settled t) :
    (UrlPath.segments (settleSegments .web done (Text.splitBy (isSlash .web) t))).render =
      (UrlPath.segments done.reverse).render ++ '/' :: Percent.encode isEscapedInPath t := by
  rw [h.splitBy, settleSegments_plain h.segments, render_segments_append,
    render_map_encode Text.splitOn_ne_nil, Text.join_splitOn]

theorem readSegments_web (h : ∀ c ∈ t, isPathEnd c = false) :
    readSegments .web [] t = settleSegments .web [] (Text.splitBy (isSlash .web) t) := by
  have hall : t.takeWhile (!isPathEnd ·) = t :=
    List.takeWhile_eq_self_iff.mpr fun c hc => by simp [h c hc]
  rw [readSegments, hall]
  rfl

/-! ## Extending a path -/

theorem Settled.nil : Settled [] := by
  refine ⟨List.forall_mem_nil _, ?_⟩
  simp [Text.splitOn, Text.splitBy, isHere, isAbove, readDots]

theorem Settled.plain_append (h : Settled t) (hr : ∀ c ∈ r, isPathEnd c = false) :
    ∀ c ∈ r ++ t, isPathEnd c = false :=
  List.forall_mem_append.mpr ⟨hr, fun c hc => (h.plain c hc).2⟩

/-- Behind a path that ends in a slash, or behind none, a settled text is added to the path. -/
theorem Settled.render_append (h : Settled t) (hr : ∀ c ∈ r, isPathEnd c = false)
    (hlast : r = [] ∨ ∃ lead, r = lead ++ ['/']) :
    ∃ path, (UrlPath.segments (readSegments .web [] r)).render = path ++ ['/'] ∧
      (UrlPath.segments (readSegments .web [] (r ++ t))).render =
        path ++ '/' :: Percent.encode isEscapedInPath t := by
  have hsplit : ∃ front, Text.splitBy (isSlash .web) r = front ++ Text.splitBy (isSlash .web) [] ∧
      Text.splitBy (isSlash .web) (r ++ t) = front ++ Text.splitBy (isSlash .web) t := by
    rcases hlast with rfl | ⟨lead, rfl⟩
    · exact ⟨[], rfl, rfl⟩
    · refine ⟨Text.splitBy (isSlash .web) lead, Text.splitBy_append_cons rfl, ?_⟩
      rw [List.append_assoc, List.singleton_append, Text.splitBy_append_cons rfl]
  obtain ⟨front, hfront, hbehind⟩ := hsplit
  refine ⟨(UrlPath.segments (front.foldl (settleOne .web) []).reverse).render, ?_, ?_⟩
  · rw [readSegments_web hr, hfront, settleSegments_append Text.splitBy_ne_nil, Settled.nil.render]
    rfl
  · rw [readSegments_web (h.plain_append hr), hbehind, settleSegments_append Text.splitBy_ne_nil,
      h.render]

/-- Behind any path and a slash a settled text is added to the path with a slash behind it. A path
that ends in a dot segment has that slash, and one that ends in a backslash gets another. -/
theorem Settled.render_append_slash (h : Settled t) (hr : ∀ c ∈ r, isPathEnd c = false) :
    ∃ added, (added = Percent.encode isEscapedInPath t ∨
        added = '/' :: Percent.encode isEscapedInPath t) ∧
      (UrlPath.segments (readSegments .web [] (r ++ '/' :: t))).render =
        Text.withTrailingSlash (UrlPath.segments (readSegments .web [] r)).render ++ added := by
  have hall : ∀ c ∈ r ++ '/' :: t, isPathEnd c = false :=
    List.forall_mem_append.mpr
      ⟨hr, List.forall_mem_cons.mpr ⟨rfl, fun c hc => (h.plain c hc).2⟩⟩
  obtain ⟨front, last, hsplit⟩ : ∃ front last, Text.splitBy (isSlash .web) r = front ++ [last] :=
    (List.eq_nil_or_concat' _).resolve_left Text.splitBy_ne_nil
  have hbehind : (UrlPath.segments (readSegments .web [] (r ++ '/' :: t))).render =
      (UrlPath.segments (settleOne .web (front.foldl (settleOne .web) []) last).reverse).render ++
        '/' :: Percent.encode isEscapedInPath t := by
    rw [readSegments_web hall, Text.splitBy_append_cons rfl, hsplit,
      settleSegments_append Text.splitBy_ne_nil, h.render, List.foldl_append]
    rfl
  rw [readSegments_web hr, hsplit, settleSegments_append (List.cons_ne_nil _ _), hbehind]
  generalize front.foldl (settleOne .web) [] = done
  rw [settleSegments_single]
  rcases closing_eq last with hlast | hlast
  · rw [hlast, List.append_nil]
    rcases Text.withTrailingSlash_eq
      (t := (UrlPath.segments (settleOne .web done last).reverse).render) with heq | heq
    · exact ⟨_, .inr rfl, by rw [heq]⟩
    · exact ⟨_, .inl rfl, by rw [heq, List.append_assoc, List.singleton_append]⟩
  · have hslash : (UrlPath.segments ((settleOne .web done last).reverse ++ [[]])).render =
        (UrlPath.segments (settleOne .web done last).reverse).render ++ ['/'] :=
      render_segments_append
    refine ⟨_, .inl rfl, ?_⟩
    rw [hlast, hslash, Text.withTrailingSlash_append_slash, List.append_assoc, List.singleton_append]

theorem readPath_web : readPath .web t = .segments (readSegments .web [] (dropSlash .web t)) := rfl

theorem render_readPath_cons : ∃ behind, (readPath .web t).render = '/' :: behind := by
  rw [readPath_web, readSegments]
  have hne := @settleSegments_ne_nil .web [] _
    (Text.splitBy_ne_nil (p := isSlash .web) (t := (dropSlash .web t).takeWhile (!isPathEnd ·)))
  obtain ⟨segment, rest, heq⟩ := List.exists_cons_of_ne_nil hne
  rw [heq]
  exact ⟨_, rfl⟩

/-- A text behind the authority of a URL: nothing, or a slash with what follows it. -/
def IsRest (r : Text) : Prop := r = [] ∨ ∃ c t, r = c :: t ∧ isSlash .web c = true

theorem IsRest.append (h : IsRest r) : IsRest (Text.withTrailingSlash r ++ t) := by
  rcases h with rfl | ⟨c, r, rfl, hc⟩
  · exact .inr ⟨'/', t, rfl, rfl⟩
  · obtain ⟨behind, heq⟩ := Text.withTrailingSlash_cons c r
    exact .inr ⟨c, behind ++ t, by rw [heq, List.cons_append], hc⟩

/-- What a settled text adds to the path that is read behind an authority. -/
theorem Settled.render_readPath (h : Settled t) (hrest : IsRest r)
    (hr : ∀ c ∈ r, isPathEnd c = false) :
    ∃ added, (added = Percent.encode isEscapedInPath t ∨
        added = '/' :: Percent.encode isEscapedInPath t) ∧
      (readPath .web (Text.withTrailingSlash r ++ t)).render =
        Text.withTrailingSlash (readPath .web r).render ++ added := by
  have hread {c : Char} {r : Text} (hc : isSlash .web c = true) :
      readPath .web (c :: r) = .segments (readSegments .web [] r) := by
    rw [readPath_web, dropSlash, if_pos hc]
  -- a path with a slash at its end takes the text as it is
  have hslash {path read behind : Text} (hpath : read = path ++ ['/'])
      (hbehind : behind = path ++ '/' :: Percent.encode isEscapedInPath t) :
      behind = Text.withTrailingSlash read ++ Percent.encode isEscapedInPath t := by
    rw [hpath, hbehind, Text.withTrailingSlash_append_slash, List.append_assoc,
      List.singleton_append]
  rcases hrest with rfl | ⟨c, r, rfl, hc⟩
  · obtain ⟨path, hpath, hbehind⟩ := h.render_append hr (.inl rfl)
    exact ⟨_, .inl rfl, hslash hpath hbehind⟩
  · have hr := (List.forall_mem_cons.mp hr).2
    rcases Text.withTrailingSlash_cases (t := c :: r) with ⟨⟨lead, hlead⟩, hend⟩ | ⟨-, hend⟩
    · have hlast : r = [] ∨ ∃ lead, r = lead ++ ['/'] := by
        cases lead with
        | nil => exact .inl (List.cons.inj hlead).2
        | cons first lead => exact .inr ⟨lead, (List.cons.inj hlead).2⟩
      obtain ⟨path, hpath, hbehind⟩ := h.render_append hr hlast
      rw [hend, List.cons_append, hread hc, hread hc]
      exact ⟨_, .inl rfl, hslash hpath hbehind⟩
    · obtain ⟨added, hadded, hbehind⟩ := h.render_append_slash hr
      rw [hend, List.append_assoc, List.singleton_append, List.cons_append, hread hc, hread hc]
      exact ⟨added, hadded, hbehind⟩

end Signpost.Url
