import Signpost.Proofs.Text.Escapes
import Signpost.Proofs.Url.Authority
import Signpost.Url.Reference

/-!
# Paths without dot segments

A segment is read as a dot segment when its escapes resolve to one. Such segments are settled while
a path is read, and no character is spelled so that a segment would become one, so the segments of a
path that has been read resolve to no dot segment, however the dots were spelled.
-/

namespace Signpost.Url

variable {kind : SchemeKind} {base url : Url} {done parts written : List Text}
  {t u scheme rest segment : Text}

/-! ## Segments that are read as dots -/

/-- A text that starts with a dot, which may be spelled as an escape. -/
def StartsWithDot (t rest : Text) : Prop :=
  t = '.' :: rest ∨ t = '%' :: '2' :: 'e' :: rest ∨ t = '%' :: '2' :: 'E' :: rest

theorem decode?_eq_dot : Percent.decode? t = some ('.' :: u) ↔
    ∃ rest, StartsWithDot t rest ∧ Percent.decode? rest = some u := by
  rw [Percent.decode?_eq_cons (by decide) (by decide)]
  constructor
  · rintro ⟨rest, hrest, rfl | ⟨a, b, x, y, rfl, ha, hb, hxy⟩⟩
    · exact ⟨rest, .inl rfl, hrest⟩
    · obtain ⟨hx, ha⟩ := Text.hexValue?_eq_some.mp ha
      obtain ⟨hy, hb⟩ := Text.hexValue?_eq_some.mp hb
      have hnat : x * 16 + y = 0x2E := hxy
      obtain ⟨rfl, rfl⟩ : x = 2 ∧ y = 14 := by omega
      obtain rfl : a = '2' := ha.elim id id
      rcases hb with rfl | rfl
      · exact ⟨rest, .inr (.inl rfl), hrest⟩
      · exact ⟨rest, .inr (.inr rfl), hrest⟩
  · rintro ⟨rest, rfl | rfl | rfl, hrest⟩
    · exact ⟨rest, hrest, .inl rfl⟩
    · exact ⟨rest, hrest, .inr ⟨'2', 'e', 2, 14, rfl, rfl, rfl, rfl⟩⟩
    · exact ⟨rest, hrest, .inr ⟨'2', 'E', 2, 14, rfl, rfl, rfl, rfl⟩⟩

theorem readDots_eq_dot : readDots t = '.' :: u ↔
    ∃ rest, StartsWithDot t rest ∧ readDots rest = u := by
  constructor
  · intro h
    unfold readDots at h
    split at h
    next rest => exact ⟨rest, .inr (.inl rfl), (List.cons.inj h).2⟩
    next rest => exact ⟨rest, .inr (.inr rfl), (List.cons.inj h).2⟩
    next c rest _ _ =>
      obtain ⟨rfl, hrest⟩ := List.cons.inj h
      exact ⟨rest, .inl rfl, hrest⟩
    next => cases h
  · rintro ⟨rest, rfl | rfl | rfl, rfl⟩
    · rw [readDots]
      · intro _ h
        cases h
      · intro _ h
        cases h
    · rfl
    · rfl

theorem readDots_eq_nil : readDots t = [] ↔ t = [] := by
  constructor
  · intro h
    unfold readDots at h
    split at h
    · exact nomatch h
    · exact nomatch h
    · exact nomatch h
    · rfl
  · rintro rfl
    rfl

/-- A segment is read as a dot segment exactly when its escapes resolve to one. -/
theorem isHere_iff : isHere segment = true ↔ Percent.decode? segment = some ['.'] := by
  rw [isHere, decide_eq_true_eq, decode?_eq_dot, readDots_eq_dot]
  simp only [readDots_eq_nil, Percent.decode?_eq_nil]

theorem isAbove_iff : isAbove segment = true ↔ Percent.decode? segment = some ['.', '.'] := by
  rw [isAbove, decide_eq_true_eq, decode?_eq_dot, readDots_eq_dot]
  simp only [decode?_eq_dot, readDots_eq_dot, readDots_eq_nil, Percent.decode?_eq_nil]

/-! ## Segments that are kept -/

/-- A segment as a path keeps it: without a slash or a character that ends paths, and not to be
resolved to a dot segment. -/
structure Kept (segment : Text) : Prop where
  uncut : '/' ∉ segment
  unended : ∀ c ∈ segment, isPathEnd c = false
  here : Percent.decode? segment ≠ some ['.']
  above : Percent.decode? segment ≠ some ['.', '.']

theorem Kept.nil : Kept [] := by
  refine ⟨List.not_mem_nil, List.forall_mem_nil _, ?_, ?_⟩ <;> decide

/-- No escape brings a query or a fragment. -/
theorem isPathEnd_encode {escaped : Char → Bool} (hslash : escaped '/' = false)
    (ht : ∀ c ∈ t, isPathEnd c = false) :
    ∀ c ∈ Percent.encode escaped t, isPathEnd c = false := by
  intro c hc
  rcases (Percent.spells_encode hslash).mem hc with hmem | rfl | hdigit
  · exact ht c hmem
  · rfl
  · rw [isPathEnd, Bool.or_eq_false_iff, decide_eq_false_iff_not, decide_eq_false_iff_not]
    constructor
    · rintro rfl
      exact absurd hdigit (by decide)
    · rintro rfl
      exact absurd hdigit (by decide)

theorem Kept.encode (hcut : '/' ∉ segment) (hends : ∀ c ∈ segment, isPathEnd c = false)
    (hhere : isHere segment = false) (habove : isAbove segment = false) :
    Kept (Percent.encode isEscapedInPath segment) := by
  rw [← Bool.not_eq_true, isHere_iff] at hhere
  rw [← Bool.not_eq_true, isAbove_iff] at habove
  refine ⟨Percent.slash_not_mem_encode hcut, isPathEnd_encode rfl hends, ?_, ?_⟩
  · rwa [Percent.decode?_encode leavesEscapes_isEscapedInPath]
  · rwa [Percent.decode?_encode leavesEscapes_isEscapedInPath]

/-- A drive letter resolves to itself. -/
theorem Kept.drive {c : Char} (hc : Text.isLetter c = true) : Kept [c, ':'] := by
  have hdot : ∀ u, Percent.decode? [c, ':'] ≠ some ('.' :: u) := by
    intro u hu
    obtain ⟨rest, h | h | h, -⟩ := decode?_eq_dot.mp hu
    · rw [(List.cons.inj h).1] at hc
      exact nomatch hc
    · exact nomatch h
    · exact nomatch h
  refine ⟨?_, ?_, hdot _, hdot _⟩
  · rw [List.mem_cons, List.mem_singleton, not_or]
    refine ⟨?_, by decide⟩
    rintro rfl
    exact nomatch hc
  · rw [List.forall_mem_cons, List.forall_mem_singleton]
    refine ⟨?_, by decide⟩
    rw [isPathEnd, Bool.or_eq_false_iff, decide_eq_false_iff_not, decide_eq_false_iff_not]
    constructor
    · rintro rfl
      exact absurd hc (by decide)
    · rintro rfl
      exact absurd hc (by decide)

theorem keepSegment_eq (kind : SchemeKind) (done : List Text) (segment : Text) :
    keepSegment kind done segment = Percent.encode isEscapedInPath segment ∨
    ∃ c, Text.isLetter c = true ∧ keepSegment kind done segment = [c, ':'] := by
  unfold keepSegment
  dsimp only
  split
  next c d heq =>
    split
    next hdrive =>
      rw [isDrive, Bool.and_eq_true] at hdrive
      exact .inr ⟨c, hdrive.1, rfl⟩
    next => exact .inl heq.symm
  next => exact .inl rfl

theorem Kept.keepSegment (hcut : '/' ∉ segment) (hends : ∀ c ∈ segment, isPathEnd c = false)
    (hhere : isHere segment = false) (habove : isAbove segment = false) :
    Kept (keepSegment kind done segment) := by
  rcases keepSegment_eq kind done segment with h | ⟨c, hc, h⟩
  · rw [h]
    exact .encode hcut hends hhere habove
  · rw [h]
    exact .drive hc

theorem mem_of_mem_takeBack (h : segment ∈ takeBack done) : segment ∈ done := by
  cases done with
  | nil => exact h
  | cons first done =>
      rw [takeBack] at h
      split at h
      · exact h
      · exact List.mem_cons_of_mem _ h

section

variable {P : Text → Prop}

/-- One step keeps what holds of the segments behind it and of the one it adds. -/
theorem forall_settleOne (hdone : ∀ part ∈ done, P part)
    (hkeep : isAbove segment = false → isHere segment = false → P (keepSegment kind done segment)) :
    ∀ part ∈ settleOne kind done segment, P part := by
  rw [settleOne]
  split
  · exact fun part hpart => hdone part (mem_of_mem_takeBack hpart)
  next habove =>
    split
    · exact hdone
    next hhere =>
      rw [List.forall_mem_cons]
      exact ⟨hkeep (Bool.eq_false_iff.mpr habove) (Bool.eq_false_iff.mpr hhere), hdone⟩

/-- So does a whole path, which may end in an empty segment. -/
theorem forall_settleSegments (hnil : P []) (hdone : ∀ part ∈ done, P part)
    (hkeep : ∀ segment ∈ written, isAbove segment = false → isHere segment = false →
      ∀ done, P (keepSegment kind done segment)) :
    ∀ part ∈ settleSegments kind done written, P part := by
  induction written generalizing done with
  | nil =>
      rw [settleSegments]
      exact fun part hpart => hdone part (List.mem_reverse.mp hpart)
  | cons segment rest ih =>
      obtain ⟨hsegment, hrest⟩ := List.forall_mem_cons.mp hkeep
      have hone := forall_settleOne hdone fun habove hhere => hsegment habove hhere done
      cases rest with
      | nil =>
          rw [settleSegments_single, List.forall_mem_append]
          refine ⟨fun part hpart => hone part (List.mem_reverse.mp hpart), ?_⟩
          rcases closing_eq segment with h | h
          · rw [h]
            exact List.forall_mem_nil _
          · rw [h]
            exact List.forall_mem_singleton.mpr hnil
      | cons next rest =>
          rw [settleSegments_cons (List.cons_ne_nil _ _)]
          exact ih hone hrest

end

theorem kept_settleSegments (hdone : ∀ part ∈ done, Kept part)
    (hcut : ∀ segment ∈ written, '/' ∉ segment)
    (hends : ∀ segment ∈ written, ∀ c ∈ segment, isPathEnd c = false) :
    ∀ part ∈ settleSegments kind done written, Kept part :=
  forall_settleSegments .nil hdone fun segment hsegment habove hhere _ =>
    .keepSegment (hcut segment hsegment) (hends segment hsegment) hhere habove

/-! ## Paths that are read -/

theorem kept_dropLeadingEmpty (h : ∀ part ∈ parts, Kept part) :
    ∀ part ∈ dropLeadingEmpty parts, Kept part := by
  induction parts with
  | nil => exact List.forall_mem_singleton.mpr .nil
  | cons first parts ih =>
      cases parts with
      | nil => exact h
      | cons next parts =>
          rw [dropLeadingEmpty]
          · split
            · exact ih (List.forall_mem_cons.mp h).2
            · exact h
          · exact fun hnil => nomatch hnil

theorem kept_readSegments (hdone : ∀ part ∈ done, Kept part) :
    ∀ part ∈ readSegments kind done t, Kept part := by
  have hsettled : ∀ part ∈ settleSegments kind done
      (Text.splitBy (isSlash kind) (t.takeWhile (!isPathEnd ·))), Kept part := by
    refine kept_settleSegments hdone (fun segment => Text.not_mem_of_mem_splitBy rfl) ?_
    intro segment hsegment c hc
    simpa using List.mem_takeWhile_imp (Text.subset_of_mem_splitBy hsegment hc)
  rw [readSegments]
  split
  · exact kept_dropLeadingEmpty hsettled
  · exact hsettled

/-- A path that is cut into segments, each as a path keeps it. -/
def Cut (path : UrlPath) : Prop := ∃ parts, path = .segments parts ∧ ∀ part ∈ parts, Kept part

theorem Cut.readSegments (hdone : ∀ part ∈ done, Kept part) :
    Cut (.segments (readSegments kind done t)) := ⟨_, rfl, kept_readSegments hdone⟩

theorem Cut.readPath : Cut (readPath kind t) := by
  have hread {t : Text} : Cut (.segments (Url.readSegments kind [] t)) :=
    .readSegments (List.forall_mem_nil _)
  unfold Url.readPath
  split
  · exact ⟨[], rfl, List.forall_mem_nil _⟩
  · split
    · exact ⟨[], rfl, List.forall_mem_nil _⟩
    · exact hread
  · exact hread

theorem cut_readFile (h : readFile t = .ok url) : Cut url.path := by
  have hread {t : Text} : Cut (.segments (Url.readSegments .file [] t)) :=
    .readSegments (List.forall_mem_nil _)
  have hpath {t : Text} : Cut (readPath .file t) := .readPath
  unfold readFile at h
  dsimp only at h
  split at h
  next c d rest =>
    split at h
    · split at h
      · cases h
        exact hread
      · split at h
        · cases h
          exact hread
        · obtain ⟨host, -, h⟩ := bind_eq_ok.mp h
          split at h
          · cases h
            exact hread
          · cases h
            exact hpath
    · cases h
      exact hpath
  next =>
    cases h
    exact hpath

theorem cut_readAuthority (h : readAuthority scheme t = .ok url) : Cut url.path := by
  rw [readAuthority_eq, map_eq_ok] at h
  obtain ⟨found, -, rfl⟩ := h
  exact Cut.readPath (t := found.2)

theorem cut_follow (hbase : Cut base.path) (h : follow base t = .ok url) : Cut url.path := by
  obtain ⟨parts, hparts, hkept⟩ := hbase
  have hread {done : List Text} {t : Text} (hdone : ∀ part ∈ done, Kept part) :
      Cut (.segments (Url.readSegments .web done t)) := .readSegments hdone
  have hself : Cut base.path := ⟨parts, hparts, hkept⟩
  unfold follow at h
  rw [hparts] at h
  dsimp only at h
  split at h
  · cases h
    exact hself
  · cases h
    exact hself
  · cases h
    exact hself
  · split at h
    · split at h
      · split at h
        · exact cut_readAuthority h
        · cases h
          exact hread (List.forall_mem_nil _)
      · cases h
        exact hread (List.forall_mem_nil _)
    · cases h
      refine hread fun part hpart => hkept part ?_
      exact List.mem_reverse.mp (List.mem_of_mem_tail hpart)

/-! ## Resolving the escapes of a path -/

variable {texts : List Text}

theorem decode?_append_render : Percent.decode? (t ++ (UrlPath.segments parts).render) =
    (Percent.decode? t).bind fun text =>
      (Percent.decode? (UrlPath.segments parts).render).map (text ++ ·) := by
  cases parts with
  | nil =>
      change Percent.decode? (t ++ []) = (Percent.decode? t).bind fun text => some (text ++ [])
      simp
  | cons next parts =>
      obtain ⟨behind, hbehind⟩ : ∃ behind,
          (UrlPath.segments (next :: parts)).render = '/' :: behind := ⟨_, rfl⟩
      ext u
      rw [hbehind, Percent.decode?_append_slash, Percent.decode?_slash]
      simp only [Option.bind_eq_some_iff, Option.map_map, Option.map_eq_some_iff,
        Function.comp_apply]
      constructor
      · rintro ⟨v, w, rfl, hv, hw⟩
        exact ⟨v, hv, w, hw, rfl⟩
      · rintro ⟨v, hv, w, hw, rfl⟩
        exact ⟨v, w, rfl, hv, hw⟩

/-- The segments of a path resolve one by one or not at all. -/
theorem decode?_render : Percent.decode? (UrlPath.segments parts).render =
    (parts.mapM Percent.decode?).map fun texts => (UrlPath.segments texts).render := by
  induction parts with
  | nil => rfl
  | cons part parts ih =>
      have hrender (text : Text) (texts : List Text) : (UrlPath.segments (text :: texts)).render =
          '/' :: (text ++ (UrlPath.segments texts).render) := rfl
      rw [hrender, Percent.decode?_slash, decode?_append_render, ih, List.mapM_cons]
      cases Percent.decode? part with
      | none => rfl
      | some text => cases parts.mapM Percent.decode? <;> rfl

theorem exists_decode?_of_mapM (h : parts.mapM Percent.decode? = some texts) :
    ∀ text ∈ texts, ∃ part ∈ parts, Percent.decode? part = some text := by
  induction parts generalizing texts with
  | nil =>
      cases h
      exact List.forall_mem_nil _
  | cons part parts ih =>
      rw [List.mapM_cons] at h
      simp only [Option.bind_eq_bind, Option.bind_eq_some_iff, Option.pure_def,
        Option.some.injEq] at h
      obtain ⟨text, htext, rest, hrest, rfl⟩ := h
      intro found hfound
      cases hfound with
      | head => exact ⟨part, List.mem_cons_self, htext⟩
      | tail _ hmem =>
          obtain ⟨other, hother, hdecode⟩ := ih hrest found hmem
          exact ⟨other, List.mem_cons_of_mem _ hother, hdecode⟩

/-! ## Schemes without rules of their own -/

section

variable (hkind : SchemeKind.of scheme = .other)

include hkind

theorem readBehindScheme_slashes :
    readBehindScheme scheme ('/' :: '/' :: rest) = readAuthority scheme rest := by
  unfold readBehindScheme
  rw [hkind]
  rfl

theorem readBehindScheme_slash (hrest : ∀ c ∈ rest.head?, c ≠ '/') :
    readBehindScheme scheme ('/' :: rest) = .ok {
      scheme, host := none, port := none, path := .segments (readSegments .other [] rest) } := by
  unfold readBehindScheme
  rw [hkind]
  cases rest with
  | nil => rfl
  | cons c rest =>
      dsimp only
      split
      next heq =>
        cases heq
        exact absurd rfl (hrest '/' rfl)
      next heq =>
        cases heq
        rfl
      next hslash => exact absurd rfl (hslash _)

theorem readBehindScheme_whole (ht : ∀ c ∈ t.head?, c ≠ '/') :
    readBehindScheme scheme t = .ok {
      scheme, host := none, port := none
      path := .whole (Percent.encode isEscapedAlways (t.takeWhile (!isPathEnd ·))) } := by
  unfold readBehindScheme
  rw [hkind]
  dsimp only
  split
  · exact absurd rfl (ht '/' rfl)
  · exact absurd rfl (ht '/' rfl)
  · rfl

end

/-- A text that names a scheme without rules of its own and then a path that does not start with a
slash, as an address for mail does: what follows the colon is taken as it stands. -/
structure NamesWhole (t scheme rest : Text) : Prop where
  split : splitScheme? (clean t) = some (scheme, rest)
  kind : SchemeKind.of scheme = .other
  unslashed : ∀ c ∈ rest.head?, c ≠ '/'

theorem NamesWhole.join (h : NamesWhole t scheme rest)
    (hbase : SchemeKind.of base.scheme ≠ .other) : join base t = .ok {
      scheme, host := none, port := none
      path := .whole (Percent.encode isEscapedAlways (rest.takeWhile (!isPathEnd ·))) } := by
  have hscheme : scheme ≠ base.scheme := by
    rintro rfl
    exact hbase h.kind
  rw [Url.join, h.split]
  simp only [decide_eq_false hscheme, Bool.false_and, Bool.false_eq_true, if_false]
  exact readBehindScheme_whole h.kind h.unslashed

/-- A path that is read behind a page is cut into segments, unless it is taken as a whole. -/
theorem cut_join (hbase : Cut base.path) (h : join base t = .ok url) :
    Cut url.path ∨ ∃ scheme rest, NamesWhole t scheme rest := by
  unfold Url.join at h
  split at h
  · exact .inl (cut_follow hbase h)
  next scheme rest hsplit =>
    split at h
    · exact .inl (cut_follow hbase h)
    · unfold readBehindScheme at h
      split at h
      · exact .inl (cut_readFile h)
      · exact .inl (cut_readAuthority h)
      next hkind =>
        split at h
        · exact .inl (cut_readAuthority h)
        · cases h
          exact .inl (Cut.readSegments (List.forall_mem_nil _))
        next hslashes hslash =>
          refine .inr ⟨scheme, rest, hsplit, hkind, ?_⟩
          rintro _ hc rfl
          obtain ⟨behind, rfl⟩ := List.head?_eq_some_iff.mp hc
          exact hslash behind rfl

end Signpost.Url
