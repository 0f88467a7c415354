import Signpost.Proofs.Url.Segments

/-!
# Queries and fragments

Where a query or a fragment starts, the path of a URL has ended, and so has everything before it.
What stands from there on changes nothing, with the one exception that a lone at sign makes for
schemes without rules of their own.
-/

namespace Signpost.Url

variable {kind : SchemeKind} {base : Url} {scheme rest r t : Text} {done : List Text}

/-- A query or a fragment: a text that starts where the path ends. -/
def IsTail (r : Text) : Prop := ∃ c s, r = c :: s ∧ isPathEnd c = true

theorem IsTail.head (h : IsTail r) : ∀ c ∈ r.head?, isPathEnd c = true := by
  obtain ⟨c, s, rfl, hc⟩ := h
  rintro _ ⟨⟩
  exact hc

theorem IsTail.ends (h : IsTail r) : Ends kind r := fun c hc => by
  rw [isAuthorityEnd, h.head c hc, Bool.or_true]

theorem isPathEnd_iff {c : Char} : isPathEnd c = true ↔ c = '?' ∨ c = '#' := by simp [isPathEnd]

/-- A character at which something else is read stops in front of a query or fragment. -/
theorem IsTail.stops {p : Char → Bool} (h : IsTail r) (hquery : p '?' = false)
    (hfragment : p '#' = false) : ∀ c ∈ r.head?, p c = false := by
  intro c hc
  rcases isPathEnd_iff.mp (h.head c hc) with rfl | rfl
  · exact hquery
  · exact hfragment

theorem head_append {P : Char → Prop} (ht : ∀ c ∈ t.head?, P c) (hr : ∀ c ∈ r.head?, P c) :
    ∀ c ∈ (t ++ r).head?, P c := by
  cases t with
  | nil => exact hr
  | cons c t => exact ht

theorem IsTail.isSlash (h : IsTail r) : ∀ c ∈ r.head?, isSlash kind c = false := by
  cases kind <;> exact h.stops rfl rfl

theorem takeWhile_append_tail (hr : IsTail r) :
    (t ++ r).takeWhile (!isPathEnd ·) = t.takeWhile (!isPathEnd ·) :=
  (Text.while_append (hr.stops rfl rfl)).1

/-! ## Paths -/

theorem readSegments_append (hr : IsTail r) :
    readSegments kind done (t ++ r) = readSegments kind done t := by
  rw [readSegments, readSegments, takeWhile_append_tail hr]

theorem dropSlash_append (hr : IsTail r) : dropSlash kind (t ++ r) = dropSlash kind t ++ r := by
  cases t with
  | nil =>
      obtain ⟨c, s, rfl, hc⟩ := hr
      have hslash : isSlash kind c = false := IsTail.isSlash ⟨c, s, rfl, hc⟩ c rfl
      rw [List.nil_append, dropSlash, hslash]
      rfl
  | cons c t =>
      rw [List.cons_append, dropSlash, dropSlash]
      split <;> rfl

theorem readPath_append (hr : IsTail r) : readPath kind (t ++ r) = readPath kind t := by
  cases kind with
  | file =>
      change UrlPath.segments (readSegments .file [] (dropSlash .file (t ++ r))) = _
      rw [dropSlash_append hr, readSegments_append hr]
      rfl
  | web =>
      rw [readPath_web, readPath_web, dropSlash_append hr, readSegments_append hr]
  | other =>
      cases t with
      | nil =>
          obtain ⟨c, s, rfl, hc⟩ := hr
          exact if_pos hc
      | cons c t =>
          rw [List.cons_append, readPath, readPath, ← List.cons_append, dropSlash_append hr,
            readSegments_append hr]

/-! ## Whole URLs -/

theorem readAuthority_append_tail (hr : IsTail r)
    (hlone : SchemeKind.of scheme = .other → t ≠ ['@']) :
    readAuthority scheme (t ++ r) = readAuthority scheme t := by
  rw [readAuthority_eq, readAuthority_eq, readOrigin_append hr.ends fun h => .inl (hlone h)]
  cases readOrigin (SchemeKind.of scheme) t with
  | error e => rfl
  | ok found => simp only [Except.map, readPath_append hr]

theorem readFile_append (hr : IsTail r) : readFile (t ++ r) = readFile t := by
  match t with
  | [] =>
      obtain ⟨c, s, rfl, hc⟩ := hr
      have hslash : isSlash .file c = false := IsTail.isSlash ⟨c, s, rfl, hc⟩ c rfl
      have hpath : readPath .file ([] ++ c :: s) = readPath .file [] :=
        readPath_append ⟨c, s, rfl, hc⟩
      rw [List.nil_append] at hpath ⊢
      cases s with
      | nil => simp only [readFile, hpath]
      | cons d s =>
          simp only [readFile, hslash, hpath, Bool.false_and, Bool.false_eq_true, if_false]
  | [c] =>
      obtain ⟨d, s, rfl, hd⟩ := hr
      have hslash : isSlash .file d = false := IsTail.isSlash ⟨d, s, rfl, hd⟩ d rfl
      have hpath : readPath .file ([c] ++ d :: s) = readPath .file [c] :=
        readPath_append ⟨d, s, rfl, hd⟩
      rw [List.singleton_append] at hpath ⊢
      rw [readFile, hslash, Bool.and_false, hpath]
      rfl
  | c :: d :: rest =>
      have htake : (rest ++ r).takeWhile (!isAuthorityEnd .file ·) =
          rest.takeWhile (!isAuthorityEnd .file ·) := takeWhile_authority hr.ends
      have hdrop : (rest ++ r).drop (rest.takeWhile (!isAuthorityEnd .file ·)).length =
          rest.drop (rest.takeWhile (!isAuthorityEnd .file ·)).length ++ r :=
        List.drop_append_of_le_length (List.takeWhile_prefix _).length_le
      have hpath : readPath .file (c :: d :: rest ++ r) = readPath .file (c :: d :: rest) :=
        readPath_append hr
      rw [List.cons_append, List.cons_append] at hpath ⊢
      simp only [readFile, htake, hdrop, hpath, readPath_append hr, readSegments_append hr]

theorem IsTail.unslashed (hr : IsTail r) (ht : ∀ c ∈ t.head?, c ≠ '/') :
    ∀ c ∈ (t ++ r).head?, c ≠ '/' := by
  refine head_append ht ?_
  rintro c hc rfl
  exact nomatch hr.head '/' hc

theorem readBehindScheme_append_other (hr : IsTail r) (hkind : SchemeKind.of scheme = .other)
    (hlone : t ≠ "//@".toList) :
    readBehindScheme scheme (t ++ r) = readBehindScheme scheme t := by
  by_cases hfirst : ∀ c ∈ t.head?, c ≠ '/'
  · rw [readBehindScheme_whole hkind (hr.unslashed hfirst), readBehindScheme_whole hkind hfirst,
      takeWhile_append_tail hr]
  · obtain ⟨rest, rfl⟩ : ∃ rest, t = '/' :: rest := by
      simpa [List.head?_eq_some_iff] using hfirst
    rw [List.cons_append]
    by_cases hsecond : ∀ c ∈ rest.head?, c ≠ '/'
    · rw [readBehindScheme_slash hkind (hr.unslashed hsecond), readBehindScheme_slash hkind hsecond,
        readSegments_append hr]
    · obtain ⟨rest, rfl⟩ : ∃ behind, rest = '/' :: behind := by
        simpa [List.head?_eq_some_iff] using hsecond
      rw [List.cons_append, readBehindScheme_slashes hkind, readBehindScheme_slashes hkind]
      refine readAuthority_append_tail hr fun _ => ?_
      rintro rfl
      exact hlone rfl

theorem readBehindScheme_append (hr : IsTail r)
    (hlone : SchemeKind.of scheme = .other → t ≠ "//@".toList) :
    readBehindScheme scheme (t ++ r) = readBehindScheme scheme t := by
  cases hkind : SchemeKind.of scheme with
  | file =>
      unfold readBehindScheme
      rw [hkind]
      exact readFile_append hr
  | web =>
      unfold readBehindScheme
      rw [hkind]
      dsimp only
      rw [(Text.while_append hr.isSlash).2]
      exact readAuthority_append_tail hr fun h => nomatch hkind.symm.trans h
  | other => exact readBehindScheme_append_other hr hkind (hlone hkind)

/-! ## References -/

theorem follow_of_tail (hr : IsTail r) : follow base r = .ok base := by
  obtain ⟨c, s, rfl, hc⟩ := hr
  rcases isPathEnd_iff.mp hc with rfl | rfl <;> rfl

/-- The segments that a relative path goes on from. -/
def segments (base : Url) : List Text :=
  match base.path with
  | .segments parts => parts
  | .whole _ => []

theorem follow_relative {c : Char} (hend : isPathEnd c = false) (hc : isSlash .web c = false) :
    follow base (c :: rest) = .ok {
      base with path := .segments (readSegments .web base.segments.reverse.tail (c :: rest)) } := by
  have hne : c ≠ '?' ∧ c ≠ '#' := by simpa [isPathEnd] using hend
  unfold follow
  dsimp only
  split
  next heq => cases heq
  next heq => exact absurd (List.cons.inj heq).1 hne.1
  next heq => exact absurd (List.cons.inj heq).1 hne.2
  next heq =>
    cases heq
    rw [hc]
    rfl

theorem follow_absolute {c : Char} (hc : isSlash .web c = true)
    (hrest : ∀ d ∈ rest.head?, isSlash .web d = false) :
    follow base (c :: rest) = .ok { base with path := .segments (readSegments .web [] rest) } := by
  have hne : c ≠ '?' ∧ c ≠ '#' := by
    constructor
    · rintro rfl
      cases hc
    · rintro rfl
      cases hc
  unfold follow
  dsimp only
  split
  next heq => cases heq
  next heq => exact absurd (List.cons.inj heq).1 hne.1
  next heq => exact absurd (List.cons.inj heq).1 hne.2
  next heq =>
    cases heq
    rw [if_pos hc]
    cases rest with
    | nil => rfl
    | cons d rest => exact if_neg (by rw [hrest d rfl]; exact Bool.false_ne_true)

/-- What is read as an authority behind two slashes; more slashes are passed over only when there is
a backslash among the two. -/
theorem follow_slashes {c d : Char} (hc : isSlash .web c = true) (hd : isSlash .web d = true) :
    follow base (c :: d :: rest) = readAuthority base.scheme
      (if c = '/' ∧ d = '/' then rest else rest.dropWhile (isSlash .web)) := by
  have hslash {e : Char} : isSlash .web e = true ↔ e = '/' ∨ e = '\\' := by
    simp [isSlash, SchemeKind.isSpecial]
  rcases hslash.mp hc with rfl | rfl <;> rcases hslash.mp hd with rfl | rfl <;> rfl

theorem follow_append (hr : IsTail r) (ht : ∀ c ∈ t.head?, isPathEnd c = false)
    (hbase : SchemeKind.of base.scheme = .web) : follow base (t ++ r) = follow base t := by
  cases t with
  | nil => exact follow_of_tail hr
  | cons c rest =>
      have hend := ht c rfl
      rw [List.cons_append]
      cases hc : isSlash .web c with
      | false =>
          rw [follow_relative hend hc, follow_relative hend hc, ← List.cons_append,
            readSegments_append hr]
      | true =>
          by_cases hrest : ∀ d ∈ rest.head?, isSlash .web d = false
          · rw [follow_absolute hc (head_append hrest hr.isSlash), follow_absolute hc hrest,
              readSegments_append hr]
          · obtain ⟨d, rest, rfl, hd⟩ : ∃ d behind, rest = d :: behind ∧ isSlash .web d = true := by
              cases rest with
              | nil => exact absurd nofun hrest
              | cons d rest => exact ⟨d, rest, rfl, by simpa using hrest⟩
            rw [List.cons_append, follow_slashes hc hd, follow_slashes hc hd,
              (Text.while_append hr.isSlash).2, ← apply_ite (· ++ r)]
            exact readAuthority_append_tail hr fun h => nomatch hbase.symm.trans h

/-! ## Schemes -/

theorem splitScheme?_append (hr : IsTail r) : splitScheme? (t ++ r) =
    (splitScheme? t).map fun found => (found.1, found.2 ++ r) := by
  obtain ⟨htake, hdrop⟩ := Text.while_append (t := t) (hr.stops (p := isSchemeChar) rfl rfl)
  unfold splitScheme?
  rw [htake, hdrop]
  dsimp only
  cases t.takeWhile isSchemeChar with
  | nil => rfl
  | cons first scheme =>
      cases t.dropWhile isSchemeChar with
      | nil =>
          obtain ⟨c, s, rfl, hc⟩ := hr
          rcases isPathEnd_iff.mp hc with rfl | rfl <;> rfl
      | cons c rest =>
          by_cases hc : c = ':'
          · subst hc
            cases hfirst : Text.isLetter first <;> simp [hfirst]
          · simp [hc]

theorem splitScheme?_subset (h : splitScheme? t = some (scheme, rest)) : rest ⊆ t := by
  unfold splitScheme? at h
  dsimp only at h
  split at h
  next hdrop =>
    split at h
    · cases h
      intro c hc
      exact (List.dropWhile_suffix isSchemeChar).subset (hdrop ▸ List.mem_cons_of_mem _ hc)
    · exact nomatch h
  · exact nomatch h

/-! ## References to a page -/

theorem clean_subset : clean t ⊆ t := by
  intro c hc
  have htrim : c ∈ Text.trimBy (·.toNat ≤ 0x20) t := (List.mem_filter.mp hc).1
  have hstart : c ∈ Text.trimStartBy (·.toNat ≤ 0x20) t :=
    (List.rdropWhile_prefix _ _).subset htrim
  exact (List.dropWhile_suffix _).subset hstart

theorem clean_append (hr : IsTail r) (hlast : ∀ c ∈ t.getLast?, 0x20 < c.toNat) :
    ∃ behind, IsTail behind ∧ clean (t ++ r) = clean t ++ behind := by
  obtain ⟨c, s, rfl, hc⟩ := hr
  have htrim : Text.trimBy (·.toNat ≤ 0x20) t = Text.trimStartBy (·.toNat ≤ 0x20) t :=
    Text.trimBy_eq_trimStartBy fun c hc => by simpa using hlast c hc
  have hvisible : decide (c.toNat ≤ 0x20) = false := by
    rcases isPathEnd_iff.mp hc with rfl | rfl <;> rfl
  have hkept : (c != '\t' && c != '\n' && c != '\r') = true := by
    rcases isPathEnd_iff.mp hc with rfl | rfl <;> rfl
  rw [clean, clean, Text.trimBy_append_cons hvisible, htrim, List.filter_append,
    List.filter_cons, if_pos hkept]
  exact ⟨_, ⟨c, _, rfl, hc⟩, rfl⟩

/-- A text with a scheme without rules of its own whose authority is a lone at sign, with nothing
behind it. -/
def IsLoneAt (t : Text) : Prop :=
  ∃ scheme, splitScheme? (clean t) = some (scheme, "//@".toList) ∧ SchemeKind.of scheme = .other

theorem join_append (hr : IsTail r) (hlast : ∀ c ∈ t.getLast?, 0x20 < c.toNat)
    (ht : ∀ c ∈ t, isPathEnd c = false) (hbase : SchemeKind.of base.scheme = .web)
    (hlone : ¬IsLoneAt t) : join base (t ++ r) = join base t := by
  obtain ⟨behind, hbehind, hclean⟩ := clean_append hr hlast
  have hhead {s : Text} (hs : s ⊆ clean t) : ∀ c ∈ s.head?, isPathEnd c = false :=
    fun c hc => ht c (clean_subset (hs (List.mem_of_mem_head? hc)))
  rw [join, join, hclean, splitScheme?_append hbehind]
  cases hsplit : splitScheme? (clean t) with
  | none => exact follow_append hbehind (hhead (List.Subset.refl _)) hbase
  | some found =>
      obtain ⟨scheme, rest⟩ := found
      dsimp only [Option.map_some]
      rw [(Text.while_append hbehind.isSlash).1, follow_append hbehind
        (hhead (splitScheme?_subset hsplit)) hbase, readBehindScheme_append hbehind]
      intro hkind
      rintro rfl
      exact hlone ⟨scheme, hsplit, hkind⟩

/-- With a query or a fragment such a text is no reference, and without it is one, to no path. -/
theorem join_of_isLoneAt (base : Url) (h : IsLoneAt t) (hr : IsTail r)
    (hlast : ∀ c ∈ t.getLast?, 0x20 < c.toNat) (hbase : SchemeKind.of base.scheme = .web) :
    (∃ url, join base t = .ok url ∧ url.path = .segments []) ∧
      join base (t ++ r) = .error .emptyHost := by
  obtain ⟨scheme, hsplit, hkind⟩ := h
  obtain ⟨behind, hbehind, hclean⟩ := clean_append hr hlast
  have hscheme : scheme ≠ base.scheme := by
    rintro rfl
    exact nomatch hkind.symm.trans hbase
  rw [join, join, hclean, splitScheme?_append hbehind, hsplit]
  simp only [Option.map_some, decide_eq_false hscheme, Bool.false_and, Bool.false_eq_true, if_false]
  have hslashes (s : Text) : readBehindScheme scheme ("//".toList ++ s) = readAuthority scheme s :=
    readBehindScheme_slashes hkind
  constructor
  · refine ⟨⟨scheme, none, none, .segments []⟩, ?_, rfl⟩
    refine (hslashes ['@']).trans ?_
    have horigin : readOrigin .other ['@'] = .ok ((none, none), []) := by decide
    rw [readAuthority_eq, hkind, horigin]
    simp [Except.map, readPath]
  · have hne : behind ≠ [] := by
      obtain ⟨c, s, rfl, -⟩ := hbehind
      exact List.cons_ne_nil c s
    refine (hslashes ('@' :: behind)).trans ?_
    rw [readAuthority_eq, readOrigin, dropUser_loneAt hbehind.ends hne]
    rfl

end Signpost.Url
