import Signpost.Proofs.Outcome
import Signpost.Proofs.Url.Query

/-!
# Texts that settle the host

Whether a text can be read behind the colon of a scheme is decided by its host and its port. A text
in front may settle that already, by holding the end of the authority or by showing that there is
none. Behind any other text an at sign takes back the host that was read so far, and a host can
follow that no scheme allows.
-/

namespace Signpost.Url

variable {kind : SchemeKind} {scheme front a r s t : Text}

/-! ## Schemes -/

/-- The name of a scheme: a letter, then letters, digits, plus and minus signs and dots. -/
def IsSchemeName : Text → Prop
  | [] => False
  | first :: name => Text.isLetter first = true ∧ ∀ c ∈ name, isSchemeChar c = true

theorem IsSchemeName.schemeChar (h : IsSchemeName scheme) :
    ∀ c ∈ scheme, isSchemeChar c = true := by
  cases scheme with
  | nil => exact h.elim
  | cons first name =>
      rw [List.forall_mem_cons]
      refine ⟨?_, h.2⟩
      simp only [isSchemeChar, Text.isAlphanumeric, h.1, Bool.true_or]

theorem IsSchemeName.colon_not_mem (h : IsSchemeName scheme) : ':' ∉ scheme := by
  intro hmem
  exact absurd (h.schemeChar ':' hmem) (by decide)

/-- The end of a text without the controls and spaces that do not count there. -/
def trimControls (t : Text) : Text := Text.trimEndBy (·.toNat ≤ 0x20) t

theorem eq_false_of_control {p : Char → Bool} (h : ∀ n ≤ 0x20, p (Char.ofNat n) = false) {c : Char}
    (hc : c.toNat ≤ 0x20) : p c = false := by
  have hp := h c.toNat hc
  rwa [Char.ofNat_toNat] at hp

theorem isSchemeChar_control {c : Char} (hc : c.toNat ≤ 0x20) : isSchemeChar c = false :=
  eq_false_of_control (by decide) hc

theorem isAuthorityEnd_control {c : Char} (hc : c.toNat ≤ 0x20) : isAuthorityEnd kind c = false := by
  cases kind <;> exact eq_false_of_control (by decide) hc

/-- What stands before a character that counts is not trimmed. -/
theorem trimControls_append_cons {c : Char} (hc : ¬c.toNat ≤ 0x20) :
    trimControls (t ++ c :: r) = t ++ c :: trimControls r := by
  have hstop : ∀ d ∈ (c :: t.reverse).head?, decide (d.toNat ≤ 0x20) = false := by
    rintro _ ⟨⟩
    exact decide_eq_false hc
  unfold trimControls Text.trimEndBy
  rw [List.reverse_append, List.reverse_cons, List.append_assoc, List.singleton_append,
    (Text.while_append hstop).2]
  simp

theorem trimControls_starts : trimControls t <+: t := List.rdropWhile_prefix _ _

theorem trimBy_scheme (hscheme : IsSchemeName scheme) :
    Text.trimBy (·.toNat ≤ 0x20) (scheme ++ ':' :: t) = scheme ++ ':' :: trimControls t := by
  rw [Text.trimBy_append_cons (by decide)]
  cases scheme with
  | nil => exact hscheme.elim
  | cons first name =>
      have hfirst : ¬first.toNat ≤ 0x20 := by
        intro hcontrol
        have hchar := hscheme.schemeChar first List.mem_cons_self
        exact Bool.false_ne_true ((isSchemeChar_control hcontrol).symm.trans hchar)
      rw [Text.trimStartBy, List.dropWhile_cons_of_neg (by simpa using hfirst)]
      rfl

/-- Without white space a link with a scheme is cleaned by trimming its end. -/
theorem clean_scheme (hscheme : IsSchemeName scheme) (ht : ∀ c ∈ t, Text.isBlank c = false) :
    clean (scheme ++ ':' :: t) = scheme ++ ':' :: trimControls t := by
  have hkept : ∀ c ∈ scheme ++ ':' :: trimControls t, isSchemeChar c = true ∨ c = ':' ∨
      Text.isBlank c = false := by
    intro c hc
    rcases List.mem_append.mp hc with hc | hc
    · exact .inl (hscheme.schemeChar c hc)
    · rcases List.mem_cons.mp hc with hc | hc
      · exact .inr (.inl hc)
      · exact .inr (.inr (ht c (trimControls_starts.subset hc)))
  rw [clean, trimBy_scheme hscheme, List.filter_eq_self]
  intro c hc
  have hchar := hkept c hc
  simp only [Bool.and_eq_true, bne_iff_ne]
  refine ⟨⟨?_, ?_⟩, ?_⟩
  · rintro rfl
    exact absurd hchar (by decide)
  · rintro rfl
    exact absurd hchar (by decide)
  · rintro rfl
    exact absurd hchar (by decide)

theorem takeWhile_scheme (hscheme : IsSchemeName scheme) {c : Char} (hc : isSchemeChar c = false) :
    (scheme ++ c :: t).takeWhile isSchemeChar = scheme ∧
      (scheme ++ c :: t).dropWhile isSchemeChar = c :: t := by
  have hstop : ∀ d ∈ (c :: t).head?, isSchemeChar d = false := by
    rintro _ ⟨⟩
    exact hc
  obtain ⟨htake, hdrop⟩ := Text.while_append (t := scheme) hstop
  rw [htake, hdrop, List.takeWhile_eq_self_iff.mpr hscheme.schemeChar,
    List.dropWhile_eq_nil_iff.mpr hscheme.schemeChar]
  exact ⟨rfl, rfl⟩

/-- A link with a scheme is read behind its colon. -/
theorem parse_scheme (hscheme : IsSchemeName scheme) (ht : ∀ c ∈ t, Text.isBlank c = false) :
    parse (scheme ++ ':' :: t) = readBehindScheme (Text.lower scheme) (trimControls t) := by
  obtain ⟨htake, hdrop⟩ := takeWhile_scheme (t := trimControls t) hscheme (c := ':') rfl
  rw [parse, clean_scheme hscheme ht, splitScheme?, htake, hdrop]
  cases scheme with
  | nil => exact hscheme.elim
  | cons first name => simp only [hscheme.1, if_true]

/-! ## What decides on a URL -/

/-- What follows the slashes that an authority stands behind. -/
def afterSlashes? : SchemeKind → Text → Option Text
  | .web, t => some (t.dropWhile (isSlash .web))
  | kind, c :: d :: t => if isSlash kind c && isSlash kind d then some t else none
  | _, _ => none

/-- Whether a text can be the host of a file, which may be missing or a drive letter. -/
def FileHostReads (host : Text) : Prop :=
  isDrive host = true ∨ host = [] ∨ ∃ read, readHost host = .ok read

/-- Whether the host and the port of an authority can be read; a file has no port. -/
def HostReads : SchemeKind → Text → Prop
  | .file, t => FileHostReads (t.takeWhile (!isAuthorityEnd .file ·))
  | kind, t => ∃ found, readOrigin kind t = .ok found

/-- Whether a text can be read behind the colon of a scheme. -/
def Reads (scheme t : Text) : Prop := ∃ url, readBehindScheme scheme t = .ok url

theorem readAuthority_ok_iff : (∃ url, readAuthority scheme t = .ok url) ↔
    ∃ found, readOrigin (SchemeKind.of scheme) t = .ok found := by
  rw [readAuthority_eq, exists_map_eq_ok]

theorem readFile_slashes_ok_iff {c d : Char} (hc : isSlash .file c = true)
    (hd : isSlash .file d = true) :
    (∃ url, readFile (c :: d :: t) = .ok url) ↔ HostReads .file t := by
  simp only [readFile, hc, hd, Bool.and_self, if_true, HostReads, FileHostReads]
  generalize t.takeWhile (!isAuthorityEnd .file ·) = host
  by_cases hdrive : isDrive host = true
  · rw [if_pos hdrive]
    exact iff_of_true ⟨_, rfl⟩ (.inl hdrive)
  · rw [if_neg hdrive]
    cases host with
    | nil => exact iff_of_true ⟨_, rfl⟩ (.inr (.inl rfl))
    | cons first rest =>
        rw [List.isEmpty_cons, if_neg Bool.false_ne_true]
        cases readHost (first :: rest) with
        | error e =>
            refine iff_of_false not_error_eq_ok ?_
            rintro (h | h | h)
            · exact hdrive h
            · exact List.cons_ne_nil _ _ h
            · exact not_error_eq_ok h
        | ok read =>
            refine iff_of_true ?_ (.inr (.inr ⟨_, rfl⟩))
            simp only [bind, Except.bind]
            split <;> exact ⟨_, rfl⟩

theorem afterSlashes?_eq_some (hkind : kind ≠ .web) : afterSlashes? kind t = some a ↔
    ∃ c d, t = c :: d :: a ∧ isSlash kind c = true ∧ isSlash kind d = true := by
  match t with
  | [] => exact iff_of_false (by simp [afterSlashes?]) (fun ⟨_, _, h, _⟩ => nomatch h)
  | [c] => exact iff_of_false (by simp [afterSlashes?]) (fun ⟨_, _, h, _⟩ => nomatch h)
  | c :: d :: rest =>
      rw [afterSlashes?]
      · constructor
        · intro h
          split at h
          next hslash =>
            rw [Bool.and_eq_true] at hslash
            cases h
            exact ⟨c, d, rfl, hslash⟩
          next => exact nomatch h
        · rintro ⟨_, _, ⟨⟩, hc, hd⟩
          rw [hc, hd]
          rfl
      · exact hkind

theorem isSlash_other {c : Char} : isSlash .other c = true ↔ c = '/' := by
  simp [isSlash, SchemeKind.isSpecial]

theorem readFile_ok_of_none (h : afterSlashes? .file t = none) : ∃ url, readFile t = .ok url := by
  match t with
  | [] => exact ⟨_, rfl⟩
  | [c] => exact ⟨_, rfl⟩
  | c :: d :: rest =>
      have hslash : ¬(isSlash .file c && isSlash .file d) = true := by
        rw [Bool.and_eq_true]
        intro hslash
        have hsome : afterSlashes? .file (c :: d :: rest) = some rest :=
          (afterSlashes?_eq_some (by decide)).mpr ⟨c, d, rfl, hslash⟩
        exact nomatch h.symm.trans hsome
      rw [readFile, if_neg hslash]
      exact ⟨_, rfl⟩

theorem readOther_ok_of_none (hof : SchemeKind.of scheme = .other)
    (h : afterSlashes? .other t = none) : ∃ url, readBehindScheme scheme t = .ok url := by
  match t with
  | [] => exact ⟨_, readBehindScheme_whole hof fun _ h => nomatch h⟩
  | c :: rest =>
      by_cases hc : c = '/'
      · subst hc
        refine ⟨_, readBehindScheme_slash hof fun d hd => ?_⟩
        rintro rfl
        obtain ⟨behind, rfl⟩ := List.head?_eq_some_iff.mp hd
        exact nomatch h
      · refine ⟨_, readBehindScheme_whole hof ?_⟩
        rintro _ ⟨⟩
        exact hc

/-- Without an authority there is nothing that cannot be read. -/
theorem reads_of_none (h : afterSlashes? (SchemeKind.of scheme) t = none) : Reads scheme t := by
  unfold Reads
  cases hof : SchemeKind.of scheme with
  | web =>
      rw [hof] at h
      exact nomatch h
  | file =>
      rw [hof] at h
      unfold readBehindScheme
      rw [hof]
      exact readFile_ok_of_none h
  | other =>
      rw [hof] at h
      exact readOther_ok_of_none hof h

theorem reads_of_some (h : afterSlashes? (SchemeKind.of scheme) t = some a) :
    Reads scheme t ↔ HostReads (SchemeKind.of scheme) a := by
  unfold Reads
  cases hof : SchemeKind.of scheme with
  | web =>
      rw [hof] at h
      unfold readBehindScheme
      rw [hof]
      cases h
      dsimp only
      rw [readAuthority_ok_iff, hof]
      rfl
  | file =>
      rw [hof] at h
      obtain ⟨c, d, rfl, hc, hd⟩ := (afterSlashes?_eq_some (by decide)).mp h
      unfold readBehindScheme
      rw [hof]
      exact readFile_slashes_ok_iff hc hd
  | other =>
      rw [hof] at h
      obtain ⟨c, d, rfl, hc, hd⟩ := (afterSlashes?_eq_some (by decide)).mp h
      obtain rfl := isSlash_other.mp hc
      obtain rfl := isSlash_other.mp hd
      rw [readBehindScheme_slashes hof, readAuthority_ok_iff, hof]
      rfl

/-! ## Fronts -/

/-- A text that settles whether the text behind a colon can be read, whatever follows it. -/
inductive Decisive (kind : SchemeKind) (front : Text) : Prop where
  /-- It holds the end of an authority. -/
  | host {a : Text} (h : afterSlashes? kind front = some a)
      (hend : ∃ c ∈ a, isAuthorityEnd kind c = true)
  /-- There will be no authority behind it. -/
  | noHost (h : ∀ t, afterSlashes? kind (front ++ t) = none)

theorem afterSlashes?_append (h : afterSlashes? kind front = some a)
    (hstop : a ≠ [] ∨ ∀ c ∈ t.head?, isSlash kind c = false) :
    afterSlashes? kind (front ++ t) = some (a ++ t) := by
  cases kind with
  | web =>
      cases h
      rw [afterSlashes?, Option.some.injEq]
      rcases hstop with hne | hstop
      · rw [List.dropWhile_append, if_neg (by simpa using hne)]
      · exact (Text.while_append hstop).2
  | file =>
      obtain ⟨c, d, rfl, hslashes⟩ := (afterSlashes?_eq_some (by decide)).mp h
      exact (afterSlashes?_eq_some (by decide)).mpr ⟨c, d, rfl, hslashes⟩
  | other =>
      obtain ⟨c, d, rfl, hslashes⟩ := (afterSlashes?_eq_some (by decide)).mp h
      exact (afterSlashes?_eq_some (by decide)).mpr ⟨c, d, rfl, hslashes⟩

theorem suffix_of_afterSlashes? (h : afterSlashes? kind front = some a) : a <:+ front := by
  by_cases hkind : kind = .web
  · subst hkind
    cases h
    exact List.dropWhile_suffix _
  · obtain ⟨c, d, rfl, -⟩ := (afterSlashes?_eq_some hkind).mp h
    exact ⟨[c, d], rfl⟩

/-- A part of an authority is found by what stands up to its end. -/
theorem afterSlashes?_of_append (h : afterSlashes? kind (front ++ r) = some (a ++ r))
    (hne : a ≠ []) : afterSlashes? kind front = some a := by
  by_cases hkind : kind = .web
  · subst hkind
    rw [afterSlashes?, Option.some.injEq, List.dropWhile_append] at h
    split at h
    · -- all slashes, so that nothing of the front is left
      have hle := (List.dropWhile_suffix (isSlash .web) (l := r)).length_le
      rw [h, List.length_append] at hle
      have hpos := List.length_pos_iff.mpr hne
      omega
    · rw [afterSlashes?, List.append_cancel_right h]
  · obtain ⟨c, d, heq, hslashes⟩ := (afterSlashes?_eq_some hkind).mp h
    have hfront : front = c :: d :: a := List.append_cancel_right heq
    exact (afterSlashes?_eq_some hkind).mpr ⟨c, d, hfront, hslashes⟩

theorem afterSlashes?_none_mono (hs : s <+: t) (h : afterSlashes? kind t = none) :
    afterSlashes? kind s = none := by
  obtain ⟨r, rfl⟩ := hs
  have hkind : kind ≠ .web := by
    rintro rfl
    exact nomatch h
  rw [Option.eq_none_iff_forall_ne_some]
  intro a ha
  obtain ⟨c, d, rfl, hslashes⟩ := (afterSlashes?_eq_some hkind).mp ha
  have hsome := (afterSlashes?_eq_some (t := c :: d :: a ++ r) hkind).mpr ⟨c, d, rfl, hslashes⟩
  exact nomatch h.symm.trans hsome

theorem readOrigin_ok_append (hr : Ends kind r) (hs : Ends kind s) (hrne : r ≠ []) (hsne : s ≠ []) :
    (∃ found, readOrigin kind (a ++ r) = .ok found) ↔
      ∃ found, readOrigin kind (a ++ s) = .ok found := by
  by_cases ha : a = ['@']
  · -- behind a lone at sign there is no host
    have hlone {r : Text} (hr : Ends kind r) (hne : r ≠ []) :
        ¬∃ found, readOrigin kind (a ++ r) = .ok found := by
      rw [ha, List.singleton_append, readOrigin, dropUser_loneAt hr hne]
      exact not_error_eq_ok
    exact iff_of_false (hlone hr hrne) (hlone hs hsne)
  · rw [readOrigin_append hr fun _ => .inl ha, readOrigin_append hs fun _ => .inl ha,
      exists_map_eq_ok, exists_map_eq_ok]

/-- What follows the end of an authority does not decide on its host. -/
theorem hostReads_append (hr : Ends kind r) (hs : Ends kind s) (hrne : r ≠ []) (hsne : s ≠ []) :
    HostReads kind (a ++ r) ↔ HostReads kind (a ++ s) := by
  cases kind with
  | file => rw [HostReads, HostReads, takeWhile_authority hr, takeWhile_authority hs]
  | web => exact readOrigin_ok_append hr hs hrne hsne
  | other => exact readOrigin_ok_append hr hs hrne hsne

/-- Trimming stops behind the end of an authority, and the host is read from what stands in front of
that end. -/
theorem reads_behind_end {lead before behind : Text} {c : Char}
    (h : afterSlashes? (SchemeKind.of scheme) (lead ++ (before ++ c :: behind)) =
      some (before ++ c :: behind)) (hc : isAuthorityEnd (SchemeKind.of scheme) c = true) (u : Text) :
    Reads scheme (trimControls (lead ++ (before ++ c :: behind) ++ u)) ↔
      HostReads (SchemeKind.of scheme) (before ++ c :: trimControls (behind ++ u)) := by
  have hhead : afterSlashes? (SchemeKind.of scheme) (lead ++ (before ++ [c])) =
      some (before ++ [c]) := by
    refine afterSlashes?_of_append (r := behind) ?_ (by simp)
    simpa using h
  have hcontrol : ¬c.toNat ≤ 0x20 := fun hcontrol =>
    Bool.false_ne_true ((isAuthorityEnd_control hcontrol).symm.trans hc)
  have htrim : trimControls (lead ++ (before ++ c :: behind) ++ u) =
      lead ++ (before ++ [c]) ++ trimControls (behind ++ u) := by
    have hassoc : lead ++ (before ++ c :: behind) ++ u = lead ++ before ++ c :: (behind ++ u) := by
      simp
    rw [hassoc, trimControls_append_cons hcontrol]
    simp
  have hsome := afterSlashes?_append (t := trimControls (behind ++ u)) hhead (.inl (by simp))
  rw [htrim, reads_of_some hsome]
  simp

/-- Behind a text that settles the host nothing matters. -/
theorem Decisive.reads_iff (h : Decisive (SchemeKind.of scheme) front) (s t : Text) :
    Reads scheme (trimControls (front ++ s)) ↔ Reads scheme (trimControls (front ++ t)) := by
  cases h with
  | noHost h =>
      have hreads (t : Text) : Reads scheme (trimControls (front ++ t)) :=
        reads_of_none (afterSlashes?_none_mono trimControls_starts (h t))
      exact iff_of_true (hreads s) (hreads t)
  | @host a h hend =>
      obtain ⟨c, hmem, hc⟩ := hend
      obtain ⟨before, behind, rfl⟩ := List.append_of_mem hmem
      obtain ⟨lead, rfl⟩ := suffix_of_afterSlashes? h
      have hends (u : Text) : Ends (SchemeKind.of scheme) (c :: u) := by
        rintro _ ⟨⟩
        exact hc
      rw [reads_behind_end h hc, reads_behind_end h hc]
      exact hostReads_append (hends _) (hends _) (List.cons_ne_nil _ _) (List.cons_ne_nil _ _)

/-! ## Broken hosts -/

/-- An at sign, and a host that no scheme allows: a character that no host may hold, and an escape
that is no text. -/
def brokenHost : Text := "@<%FF".toList

/-- The last at sign of an authority ends the user information. -/
theorem userPart_append_at (ht : '@' ∉ t) : userPart (a ++ '@' :: t) = a := by
  have hstop : ∀ c ∈ ('@' :: a.reverse).head?, (c != '@') = false := by
    rintro _ ⟨⟩
    rfl
  have hhost : ∀ c ∈ t.reverse, (c != '@') = true := by
    intro c hc
    rw [bne_iff_ne]
    rintro rfl
    exact ht (List.mem_reverse.mp hc)
  have htake : (a ++ '@' :: t).reverse.takeWhile (· != '@') = t.reverse := by
    rw [List.reverse_append, List.reverse_cons, List.append_assoc, List.singleton_append,
      (Text.while_append hstop).1, List.takeWhile_eq_self_iff.mpr hhost]
  have hlength : (a ++ '@' :: t).length - t.length - 1 = a.length := by
    rw [List.length_append, List.length_cons]
    omega
  rw [userPart, htake, List.reverse_reverse, hlength, List.take_left]

theorem brokenHost_inside : ∀ c ∈ brokenHost, isAuthorityEnd kind c = false := by
  cases kind <;> exact Text.forall_of_any_eq_false rfl

theorem takeWhile_brokenHost (ha : ∀ c ∈ a, isAuthorityEnd kind c = false) :
    (a ++ brokenHost).takeWhile (!isAuthorityEnd kind ·) = a ++ brokenHost := by
  rw [List.takeWhile_eq_self_iff]
  intro c hc
  rw [Bool.not_eq_true']
  exact (List.mem_append.mp hc).elim (ha c) (brokenHost_inside c)

/-- What stands in front of the at sign is taken for user information. -/
theorem dropUser_brokenHost (ha : ∀ c ∈ a, isAuthorityEnd kind c = false) :
    ∃ hasUser, dropUser kind (a ++ brokenHost) = .ok (hasUser, "<%FF".toList) := by
  have huser : userPart (a ++ brokenHost) = a := userPart_append_at (by decide)
  have hdrop : (a ++ brokenHost).drop (a.length + 1) = "<%FF".toList :=
    List.drop_length_add_append 1
  have hat : '@' ∈ a ++ brokenHost := List.mem_append_right _ (by decide)
  rw [dropUser_eq]
  dsimp only
  rw [takeWhile_brokenHost ha, if_neg (not_not_intro hat), huser, hdrop]
  split
  · refine ⟨false, ?_⟩
    cases kind <;> rfl
  · exact ⟨_, rfl⟩

theorem readOrigin_brokenHost (ha : ∀ c ∈ a, isAuthorityEnd kind c = false) :
    ∃ e, readOrigin kind (a ++ brokenHost) = .error e := by
  obtain ⟨hasUser, huser⟩ := dropUser_brokenHost ha
  rw [readOrigin, huser]
  cases kind <;> exact ⟨_, rfl⟩

/-- A file has no user information, so there all of it is the host. -/
theorem readHost_brokenHost : ∃ e, readHost (a ++ brokenHost) = .error e := by
  have hdecode : Percent.decode? (a ++ brokenHost) = none := by
    have hassoc : a ++ brokenHost = a ++ ['@', '<'] ++ "%FF".toList := by
      rw [List.append_assoc]
      rfl
    rw [hassoc, Percent.decode?_append_highest]
  unfold readHost
  split
  next inside heq =>
    -- the bracket is never closed
    cases a with
    | nil => exact absurd (List.cons.inj heq).1 (by decide)
    | cons c a =>
        rw [List.cons_append] at heq
        obtain ⟨-, rfl⟩ := List.cons.inj heq
        have hopen : Text.stripEnd? [']'] (a ++ brokenHost) = none := by
          rw [Text.stripEnd?, List.reverse_append]
          rfl
        rw [readBracketed, hopen]
        exact ⟨_, rfl⟩
  next =>
    rw [hdecode]
    exact ⟨_, rfl⟩

theorem not_fileHostReads_brokenHost : ¬FileHostReads (a ++ brokenHost) := by
  have hlength : (a ++ brokenHost).length = a.length + 5 := List.length_append
  obtain ⟨e, herror⟩ := readHost_brokenHost (a := a)
  rintro (hdrive | hnil | ⟨read, hread⟩)
  · unfold isDrive at hdrive
    split at hdrive
    next heq =>
      rw [heq] at hlength
      simp only [List.length_cons, List.length_nil] at hlength
      omega
    next => exact nomatch hdrive
  · rw [hnil] at hlength
    exact nomatch hlength
  · exact nomatch herror.symm.trans hread

/-- No authority is read that ends in a broken host. -/
theorem not_hostReads_brokenHost (ha : ∀ c ∈ a, isAuthorityEnd kind c = false) :
    ¬HostReads kind (a ++ (brokenHost ++ '/' :: t)) := by
  have hends : Ends kind ('/' :: t) := by
    rintro _ ⟨⟩
    cases kind <;> rfl
  have horigin : ¬∃ found, readOrigin kind (a ++ (brokenHost ++ '/' :: t)) = .ok found := by
    have hlone : a ++ brokenHost ≠ ['@'] := by
      intro h
      have hlength := congrArg List.length h
      rw [List.length_append] at hlength
      exact absurd hlength (by simp [brokenHost])
    obtain ⟨e, herror⟩ := readOrigin_brokenHost ha
    rw [← List.append_assoc, readOrigin_append hends fun _ => .inl hlone, exists_map_eq_ok, herror]
    exact not_error_eq_ok
  cases kind with
  | file =>
      rw [HostReads, ← List.append_assoc, takeWhile_authority hends, takeWhile_brokenHost ha]
      exact not_fileHostReads_brokenHost
  | web => exact horigin
  | other => exact horigin

/-- Texts that can be read whatever comes first, as long as that is no slash. -/
def Rootless (kind : SchemeKind) (front : Text) : Prop :=
  kind = .other ∧ (front = [] ∨ front = ['/'])

/-- A text that is not decisive, without slashes before an authority, is the start of such. -/
theorem exists_start_of_none (hfront : ¬Decisive kind front) (h : afterSlashes? kind front = none) :
    kind ≠ .web ∧ (front = [] ∨ ∃ c, front = [c] ∧ isSlash kind c = true) := by
  have hkind : kind ≠ .web := by
    rintro rfl
    exact nomatch h
  refine ⟨hkind, ?_⟩
  obtain ⟨t, ht⟩ := not_forall.mp fun h => hfront (.noHost h)
  obtain ⟨a, ha⟩ := Option.ne_none_iff_exists'.mp ht
  obtain ⟨c, d, heq, hc, hd⟩ := (afterSlashes?_eq_some hkind).mp ha
  match front with
  | [] => exact .inl rfl
  | [_] =>
      cases heq
      exact .inr ⟨_, rfl, hc⟩
  | first :: second :: rest =>
      obtain ⟨hfirst, heq⟩ := List.cons.inj heq
      obtain ⟨hsecond, -⟩ := List.cons.inj heq
      rw [← hfirst] at hc
      rw [← hsecond] at hd
      have hsome : afterSlashes? kind (first :: second :: rest) = some rest :=
        (afterSlashes?_eq_some hkind).mpr ⟨first, second, rfl, hc, hd⟩
      exact nomatch h.symm.trans hsome

/-- Behind a text that does not settle the host a broken host can be brought in. Slashes that are
missing in front of it are written as backslashes. -/
theorem exists_broken (hfront : ¬Decisive kind front) (hroot : ¬Rootless kind front) :
    ∃ slashes, (∀ c ∈ slashes, c = '\\') ∧ ∃ a, (∀ c ∈ a, isAuthorityEnd kind c = false) ∧
      ∀ t, afterSlashes? kind (front ++ (slashes ++ (brokenHost ++ t))) =
        some (a ++ (brokenHost ++ t)) := by
  cases hslashes : afterSlashes? kind front with
  | some a =>
      refine ⟨[], List.forall_mem_nil _, a, ?_, fun t => ?_⟩
      · intro c hc
        rw [Bool.eq_false_iff]
        exact fun hend => hfront (.host hslashes ⟨c, hc, hend⟩)
      · refine afterSlashes?_append hslashes (.inr ?_)
        rintro _ ⟨⟩
        cases kind <;> rfl
  | none =>
      obtain ⟨hkind, hstart⟩ := exists_start_of_none hfront hslashes
      cases kind with
      | web => exact absurd rfl hkind
      | other =>
          refine absurd ⟨rfl, ?_⟩ hroot
          rcases hstart with hnil | ⟨c, hone, hc⟩
          · exact .inl hnil
          · rw [isSlash_other.mp hc] at hone
            exact .inr hone
      | file =>
          rcases hstart with rfl | ⟨c, rfl, hc⟩
          · exact ⟨['\\', '\\'], by simp, [], List.forall_mem_nil _, fun t => rfl⟩
          · refine ⟨['\\'], by simp, [], List.forall_mem_nil _, fun t => ?_⟩
            exact (afterSlashes?_eq_some hkind).mpr ⟨c, '\\', rfl, hc, rfl⟩

/-- Without a slash behind it such a text is read, whatever follows. -/
theorem Rootless.reads (h : Rootless (SchemeKind.of scheme) front) {c : Char} (hc : c ≠ '/') :
    Reads scheme (trimControls (front ++ c :: t)) := by
  obtain ⟨hkind, hfront⟩ := h
  refine reads_of_none (afterSlashes?_none_mono trimControls_starts ?_)
  rw [hkind, Option.eq_none_iff_forall_ne_some]
  intro a ha
  obtain ⟨d, e, heq, hd, he⟩ := (afterSlashes?_eq_some (by decide)).mp ha
  rcases hfront with rfl | rfl
  · cases heq
    exact hc (isSlash_other.mp hd)
  · cases heq
    exact hc (isSlash_other.mp he)

end Signpost.Url
