import Signpost.PagePath
import Signpost.Proofs.Url.Authority

/-!
# The paths of pages below a path

A plain absolute path is read as the path of a URL from the root of a site, and so is every page
below it, with the same segments in front. Only the first slashes of a path can name a host: of
slashes and backslashes, of which the second is a backslash, the first segment behind them is one.
-/

namespace Signpost.PagePath

open Url (IsRest Inside isSlash isPathEnd readPath readAuthority)

variable {t r suffix : Text}

/-! ## What becomes of a path -/

/-- The text with its escapes resolved; they stay when they do not resolve to a text. -/
def unescaped (t : Text) : Text := (Percent.decode? t).getD t

/-- The text with a slash in front. -/
def absolute (t : Text) : Text := if Text.startsWith ['/'] t then t else '/' :: t

theorem normalize_eq : normalize t = absolute (unescaped (undecoded (Text.trim t))) := by
  rw [normalize]
  dsimp only
  split
  next hempty =>
    rw [List.isEmpty_iff.mp hempty]
    rfl
  next => rfl

/-- An absolute path without query, fragment and controls and with no white space at its end. -/
structure Plain (t : Text) : Prop where
  absolute : ∃ rest, t = '/' :: rest
  chars : ∀ c ∈ t, Text.isControl c = false ∧ c ≠ '?' ∧ c ≠ '#'
  last : ∀ c ∈ t.getLast?, Text.isBlank c = false

theorem Plain.isPathEnd (h : Plain t) : ∀ c ∈ t, isPathEnd c = false := by
  intro c hc
  obtain ⟨-, hquery, hfragment⟩ := h.chars c hc
  simp [Url.isPathEnd, hquery, hfragment]

/-! ## Reading a plain path -/

/-- A text with a slash in front is trimmed when its last character stays. -/
theorem trimBy_slash {p : Char → Bool} (hslash : p '/' = false)
    (hlast : ∀ c ∈ ('/' :: r).getLast?, p c = false) : Text.trimBy p ('/' :: r) = '/' :: r := by
  refine Text.trimBy_eq_self (List.dropWhile_cons_of_neg (by simp [hslash])) ?_
  rw [List.rdropWhile_eq_self_iff]
  intro hne
  simp [hlast _ (List.getLast?_eq_some_getLast hne)]

theorem Plain.trimBy {p : Char → Bool} (h : Plain t) (hslash : p '/' = false)
    (hlast : ∀ c ∈ t.getLast?, p c = false) : Text.trimBy p t = t := by
  obtain ⟨rest, rfl⟩ := h.absolute
  exact trimBy_slash hslash hlast

theorem Plain.trim (h : Plain t) : Text.trim t = t := h.trimBy rfl h.last

/-- The characters that are no controls and no white space come behind the space. -/
theorem toNat_visible {c : Char} (hcontrol : Text.isControl c = false)
    (hblank : Text.isBlank c = false) : 0x20 < c.toNat := by
  have hspace : c.toNat ≠ 0x20 := by
    intro h
    rw [show c = ' ' by rw [← Char.ofNat_toNat c, h]] at hblank
    exact nomatch hblank
  have hlow : ¬c.toNat < 0x20 := by
    intro h
    simp only [Text.isControl, Bool.or_eq_false_iff, decide_eq_false_iff_not] at hcontrol
    exact hcontrol.1 (UInt32.lt_iff_toNat_lt.mpr h)
  omega

theorem Plain.clean (h : Plain t) : Url.clean t = t := by
  rw [Url.clean, h.trimBy rfl, List.filter_eq_self]
  · intro c hc
    have hne : ∀ d, Text.isControl d = true → c ≠ d := by
      rintro d hd rfl
      exact absurd hd (by rw [(h.chars c hc).1]; decide)
    simp [hne '\t' rfl, hne '\n' rfl, hne '\r' rfl]
  · intro c hc
    have hvisible := toNat_visible (h.chars c (List.mem_of_getLast? hc)).1 (h.last c hc)
    exact decide_eq_false (Nat.not_le_of_lt hvisible)

theorem Plain.splitScheme? (h : Plain t) : Url.splitScheme? t = none := by
  obtain ⟨rest, rfl⟩ := h.absolute
  rfl

theorem Plain.join (h : Plain t) : Url.join root t = Url.follow root t := by
  rw [Url.join, h.clean, h.splitScheme?]

/-- A path that does not start with two slashes is the path of a URL. -/
theorem Plain.undecoded_path (h : Plain ('/' :: r)) (hr : ∀ c ∈ r.head?, isSlash .web c = false) :
    undecoded ('/' :: r) = (readPath .web ('/' :: r)).render := by
  rw [undecoded, h.join]
  cases r with
  | nil => rfl
  | cons d r =>
      have hd := hr d rfl
      have hfollow : Url.follow root ('/' :: d :: r) =
          if isSlash .web d then readAuthority root.scheme _
          else .ok { root with path := readPath .web ('/' :: d :: r) } := rfl
      rw [hfollow, if_neg (by simp [hd])]

/-- Behind a slash and a backslash stands a host. -/
theorem Plain.undecoded_host (h : Plain ('/' :: '\\' :: r)) :
    undecoded ('/' :: '\\' :: r) =
      match readAuthority root.scheme (r.dropWhile (isSlash .web)) with
      | .ok url => url.path.render
      | .error _ => '/' :: '\\' :: r := by
  have hall : ('/' :: '\\' :: r).takeWhile (!Url.isPathEnd ·) = '/' :: '\\' :: r :=
    List.takeWhile_eq_self_iff.mpr fun c hc => by rw [h.isPathEnd c hc, Bool.not_false]
  rw [undecoded, h.join, hall]
  rfl

/-! ## Pages below a plain path -/

/-- A text that names pages below every path with a slash at its end: it has neither query nor
fragment, no controls, no white space at its end, and none of its segments is a dot segment. -/
structure Below (suffix : Text) : Prop where
  chars : ∀ c ∈ suffix, Text.isControl c = false ∧ c ≠ '?' ∧ c ≠ '#' ∧ c ≠ '\\'
  last : ∀ c ∈ suffix.getLast?, Text.isBlank c = false
  segments : ∀ part ∈ Text.splitOn '/' suffix, Url.isHere part = false ∧ Url.isAbove part = false

theorem below_iff : Below suffix ↔
    (suffix.all fun c => !Text.isControl c && c != '?' && c != '#' && c != '\\') = true ∧
      (suffix.getLast?.all fun c => !Text.isBlank c) = true ∧
      ((Text.splitOn '/' suffix).all fun part => !Url.isHere part && !Url.isAbove part) = true := by
  simp only [List.all_eq_true, Option.all_eq_true, Bool.and_eq_true, Bool.not_eq_true', bne_iff_ne,
    and_assoc]
  constructor
  · exact fun h => ⟨h.chars, h.last, h.segments⟩
  · exact fun ⟨hchars, hlast, hsegments⟩ => ⟨hchars, hlast, hsegments⟩

instance : Decidable (Below suffix) := decidable_of_iff _ below_iff.symm

theorem Below.settled (h : Below suffix) : Url.Settled suffix := by
  refine ⟨fun c hc => ?_, h.segments⟩
  obtain ⟨-, hquery, hfragment, hbackslash⟩ := h.chars c hc
  exact ⟨hbackslash, by simp [Url.isPathEnd, hquery, hfragment]⟩

theorem Plain.below (ht : Plain t) (hs : Below suffix) :
    Plain (Text.withTrailingSlash t ++ suffix) := by
  obtain ⟨rest, rfl⟩ := ht.absolute
  obtain ⟨lead, hlead⟩ := Text.withTrailingSlash_eq_append ('/' :: rest)
  refine ⟨?_, ?_, ?_⟩
  · obtain ⟨behind, hbehind⟩ := Text.withTrailingSlash_cons '/' rest
    exact ⟨_, by rw [hbehind, List.cons_append]⟩
  · rw [List.forall_mem_append]
    refine ⟨?_, fun c hc => ⟨(hs.chars c hc).1, (hs.chars c hc).2.1, (hs.chars c hc).2.2.1⟩⟩
    rcases Text.withTrailingSlash_eq (t := '/' :: rest) with heq | heq
    · rw [heq]
      exact ht.chars
    · rw [heq, List.forall_mem_append]
      exact ⟨ht.chars, List.forall_mem_singleton.mpr ⟨rfl, by decide, by decide⟩⟩
  · rw [hlead]
    cases suffix with
    | nil =>
        rw [List.append_nil, List.getLast?_concat]
        rintro _ ⟨⟩
        rfl
    | cons c suffix =>
        rw [List.getLast?_append_cons]
        exact hs.last

/-- The first segment below a path of slashes and backslashes alone is read as a host. -/
structure HostTaken (t suffix : Text) : Prop where
  slashes : ∀ c ∈ t, isSlash .web c = true
  several : t ≠ ['/']
  taken : ∃ url, Url.join root (Text.withTrailingSlash t ++ suffix) = .ok url

/-- A text that is not of slashes alone is made of slashes, a host and what follows it. -/
theorem exists_host (hends : ∀ c ∈ r, Url.isPathEnd c = false)
    (hr : ¬∀ c ∈ r, isSlash .web c = true) :
    ∃ lead host rest, r = lead ++ (host ++ rest) ∧ (∀ c ∈ lead, isSlash .web c = true) ∧
      host ≠ [] ∧ Inside host ∧ IsRest rest := by
  have hend : ∀ c ∈ r, Url.isAuthorityEnd .web c = isSlash .web c := fun c hc => by
    rw [Url.isAuthorityEnd, hends c hc, Bool.or_false]
  induction r with
  | nil => exact absurd (List.forall_mem_nil _) hr
  | cons c r ih =>
      by_cases hc : isSlash .web c = true
      · obtain ⟨lead, host, rest, rfl, hlead, hhost⟩ :=
          ih (List.forall_mem_cons.mp hends).2
            (fun h => hr (List.forall_mem_cons.mpr ⟨hc, h⟩)) (List.forall_mem_cons.mp hend).2
        exact ⟨c :: lead, host, rest, rfl, List.forall_mem_cons.mpr ⟨hc, hlead⟩, hhost⟩
      · refine ⟨[], (c :: r).takeWhile (!Url.isAuthorityEnd .web ·),
          (c :: r).dropWhile (!Url.isAuthorityEnd .web ·), ?_, List.forall_mem_nil _, ?_, ?_, ?_⟩
        · rw [List.nil_append, List.takeWhile_append_dropWhile]
        · rw [List.takeWhile_cons_of_pos (by rw [hend c List.mem_cons_self]; simpa using hc)]
          exact List.cons_ne_nil _ _
        · intro d hd
          simpa using List.mem_takeWhile_imp hd
        · cases hrest : (c :: r).dropWhile (!Url.isAuthorityEnd .web ·) with
          | nil => exact .inl rfl
          | cons d rest =>
              have hmem : d ∈ c :: r :=
                (List.dropWhile_suffix _).subset (hrest ▸ List.mem_cons_self)
              have hd : Url.isAuthorityEnd .web d = true := by
                have h := List.head?_dropWhile_not (!Url.isAuthorityEnd .web ·) (c :: r)
                rw [hrest] at h
                simpa using h
              exact .inr ⟨d, rest, rfl, by rw [← hend d hmem, hd]⟩

/-- How a plain path and the pages below it are read: both as the path behind an authority, or both
as they are written. -/
def ReadAlike (t suffix : Text) : Prop :=
  (∃ r, IsRest r ∧ (∀ c ∈ r, Url.isPathEnd c = false) ∧
    undecoded t = (readPath .web r).render ∧
    undecoded (Text.withTrailingSlash t ++ suffix) =
      (readPath .web (Text.withTrailingSlash r ++ suffix)).render) ∨
  (undecoded t = t ∧
    undecoded (Text.withTrailingSlash t ++ suffix) = Text.withTrailingSlash t ++ suffix)

theorem Plain.undecoded_error {e : UrlError} (h : Plain t) (he : Url.join root t = .error e) :
    undecoded t = t := by
  rw [undecoded, he]
  exact List.takeWhile_eq_self_iff.mpr fun c hc => by rw [h.isPathEnd c hc, Bool.not_false]

/-- A path without a host. -/
theorem Plain.readAlike_path {d : Char} (ht : Plain ('/' :: d :: r)) (hs : Below suffix)
    (hd : isSlash .web d = false) : ReadAlike ('/' :: d :: r) suffix := by
  have hhead {behind : Text} : ∀ c ∈ (d :: r ++ behind).head?, isSlash .web c = false := by
    rintro _ ⟨⟩
    exact hd
  have hpage := ht.below hs
  obtain ⟨behind, hbehind⟩ : ∃ behind,
      Text.withTrailingSlash ('/' :: d :: r) ++ suffix = '/' :: (d :: r ++ behind) := by
    rcases Text.withTrailingSlash_eq (t := '/' :: d :: r) with heq | heq
    · exact ⟨suffix, by rw [heq]; rfl⟩
    · exact ⟨'/' :: suffix, by rw [heq, List.append_assoc]; rfl⟩
  refine .inl ⟨_, .inr ⟨'/', d :: r, rfl, rfl⟩, ht.isPathEnd, ht.undecoded_path ?_, ?_⟩
  · exact List.append_nil (d :: r) ▸ hhead
  · rw [hbehind] at hpage ⊢
    exact hpage.undecoded_path hhead

/-- A path of slashes and backslashes alone. -/
theorem Plain.readAlike_slashes (ht : Plain ('/' :: '\\' :: r)) (hs : Below suffix)
    (hr : ∀ c ∈ r, isSlash .web c = true) (hhost : ¬HostTaken ('/' :: '\\' :: r) suffix) :
    ReadAlike ('/' :: '\\' :: r) suffix := by
  refine .inr ⟨?_, ?_⟩
  · rw [ht.undecoded_host, List.dropWhile_eq_nil_iff.mpr hr]
    rfl
  · cases hjoin : Url.join root (Text.withTrailingSlash ('/' :: '\\' :: r) ++ suffix) with
    | error e => exact (ht.below hs).undecoded_error hjoin
    | ok url =>
        refine absurd ⟨?_, ?_, url, hjoin⟩ hhost
        · exact List.forall_mem_cons.mpr ⟨rfl, List.forall_mem_cons.mpr ⟨rfl, hr⟩⟩
        · exact fun h => nomatch h

theorem dropWhile_host {lead host rest : Text} (hlead : ∀ c ∈ lead, isSlash .web c = true)
    (hne : host ≠ []) (hinside : Inside host) :
    (lead ++ (host ++ rest)).dropWhile (isSlash .web) = host ++ rest := by
  obtain ⟨c, host, rfl⟩ := List.exists_cons_of_ne_nil hne
  rw [List.dropWhile_append_of_pos hlead]
  refine List.dropWhile_cons_of_neg ?_
  intro hc
  exact absurd (hinside c List.mem_cons_self) (by rw [Url.isAuthorityEnd_of_isSlash hc]; decide)

theorem withTrailingSlash_host {lead host rest : Text} (hne : host ≠ []) (hinside : Inside host) :
    Text.withTrailingSlash (lead ++ (host ++ rest)) =
      lead ++ (host ++ Text.withTrailingSlash rest) := by
  rw [← List.append_assoc, Text.withTrailingSlash_append, List.append_assoc]
  intro _
  rw [List.getLast?_append_of_ne_nil _ hne]
  exact fun hlast => absurd (hinside '/' (List.mem_of_getLast? hlast)) (by decide)

/-- A path with a host. -/
theorem Plain.readAlike_host (ht : Plain ('/' :: '\\' :: r)) (hs : Below suffix)
    (hr : ¬∀ c ∈ r, isSlash .web c = true) : ReadAlike ('/' :: '\\' :: r) suffix := by
  have hends : ∀ c ∈ r, Url.isPathEnd c = false := fun c hc =>
    ht.isPathEnd c (List.mem_cons_of_mem _ (List.mem_cons_of_mem _ hc))
  have hpage := ht.below hs
  obtain ⟨lead, host, rest, rfl, hlead, hne, hinside, hrest⟩ := exists_host hends hr
  have hbehind : Text.withTrailingSlash ('/' :: '\\' :: (lead ++ (host ++ rest))) ++ suffix =
      '/' :: '\\' :: (lead ++ (host ++ (Text.withTrailingSlash rest ++ suffix))) := by
    have h := @withTrailingSlash_host ('/' :: '\\' :: lead) host rest hne hinside
    simp only [List.cons_append] at h
    simp only [h, List.cons_append, List.append_assoc]
  have hread {rest : Text} (h : IsRest rest) := @Url.readAuthority_append host rest root.scheme rfl
    hinside h
  rw [hbehind] at hpage
  rw [ReadAlike, hbehind, ht.undecoded_host, hpage.undecoded_host, dropWhile_host hlead hne hinside,
    dropWhile_host hlead hne hinside, hread hrest, hread hrest.append]
  cases readAuthority root.scheme host with
  | error e => exact .inr ⟨rfl, rfl⟩
  | ok url =>
      refine .inl ⟨rest, hrest, ?_, rfl, rfl⟩
      exact fun c hc => hends c (List.mem_append_right _ (List.mem_append_right _ hc))

/-- A path other than the root that does not start with two slashes is read like the pages below it,
unless a host is taken from those. -/
theorem Plain.readAlike (ht : Plain t) (hsingle : ¬['/', '/'] <+: t) (hroot : t ≠ ['/'])
    (hs : Below suffix) (hhost : ¬HostTaken t suffix) : ReadAlike t suffix := by
  obtain ⟨rest, rfl⟩ := ht.absolute
  cases rest with
  | nil => exact absurd rfl hroot
  | cons d r =>
      cases hd : isSlash .web d with
      | false => exact ht.readAlike_path hs hd
      | true =>
          obtain rfl : d = '\\' := by
            simp only [isSlash, Bool.or_eq_true, Bool.and_eq_true, decide_eq_true_eq] at hd
            rcases hd with rfl | ⟨-, rfl⟩
            · exact absurd ⟨r, rfl⟩ hsingle
            · rfl
          by_cases hr : ∀ c ∈ r, isSlash .web c = true
          · exact ht.readAlike_slashes hs hr hhost
          · exact ht.readAlike_host hs hr

/-! ## Resolving escapes -/

theorem ReadAlike.absolute (h : ReadAlike t suffix) (ht : Plain t) :
    ∃ rest, undecoded t = '/' :: rest := by
  rcases h with ⟨r, -, -, hread, -⟩ | ⟨hread, -⟩
  · rw [hread]
    exact Url.render_readPath_cons
  · rw [hread]
    exact ht.absolute

/-- The path of a page below goes on from the path with a slash behind it, and what it goes on with
is resolved when the suffix is. -/
theorem ReadAlike.undecoded_eq (h : ReadAlike t suffix) (hs : Below suffix) :
    ∃ added, undecoded (Text.withTrailingSlash t ++ suffix) =
        Text.withTrailingSlash (undecoded t) ++ added ∧
      (Percent.decode? added).isSome = (Percent.decode? suffix).isSome := by
  have hencode : Percent.decode? (Percent.encode Url.isEscapedInPath suffix) =
      Percent.decode? suffix := Percent.decode?_encode Url.leavesEscapes_isEscapedInPath
  rcases h with ⟨r, hrest, hends, hread, hbelow⟩ | ⟨hread, hbelow⟩
  · obtain ⟨added, hadded, hpath⟩ := hs.settled.render_readPath hrest hends
    refine ⟨added, by rw [hbelow, hpath, hread], ?_⟩
    rcases hadded with rfl | rfl
    · rw [hencode]
    · rw [← hencode, Percent.decode?_slash, Option.isSome_map]
  · exact ⟨suffix, by rw [hbelow, hread], rfl⟩

theorem Plain.normalize (ht : Plain t) (h : ∃ rest, undecoded t = '/' :: rest) :
    normalize t = (Percent.decode? (undecoded t)).getD (undecoded t) := by
  have habsolute : Text.startsWith ['/'] (unescaped (undecoded t)) = true := by
    obtain ⟨rest, hrest⟩ := h
    rw [hrest, unescaped, Percent.decode?_slash]
    cases Percent.decode? rest <;> rfl
  rw [normalize_eq, ht.trim]
  exact if_pos habsolute

/-- Whether the normalized path of a page below goes on from the normalized path. It does not when
the path changes as its escapes are resolved and the suffix has an escape that cannot be, since then
the escapes of the whole page path stay. -/
theorem ReadAlike.starts_iff (h : ReadAlike t suffix) (ht : Plain t) (hs : Below suffix) :
    Text.withTrailingSlash (normalize t) <+:
        normalize (Text.withTrailingSlash t ++ suffix) ++ ['/'] ↔
      Text.withTrailingSlash (normalize t) = Text.withTrailingSlash (undecoded t) ∨
        (Percent.decode? suffix).isSome = true := by
  obtain ⟨added, hpage, hadded⟩ := h.undecoded_eq hs
  have habsolute : ∃ rest, undecoded (Text.withTrailingSlash t ++ suffix) = '/' :: rest := by
    obtain ⟨rest, hrest⟩ := h.absolute ht
    obtain ⟨behind, hbehind⟩ := Text.withTrailingSlash_cons '/' rest
    exact ⟨_, by rw [hpage, hrest, hbehind, List.cons_append]⟩
  rw [(ht.below hs).normalize habsolute, ht.normalize (h.absolute ht), hpage, ← hadded]
  generalize undecoded t = path
  cases hpath : Percent.decode? path with
  | none =>
      have hnone : Percent.decode? (Text.withTrailingSlash path ++ added) = none := by
        refine Option.eq_none_iff_forall_ne_some.mpr fun u hu => ?_
        obtain ⟨v, w, -, hv, -⟩ := Percent.decode?_withTrailingSlash_append.mp hu
        exact absurd (Percent.decode?_of_withTrailingSlash hv) (by rw [hpath]; decide)
      rw [hnone, Option.getD_none, Option.getD_none, List.append_assoc]
      exact iff_of_true (List.prefix_append _ _) (.inl rfl)
  | some d =>
      cases hrest : Percent.decode? added with
      | none =>
          have hnone : Percent.decode? (Text.withTrailingSlash path ++ added) = none := by
            refine Option.eq_none_iff_forall_ne_some.mpr fun u hu => ?_
            obtain ⟨v, w, -, -, hw⟩ := Percent.decode?_withTrailingSlash_append.mp hu
            exact nomatch hrest.symm.trans hw
          rw [hnone, Option.getD_none, Option.getD_some, List.append_assoc]
          constructor
          · exact fun hstarts => .inl (Percent.withTrailingSlash_eq_of_starts hpath hstarts)
          · rintro (heq | hsome)
            · rw [heq]
              exact List.prefix_append _ _
            · exact nomatch hsome
      | some w =>
          obtain ⟨v, hv, hstarts⟩ := Percent.decode?_withTrailingSlash hpath
          have hsome := Percent.decode?_withTrailingSlash_append.mpr ⟨v, w, rfl, hv, hrest⟩
          rw [hsome, Option.getD_some, Option.getD_some, List.append_assoc]
          exact iff_of_true (hstarts.trans (List.prefix_append _ _)) (.inr rfl)

end Signpost.PagePath
