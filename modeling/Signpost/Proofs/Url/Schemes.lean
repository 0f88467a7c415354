import Signpost.Proofs.Url.Hosts

/-!
# URLs and references

A text is read as a URL of its own when it starts with the name of a scheme and a colon. Behind the
colon much can be wrong, but it is not taken for a reference any more. A reference stays on the site
of its page unless it starts with two slashes: they bring a host that takes the place of the one of
the page.
-/

namespace Signpost.Url

variable {α β : Type} {x : Except UrlError α} {kind : SchemeKind} {base base' : Url}
  {scheme rest t : Text} {c : Char}

/-! ## The scheme -/

/-- What is cut off as a scheme is a name that a colon follows, in small letters. -/
theorem splitScheme?_eq_some : splitScheme? t = some (scheme, rest) ↔
    ∃ name, IsSchemeName name ∧ t = name ++ ':' :: rest ∧ Text.lower name = scheme := by
  constructor
  · intro h
    have ht := List.takeWhile_append_dropWhile (p := isSchemeChar) (l := t)
    have hchars : ∀ c ∈ t.takeWhile isSchemeChar, isSchemeChar c = true :=
      List.all_eq_true.mp List.all_takeWhile
    unfold splitScheme? at h
    dsimp only at h
    generalize t.takeWhile isSchemeChar = name at h ht hchars
    split at h
    next first name rest' hdrop =>
      split at h
      next hfirst =>
        cases h
        refine ⟨first :: name, ⟨hfirst, fun c hc => hchars c (List.mem_cons_of_mem _ hc)⟩, ?_, rfl⟩
        rw [← ht, hdrop]
      next => exact nomatch h
    next => exact nomatch h
  · rintro ⟨name, hname, rfl, rfl⟩
    obtain ⟨htake, hdrop⟩ := takeWhile_scheme (t := rest) hname (c := ':') rfl
    rw [splitScheme?, htake, hdrop]
    cases name with
    | nil => exact hname.elim
    | cons first name => exact if_pos hname.1

theorem splitScheme?_eq_none : splitScheme? t = none ↔
    ¬∃ name rest, t = name ++ ':' :: rest ∧ IsSchemeName name := by
  rw [Option.eq_none_iff_forall_ne_some]
  constructor
  · rintro h ⟨name, rest, ht, hname⟩
    exact h (Text.lower name, rest) (splitScheme?_eq_some.mpr ⟨name, hname, ht, rfl⟩)
  · rintro h ⟨scheme, rest⟩ hsplit
    obtain ⟨name, hname, ht, -⟩ := splitScheme?_eq_some.mp hsplit
    exact h ⟨name, rest, ht, hname⟩

theorem splitScheme?_cons_of_not_isLetter (hc : Text.isLetter c = false) :
    splitScheme? (c :: t) = none := by
  rw [splitScheme?_eq_none]
  rintro ⟨name, rest, heq, hname⟩
  cases name with
  | nil => exact hname.elim
  | cons first name =>
      obtain ⟨rfl, -⟩ := List.cons.inj heq
      exact Bool.false_ne_true (hc.symm.trans hname.1)

/-- A text without white space that starts with a character that counts is cleaned by trimming its
end. -/
theorem clean_cons (hc : ¬c.toNat ≤ 0x20) (ht : ∀ d ∈ c :: t, Text.isBlank d = false) :
    clean (c :: t) = c :: trimControls t := by
  have htrim : Text.trimBy (·.toNat ≤ 0x20) (c :: t) = c :: trimControls t :=
    Text.trimBy_append_cons (t := []) (decide_eq_false hc)
  rw [clean, htrim, List.filter_eq_self]
  intro d hd
  have hblank : Text.isBlank d = false := by
    rcases List.mem_cons.mp hd with rfl | hd
    · exact ht _ List.mem_cons_self
    · exact ht d (List.mem_cons_of_mem _ (trimControls_starts.subset hd))
  simp only [Bool.and_eq_true, bne_iff_ne]
  refine ⟨⟨?_, ?_⟩, ?_⟩
  · rintro rfl
    exact absurd hblank (by decide)
  · rintro rfl
    exact absurd hblank (by decide)
  · rintro rfl
    exact absurd hblank (by decide)

/-- A text without white space of which every character counts is clean. -/
theorem clean_eq_self (hvisible : ∀ c ∈ t, 0x20 < c.toNat) (ht : ∀ c ∈ t, Text.isBlank c = false) :
    clean t = t := by
  cases t with
  | nil => rfl
  | cons c t =>
      obtain ⟨hc, hrest⟩ := List.forall_mem_cons.mp hvisible
      have htrim : trimControls t = t := by
        rw [trimControls, Text.trimEndBy_eq_rdropWhile, List.rdropWhile_eq_self_iff]
        intro hne
        simp [hrest _ (List.getLast_mem hne)]
      rw [clean_cons (Nat.not_le_of_lt hc) ht, htrim]

/-! ## Behind the scheme -/

/-- A reading whose text is a URL of its own, even if there is something wrong with it. -/
def IsOwn (x : Except UrlError α) : Prop := x ≠ .error .relativeWithoutBase

theorem isOwn_ok {a : α} : IsOwn (.ok a) := nofun

theorem isOwn_error {e : UrlError} (he : e ≠ .relativeWithoutBase) :
    IsOwn (.error e : Except UrlError α) := by
  rintro ⟨⟩
  exact he rfl

theorem IsOwn.bind {f : α → Except UrlError β} (hx : IsOwn x) (hf : ∀ a, IsOwn (f a)) :
    IsOwn (x >>= f) := by
  cases x with
  | error e =>
      rintro ⟨⟩
      exact hx rfl
  | ok a => exact hf a

theorem IsOwn.map {f : α → β} (hx : IsOwn x) : IsOwn (x.map f) := by
  cases x with
  | error e =>
      rintro ⟨⟩
      exact hx rfl
  | ok a => exact isOwn_ok

theorem isOwn_readBracketed : IsOwn (readBracketed t) := by
  unfold readBracketed
  split
  · exact isOwn_error (by decide)
  · split
    · exact isOwn_ok
    · exact isOwn_error (by decide)

theorem isOwn_readHost : IsOwn (readHost t) := by
  unfold readHost
  split
  · exact isOwn_readBracketed
  · split
    · exact isOwn_error (by decide)
    · split
      · exact isOwn_error (by decide)
      · split
        · split
          · exact isOwn_ok
          · exact isOwn_error (by decide)
        · exact isOwn_ok

theorem isOwn_readNamedHost : IsOwn (readNamedHost t) := by
  unfold readNamedHost
  split
  · exact isOwn_readBracketed.map
  · exact isOwn_ok
  · split
    · exact isOwn_error (by decide)
    · exact isOwn_ok

theorem isOwn_readHostOf : IsOwn (readHostOf kind t) := by
  unfold readHostOf
  split
  · exact isOwn_readNamedHost
  · split
    · exact isOwn_error (by decide)
    · exact isOwn_readHost.map

theorem isOwn_dropUser : IsOwn (dropUser kind t) := by
  rw [dropUser_eq]
  dsimp only
  split
  · exact isOwn_ok
  · split
    · unfold dropEmptyUser
      split
      · split
        · exact isOwn_error (by decide)
        · exact isOwn_ok
      · exact isOwn_ok
    · exact isOwn_ok

theorem isOwn_readPort : IsOwn (readPort t) := by
  unfold readPort
  dsimp only
  split
  · exact isOwn_error (by decide)
  · split
    · exact isOwn_ok
    · split
      · exact isOwn_ok
      · exact isOwn_error (by decide)

theorem isOwn_readColonPort {hasHost : Bool} : IsOwn (readColonPort hasHost t) := by
  unfold readColonPort
  split
  · split
    · exact isOwn_readPort
    · exact isOwn_error (by decide)
  · exact isOwn_ok

theorem isOwn_readServer {hasUser : Bool} : IsOwn (readServer kind hasUser t) := by
  refine isOwn_readHostOf.bind fun host => isOwn_readColonPort.bind fun found => ?_
  split
  · exact isOwn_error (by decide)
  · exact isOwn_ok

theorem isOwn_readAuthority : IsOwn (readAuthority scheme t) := by
  rw [readAuthority_eq]
  exact (isOwn_dropUser.bind fun _ => isOwn_readServer).map

theorem isOwn_readFile : IsOwn (readFile t) := by
  unfold readFile
  extract_lets url
  split
  · split
    · dsimp only
      split
      · exact isOwn_ok
      · split
        · exact isOwn_ok
        · refine isOwn_readHost.bind fun host => ?_
          split <;> exact isOwn_ok
    · exact isOwn_ok
  · exact isOwn_ok

theorem isOwn_readBehindScheme : IsOwn (readBehindScheme scheme t) := by
  unfold readBehindScheme
  split
  · exact isOwn_readFile
  · exact isOwn_readAuthority
  · split
    · exact isOwn_readAuthority
    · exact isOwn_ok
    · exact isOwn_ok

/-- A text is taken for a reference exactly when it does not start with a scheme. -/
theorem parse_eq_relative : parse t = .error .relativeWithoutBase ↔
    ¬∃ name rest, clean t = name ++ ':' :: rest ∧ IsSchemeName name := by
  rw [← splitScheme?_eq_none, parse]
  cases splitScheme? (clean t) with
  | none => exact iff_of_true rfl rfl
  | some found => exact iff_of_false isOwn_readBehindScheme (Option.some_ne_none found)

/-! ## The site of a reference -/

/-- A text that starts with two slashes, as they are read on the web. -/
def StartsAuthority (t : Text) : Prop :=
  ∃ c d rest, t = c :: d :: rest ∧ isSlash .web c = true ∧ isSlash .web d = true

theorem follow_origin (h : ¬StartsAuthority t) :
    ∃ url, follow base t = .ok url ∧ url.origin = base.origin := by
  cases t with
  | nil => exact ⟨base, rfl, rfl⟩
  | cons c rest =>
      cases hend : isPathEnd c with
      | true => exact ⟨base, follow_of_tail ⟨c, rest, rfl, hend⟩, rfl⟩
      | false =>
          cases hc : isSlash .web c with
          | false => exact ⟨_, follow_relative hend hc, rfl⟩
          | true =>
              refine ⟨_, follow_absolute hc fun d hd => ?_, rfl⟩
              obtain ⟨rest, rfl⟩ := List.head?_eq_some_iff.mp hd
              rw [Bool.eq_false_iff]
              exact fun hslash => h ⟨c, d, rest, rfl, hc, hslash⟩

/-- Two slashes leave nothing of the page but its scheme. -/
theorem StartsAuthority.follow_eq (h : StartsAuthority t) (hscheme : base.scheme = base'.scheme) :
    follow base t = follow base' t := by
  obtain ⟨c, d, rest, rfl, hc, hd⟩ := h
  rw [follow_slashes hc hd, follow_slashes hc hd, hscheme]

end Signpost.Url
