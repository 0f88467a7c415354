import Signpost.Proofs.Outcome
import Signpost.Proofs.Url.Path
import Signpost.Url.Authority

/-!
# The end of an authority

The authority of a URL ends at its first slash, or where the query or the fragment starts. What
stands from there on changes neither the host and the port nor whether there are any, with one
exception: behind a lone at sign an authority must go on, unless the whole text ends there. On the
web a lone at sign is no authority in either case.
-/

namespace Signpost.Url

variable {kind : SchemeKind} {a r t : Text} {scheme : Text}

/-- A text that stands behind an authority: nothing, or one that starts with its end. -/
def Ends (kind : SchemeKind) (r : Text) : Prop := ∀ c ∈ r.head?, isAuthorityEnd kind c = true

theorem IsRest.head (h : IsRest r) : ∀ c ∈ r.head?, isSlash .web c = true := by
  rcases h with rfl | ⟨c, t, rfl, hc⟩
  · exact fun c hc => nomatch hc
  · rintro _ ⟨⟩
    exact hc

theorem isAuthorityEnd_of_isSlash {c : Char} (h : isSlash .web c = true) :
    isAuthorityEnd .web c = true := by
  rw [isAuthorityEnd, h, Bool.true_or]

theorem IsRest.ends (h : IsRest r) : Ends .web r :=
  fun c hc => isAuthorityEnd_of_isSlash (h.head c hc)

/-- A character that ends an authority of any scheme ends a port. -/
theorem Ends.port (hr : Ends kind r) :
    ∀ c ∈ r.head?, (c = '/' || c = '\\' || isPathEnd c) = true := by
  intro c hc
  have hend := hr c hc
  simp only [isAuthorityEnd, isSlash, Bool.or_eq_true, Bool.and_eq_true] at hend ⊢
  exact hend.imp_left (Or.imp_right And.right)

/-! ## User information -/

theorem takeWhile_authority (hr : Ends kind r) :
    (t ++ r).takeWhile (!isAuthorityEnd kind ·) = t.takeWhile (!isAuthorityEnd kind ·) :=
  (Text.while_append fun c hc => by rw [hr c hc, Bool.not_true]).1

/-- What stands before the last at sign of an authority that holds one. -/
def userPart (a : Text) : Text :=
  a.take (a.length - (a.reverse.takeWhile (· != '@')).reverse.length - 1)

theorem length_userPart (hat : '@' ∈ a) : (userPart a).length + 1 ≤ a.length := by
  have hpos := List.length_pos_of_mem hat
  rw [userPart, List.length_take]
  omega

/-- What may stand behind an empty user. -/
def dropEmptyUser (kind : SchemeKind) (t : Text) : Except UrlError (Bool × Text) :=
  match t with
  | c :: _ => if isAuthorityEnd kind c then .error .emptyHost else .ok (false, t)
  | [] => .ok (false, t)

theorem dropUser_eq : dropUser kind t =
    let authority := t.takeWhile (!isAuthorityEnd kind ·)
    let rest := t.drop ((userPart authority).length + 1)
    if '@' ∉ authority then .ok (false, t)
    else if userPart authority = [] then dropEmptyUser kind rest
    else .ok (userPart authority != [':'], rest) := by
  simp only [dropUser, userPart, dropEmptyUser, List.contains_iff_mem, Bool.not_eq_true',
    List.isEmpty_iff, ← Bool.not_eq_true]
  rfl

/-- A text can be written behind an authority that is no lone at sign. -/
def Extends (t r : Text) : Prop := t ≠ ['@'] ∨ r = []

theorem dropUser_append (hr : Ends kind r) (hext : Extends t r) :
    dropUser kind (t ++ r) = (dropUser kind t).map fun found => (found.1, found.2 ++ r) := by
  rw [dropUser_eq, dropUser_eq, takeWhile_authority hr]
  dsimp only
  by_cases hat : '@' ∈ t.takeWhile (!isAuthorityEnd kind ·)
  · have hle := length_userPart hat
    have hlength : _ ≤ t.length := Nat.le_trans hle (List.takeWhile_prefix _).length_le
    rw [if_neg (not_not_intro hat), if_neg (not_not_intro hat), List.drop_append_of_le_length hlength]
    split
    next hempty =>
      rw [hempty]
      cases hrest : t.drop (([] : Text).length + 1) with
      | cons c rest =>
          simp only [List.cons_append, dropEmptyUser]
          split <;> rfl
      | nil =>
          -- the at sign is all there is, and so nothing stands behind it
          have hmem : '@' ∈ t := (List.takeWhile_prefix _).subset hat
          obtain rfl : r = [] := by
            refine hext.resolve_left fun hne => hne ?_
            cases t with
            | nil => exact nomatch hmem
            | cons c t =>
                obtain rfl : t = [] := hrest
                rw [List.mem_singleton.mp hmem]
          rfl
    next => rfl
  · rw [if_pos hat, if_pos hat]
    rfl

theorem dropUser_loneAt (hr : Ends kind r) (hne : r ≠ []) :
    dropUser kind ('@' :: r) = .error .emptyHost := by
  obtain ⟨c, r, rfl⟩ := List.exists_cons_of_ne_nil hne
  rw [← List.singleton_append, dropUser_eq, takeWhile_authority hr]
  cases kind <;> exact if_pos (hr c rfl)

/-! ## Host and port -/

theorem cutHost_append {bracketed : Bool} (hr : Ends kind r) :
    cutHost kind bracketed (t ++ r) =
      ((cutHost kind bracketed t).1, (cutHost kind bracketed t).2 ++ r) := by
  induction t generalizing bracketed with
  | nil =>
      cases r with
      | nil => rfl
      | cons c r => exact if_pos (by rw [hr c rfl, Bool.true_or])
  | cons c t ih =>
      rw [List.cons_append, cutHost, cutHost, ih]
      split <;> rfl

theorem readPort_append (hr : Ends kind r) :
    readPort (t ++ r) = (readPort t).map fun found => (found.1, found.2 ++ r) := by
  have hdigit : ∀ c ∈ r.head?, Text.isDigit c = false := by
    intro c hc
    have hend := hr.port c hc
    simp only [isPathEnd, Bool.or_eq_true, decide_eq_true_eq] at hend
    rcases hend with (rfl | rfl) | rfl | rfl <;> rfl
  obtain ⟨htake, hdrop⟩ := Text.while_append (t := t) hdigit
  rw [readPort, readPort, htake, hdrop]
  split
  · rfl
  · cases t.dropWhile Text.isDigit with
    | nil =>
        cases r with
        | nil => rfl
        | cons c r => exact if_pos (hr.port c rfl)
    | cons c rest =>
        simp only [List.cons_append]
        split <;> rfl

/-- The port behind a host, when a colon stands there; without a host there is none. -/
def readColonPort (hasHost : Bool) (t : Text) : Except UrlError (Option Nat × Text) :=
  match t with
  | ':' :: digits => if hasHost then readPort digits else .error .emptyHost
  | _ => .ok (none, t)

theorem readColonPort_of_ne {hasHost : Bool} {c : Char} (hc : c ≠ ':') :
    readColonPort hasHost (c :: t) = .ok (none, c :: t) := by
  rw [readColonPort]
  exact fun _ h => hc (List.cons.inj h).1

theorem readColonPort_of_ends {hasHost : Bool} (hr : Ends kind r) :
    readColonPort hasHost r = .ok (none, r) := by
  cases r with
  | nil => rfl
  | cons c r =>
      refine readColonPort_of_ne ?_
      rintro rfl
      exact nomatch hr.port ':' rfl

theorem readColonPort_append {hasHost : Bool} (hr : Ends kind r) :
    readColonPort hasHost (t ++ r) =
      (readColonPort hasHost t).map fun found => (found.1, found.2 ++ r) := by
  cases t with
  | nil => exact readColonPort_of_ends hr
  | cons c t =>
      by_cases hc : c = ':'
      · subst hc
        cases hasHost with
        | false => rfl
        | true => exact readPort_append hr
      · rw [List.cons_append, readColonPort_of_ne hc, readColonPort_of_ne hc]
        rfl

/-! ## The whole authority -/

/-- The host that a text between the user information and the port names. -/
def readHostOf (kind : SchemeKind) (t : Text) : Except UrlError (Option Host) :=
  match kind with
  | .other => readNamedHost t
  | _ => if t.isEmpty then .error .emptyHost else (readHost t).map some

/-- The host and the port behind the user information, and what follows them. -/
def readServer (kind : SchemeKind) (hasUser : Bool) (t : Text) :
    Except UrlError ((Option Host × Option Nat) × Text) := do
  let host ← readHostOf kind (cutHost kind false t).1
  let found ← readColonPort host.isSome (cutHost kind false t).2
  if host.isNone && hasUser then .error .emptyHost else .ok ((host, found.1), found.2)

/-- The host and the port of an authority, and what follows it. -/
def readOrigin (kind : SchemeKind) (t : Text) :
    Except UrlError ((Option Host × Option Nat) × Text) := do
  let found ← dropUser kind t
  readServer kind found.1 found.2

/-- The port and the path behind a host. -/
theorem readBehindHost_eq {hasUser : Bool} {host : Option Host} :
    (do
      let (port, rest) ← match t with
        | ':' :: digits => if host.isNone then throw .emptyHost else readPort digits
        | _ => pure (none, t)
      if host.isNone && hasUser then throw .emptyHost
      return {
        scheme, host
        port := if port = usualPort? scheme then none else port
        path := readPath kind rest } : Except UrlError Url) =
    (do
      let found ← readColonPort host.isSome t
      if host.isNone && hasUser then .error .emptyHost
      else .ok ((host, found.1), found.2) : Except UrlError _).map fun found => {
          scheme, host := found.1.1
          port := if found.1.2 = usualPort? scheme then none else found.1.2
          path := readPath kind found.2 } := by
  cases t with
  | nil => cases host <;> cases hasUser <;> rfl
  | cons c digits =>
      by_cases hc : c = ':'
      · subst hc
        cases host with
        | none => rfl
        | some host =>
            change readPort digits >>= _ = (readPort digits >>= _).map _
            cases readPort digits <;> rfl
      · rw [readColonPort_of_ne hc]
        extract_lets behind
        split
        next heq => exact absurd (List.cons.inj heq).1 hc
        next => cases host <;> cases hasUser <;> rfl

/-- The path is read from what follows the authority, and nothing else is. -/
theorem readAuthority_eq : readAuthority scheme t =
    (readOrigin (SchemeKind.of scheme) t).map fun found => {
      scheme, host := found.1.1
      port := if found.1.2 = usualPort? scheme then none else found.1.2
      path := readPath (SchemeKind.of scheme) found.2 } := by
  rw [readAuthority, readOrigin]
  generalize SchemeKind.of scheme = kind
  cases dropUser kind t with
  | error e => rfl
  | ok found =>
      obtain ⟨hasUser, rest⟩ := found
      cases kind with
      | other =>
          simp only [bind, Except.bind, readServer, readHostOf]
          cases readNamedHost (cutHost .other false rest).1 with
          | error e => rfl
          | ok host => exact readBehindHost_eq
      | file =>
          simp only [bind, Except.bind, readServer, readHostOf]
          split
          next => rfl
          next =>
            cases readHost (cutHost .file false rest).1 with
            | error e => rfl
            | ok host => exact readBehindHost_eq
      | web => 
          simp only [bind, Except.bind, readServer, readHostOf]
          split
          next => rfl
          next =>
            cases readHost (cutHost .web false rest).1 with
            | error e => rfl
            | ok host => exact readBehindHost_eq

theorem readServer_append {hasUser : Bool} (hr : Ends kind r) :
    readServer kind hasUser (t ++ r) =
      (readServer kind hasUser t).map fun found => (found.1, found.2 ++ r) := by
  rw [readServer, readServer, cutHost_append hr]
  cases readHostOf kind (cutHost kind false t).1 with
  | error e => rfl
  | ok host =>
      simp only [bind, Except.bind, readColonPort_append hr]
      cases readColonPort host.isSome (cutHost kind false t).2 with
      | error e => rfl
      | ok found =>
          simp only [Except.map]
          split <;> rfl

/-- The host and the port of an authority do not depend on what follows it. -/
theorem readOrigin_append (hr : Ends kind r) (hext : kind = .other → Extends t r) :
    readOrigin kind (t ++ r) = (readOrigin kind t).map fun found => (found.1, found.2 ++ r) := by
  by_cases h : Extends t r
  · rw [readOrigin, readOrigin, dropUser_append hr h]
    cases dropUser kind t with
    | error e => rfl
    | ok found => exact readServer_append hr
  · -- behind a lone at sign there is no host, and so no URL
    obtain ⟨ht, hne⟩ := not_or.mp h
    obtain rfl := not_not.mp ht
    have hlone := dropUser_loneAt hr hne
    cases kind with
    | other => exact absurd (hext rfl) h
    | file =>
        rw [readOrigin, List.singleton_append, hlone]
        rfl
    | web =>
        rw [readOrigin, List.singleton_append, hlone]
        rfl

/-! ## Authorities that nothing is left of -/

/-- A text inside an authority. -/
def Inside (t : Text) : Prop := ∀ c ∈ t, isAuthorityEnd .web c = false

/-- Inside an authority only a colon ends the host. -/
theorem cutHost_snd (bracketed : Bool) (ht : Inside t) :
    (cutHost .web bracketed t).2 = [] ∨
      ∃ digits, (cutHost .web bracketed t).2 = ':' :: digits ∧ Inside digits := by
  induction t generalizing bracketed with
  | nil => exact .inl rfl
  | cons c t ih =>
      obtain ⟨hc, ht⟩ := List.forall_mem_cons.mp ht
      rw [cutHost, hc, Bool.false_or]
      split
      next hcolon =>
        simp only [Bool.and_eq_true, decide_eq_true_eq] at hcolon
        exact .inr ⟨t, by rw [hcolon.1], ht⟩
      · exact ih _ ht

theorem dropUser_subset {found : Bool × Text} (h : dropUser kind t = .ok found) : found.2 ⊆ t := by
  rw [dropUser_eq] at h
  dsimp only at h
  split at h
  · cases h
    exact List.Subset.refl t
  · have hdrop := List.drop_subset ((userPart (t.takeWhile (!isAuthorityEnd kind ·))).length + 1) t
    generalize t.drop ((userPart (t.takeWhile (!isAuthorityEnd kind ·))).length + 1) = rest at *
    split at h
    · unfold dropEmptyUser at h
      split at h
      · split at h
        · exact nomatch h
        · cases h
          exact hdrop
      · cases h
        exact hdrop
    · cases h
      exact hdrop

theorem readPort_inside {found : Option Nat × Text} (ht : Inside t) (h : readPort t = .ok found) :
    found.2 = [] := by
  unfold readPort at h
  dsimp only at h
  split at h
  · exact nomatch h
  · split at h
    next => cases h; assumption
    next c rest hrest =>
      have hc := ht c ((List.dropWhile_suffix Text.isDigit).subset (hrest ▸ List.mem_cons_self))
      have hend : (c = '/' || c = '\\' || isPathEnd c) = false := hc
      rw [hend] at h
      exact nomatch h

theorem readOrigin_inside {found : (Option Host × Option Nat) × Text} (ha : Inside a)
    (h : readOrigin .web a = .ok found) : found.2 = [] := by
  unfold readOrigin readServer at h
  simp only [bind_eq_ok] at h
  obtain ⟨user, huser, host, -, port, hport, hfound⟩ := h
  have hinside : Inside user.2 := fun c hc => ha c (dropUser_subset huser hc)
  have hrest : port.2 = [] := by
    rcases cutHost_snd false hinside with hnil | ⟨digits, hcolon, hdigits⟩
    · rw [hnil] at hport
      cases hport
      rfl
    · rw [hcolon, readColonPort] at hport
      split at hport
      · exact readPort_inside hdigits hport
      · exact nomatch hport
  split at hfound
  · exact nomatch hfound
  · cases hfound
    exact hrest

/-- On the web the path is all that a rest behind a slash adds. -/
theorem readAuthority_append (hweb : SchemeKind.of scheme = .web) (ha : Inside a) (hr : IsRest r) :
    readAuthority scheme (a ++ r) =
      (readAuthority scheme a).map fun url => { url with path := readPath .web r } := by
  rw [readAuthority_eq, readAuthority_eq, hweb, readOrigin_append hr.ends fun h => nomatch h]
  cases horigin : readOrigin .web a with
  | error e => rfl
  | ok found =>
      have hnil : found.2 ++ r = r := by rw [readOrigin_inside ha horigin, List.nil_append]
      simp only [Except.map, hnil]

end Signpost.Url
