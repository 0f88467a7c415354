import Signpost.Proofs.Site.PagesBelow
import Signpost.Proofs.Site.Spellings
import Signpost.Proofs.Url.DotResolution

/-!
# The path of a key

A key declares its own path: its backslashes are slashes, its dot segments are resolved, its escapes
too, and a slash stands at the end. There are two exceptions. Behind a slash and a backslash a host
is looked for, as in a link; what is read as one is lost, and where none can be read the key stays as
it is written. And two dots do not take back a drive letter.
-/

namespace Signpost

namespace Url

variable {parts texts : List Text} {c : Char} {t u : Text}

/-! ## Escapes and slashes -/

theorem forward_of_not_mem (h : '\\' ∉ t) : forward t = t := by
  refine (List.map_congr_left fun c hc => if_neg ?_).trans (List.map_id t)
  rintro rfl
  exact h hc

theorem forward_append_backslash {q x : Text} (hq : '\\' ∉ q) :
    forward (q ++ '\\' :: x) = q ++ '/' :: forward x := by
  conv_rhs => rw [← forward_of_not_mem hq]
  exact List.map_append

/-- Backslashes can be made slashes before the escapes are resolved; those that escapes spell stay. -/
theorem decode?_forward (h : Percent.decode? t = some u) :
    ∃ v, Percent.decode? (forward t) = some v ∧ v.count '\\' + t.count '\\' = u.count '\\' := by
  induction hn : t.length using Nat.strongRecOn generalizing t u with
  | ind n ih =>
      subst hn
      by_cases hmem : '\\' ∈ t
      · -- no escape reaches over a backslash, so the text can be cut at the first
        obtain ⟨q, x, rfl, hq⟩ := List.eq_append_cons_of_mem hmem
        obtain ⟨v, w, rfl, hv, hw⟩ :=
          (Percent.decode?_append_cons (by decide) rfl (by decide)).mp h
        obtain ⟨w', hw', hcount⟩ := ih x.length (by simp; omega) hw rfl
        rw [forward_append_backslash hq]
        refine ⟨v ++ '/' :: w', Percent.decode?_append_slash.mpr ⟨v, w', rfl, hv, hw'⟩, ?_⟩
        have hzero : q.count '\\' = 0 := List.count_eq_zero.mpr hq
        simp only [List.count_append, List.count_cons_self, hzero,
          List.count_cons_of_ne (show '/' ≠ '\\' by decide)]
        omega
      · rw [forward_of_not_mem hmem]
        exact ⟨u, h, by rw [List.count_eq_zero.mpr hmem, Nat.add_zero]⟩

theorem render_splitOn (t : Text) : (UrlPath.segments (Text.splitOn '/' t)).render = '/' :: t := by
  induction t with
  | nil => rfl
  | cons c t ih =>
      by_cases hc : c = '/'
      · subst hc
        exact congrArg ('/' :: ·) ih
      · rw [Text.splitOn_cons_of_ne hc]
        cases hparts : Text.splitOn '/' t with
        | nil => exact absurd hparts Text.splitOn_ne_nil
        | cons part parts =>
            rw [hparts] at ih
            have hrest : part ++ (UrlPath.segments parts).render = t := (List.cons.inj ih).2
            exact congrArg ('/' :: c :: ·) hrest

theorem isSome_mapM_iff : (parts.mapM Percent.decode?).isSome = true ↔
    ∀ part ∈ parts, (Percent.decode? part).isSome = true := by
  induction parts with
  | nil => exact iff_of_true rfl (List.forall_mem_nil _)
  | cons part parts ih =>
      rw [List.mapM_cons, List.forall_mem_cons, ← ih]
      cases Percent.decode? part <;> cases parts.mapM Percent.decode? <;> simp

end Url

namespace PagePath

open Url (forward isSlash settleSegments spelled withoutDots)

variable {r t : Text} {parts : List Text}

/-- The path that an absolute text spells, with a slash at its end: backslashes are slashes, and dot
segments and escapes are resolved. -/
def spelledPath? (t : Text) : Option Text :=
  (Percent.decode? (UrlPath.segments
    (withoutDots (Text.splitOn '/' (forward t).tail))).render).map Text.withTrailingSlash

/-- Where the text stands on a page of the web, it stays on the site: no part of it is read as a
host. -/
def KeepsSite (t : Text) : Prop :=
  ∀ base url : Url, Url.SchemeKind.of base.scheme = .web → Url.join base t = .ok url →
    url.host = base.host

/-! ## Paths whose escapes can be resolved -/

theorem isSome_of_mem_splitOn (hd : (Percent.decode? ('/' :: r)).isSome = true) :
    ∀ part ∈ Text.splitOn '/' (forward r), (Percent.decode? part).isSome = true := by
  obtain ⟨u, hu⟩ := Option.isSome_iff_exists.mp hd
  obtain ⟨v, hv, -⟩ := Url.decode?_forward hu
  have hrender : Percent.decode? (UrlPath.segments (Text.splitOn '/' (forward r))).render =
      some v := by
    rw [Url.render_splitOn]
    exact hv
  rw [Url.decode?_render] at hrender
  obtain ⟨texts, htexts, -⟩ := Option.map_eq_some_iff.mp hrender
  exact Url.isSome_mapM_iff.mp (by rw [htexts]; rfl)

theorem decode?_render_eq (h : ∀ part ∈ parts, (Percent.decode? part).isSome = true) :
    Percent.decode? (UrlPath.segments parts).render =
      some (UrlPath.segments (parts.map unescaped)).render := by
  have hmap : parts.mapM Percent.decode? = some (parts.map unescaped) := by
    induction parts with
    | nil => rfl
    | cons part parts ih =>
        obtain ⟨hpart, hparts⟩ := List.forall_mem_cons.mp h
        obtain ⟨text, htext⟩ := Option.isSome_iff_exists.mp hpart
        rw [List.mapM_cons, ih hparts, htext, List.map_cons, unescaped, htext]
        rfl
  rw [Url.decode?_render, hmap]
  rfl

theorem unescaped_spelled {s : Text} (h : (Percent.decode? s).isSome = true) :
    unescaped (spelled s) = unescaped s := by
  obtain ⟨text, htext⟩ := Option.isSome_iff_exists.mp h
  rw [unescaped, unescaped, Percent.decode?_encode Url.leavesEscapes_isEscapedInPath, htext]
  rfl

theorem isSome_of_mem_withoutDots (hd : (Percent.decode? ('/' :: r)).isSome = true) :
    ∀ part ∈ withoutDots (Text.splitOn '/' (forward r)), (Percent.decode? part).isSome = true :=
  Url.forall_withoutDots rfl (isSome_of_mem_splitOn hd)

/-- What a text spells, segment by segment. -/
theorem spelledPath?_eq (hd : (Percent.decode? ('/' :: r)).isSome = true) :
    spelledPath? ('/' :: r) = some (Text.withTrailingSlash (UrlPath.segments
      ((withoutDots (Text.splitOn '/' (forward r))).map unescaped)).render) := by
  change (Percent.decode? (UrlPath.segments
    (withoutDots (Text.splitOn '/' (forward r)))).render).map _ = _
  rw [decode?_render_eq (isSome_of_mem_withoutDots hd)]
  rfl

/-- Spelling the segments as the path of a URL does changes nothing. -/
theorem map_unescaped_spelled (hd : (Percent.decode? ('/' :: r)).isSome = true) :
    ((withoutDots (Text.splitOn '/' (forward r))).map spelled).map unescaped =
      (withoutDots (Text.splitOn '/' (forward r))).map unescaped := by
  rw [List.map_map]
  exact List.map_congr_left fun part hpart =>
    unescaped_spelled (isSome_of_mem_withoutDots hd part hpart)

/-! ## Paths without a host -/

/-- A path is normalized to its settled segments as they resolve. -/
theorem normalize_settled (ht : Plain ('/' :: r))
    (hr : ∀ c ∈ r.head?, isSlash .web c = false)
    (hd : (Percent.decode? ('/' :: r)).isSome = true) :
    normalize ('/' :: r) = (UrlPath.segments
      ((settleSegments .web [] (Text.splitOn '/' (forward r))).map unescaped)).render := by
  have hends : ∀ c ∈ r, Url.isPathEnd c = false := fun c hc =>
    ht.isPathEnd c (List.mem_cons_of_mem _ hc)
  have hundecoded : undecoded ('/' :: r) =
      (UrlPath.segments (settleSegments .web [] (Text.splitOn '/' (forward r)))).render := by
    rw [ht.undecoded_path hr, Url.readPath_web, ← Url.splitBy_isSlash, ← Url.readSegments_web hends]
    rfl
  have habsolute : ∃ rest, undecoded ('/' :: r) = '/' :: rest := by
    rw [ht.undecoded_path hr]
    exact Url.render_readPath_cons
  have hresolved : ∀ part ∈ settleSegments .web [] (Text.splitOn '/' (forward r)),
      (Percent.decode? part).isSome = true := by
    refine Url.forall_settleSegments rfl (List.forall_mem_nil _) fun part hpart _ _ _ => ?_
    rw [Url.keepSegment_web, Percent.decode?_encode Url.leavesEscapes_isEscapedInPath]
    exact isSome_of_mem_splitOn hd part hpart
  rw [ht.normalize habsolute, hundecoded, decode?_render_eq hresolved]
  rfl

theorem exists_render_eq {p : Text} (h : parts.getLast? = some p) :
    ∃ front, (UrlPath.segments parts).render = front ++ '/' :: p := by
  obtain ⟨front, rfl⟩ := List.getLast?_eq_some_iff.mp h
  exact ⟨_, by rw [Url.render_segments_append]; exact congrArg (_ ++ ·) (List.append_nil _)⟩

/-- Paths that end in the same segment differ with a slash at their ends when they differ in
length. -/
theorem withTrailingSlash_render_ne {others : List Text} (hne : parts ≠ [])
    (hlast : parts.getLast? = others.getLast?)
    (hlength : (UrlPath.segments others).render.length < (UrlPath.segments parts).render.length) :
    Text.withTrailingSlash (UrlPath.segments others).render ≠
      Text.withTrailingSlash (UrlPath.segments parts).render := by
  obtain ⟨p, hp⟩ := Option.ne_none_iff_exists'.mp (mt List.getLast?_eq_none_iff.mp hne)
  obtain ⟨front, hfront⟩ := exists_render_eq hp
  obtain ⟨front', hfront'⟩ := exists_render_eq (hlast ▸ hp)
  have hslash (front : Text) : Text.withTrailingSlash (front ++ '/' :: p) =
      front ++ Text.withTrailingSlash ('/' :: p) := Text.withTrailingSlash_append nofun
  rw [hfront, hfront', hslash, hslash]
  intro heq
  rw [hfront, hfront', List.append_cancel_right heq] at hlength
  exact Nat.lt_irrefl _ hlength

/-- A path without a host is the path that is spelled, unless two dots meet a drive letter. -/
theorem spelledPath?_iff_of_path (ht : Plain ('/' :: r)) (hr : ∀ c ∈ r.head?, isSlash .web c = false)
    (hd : (Percent.decode? ('/' :: r)).isSome = true) :
    spelledPath? ('/' :: r) = some (Text.withTrailingSlash (normalize ('/' :: r))) ↔
      ¬MeetsDrive (forward ('/' :: r)) := by
  rw [spelledPath?_eq hd, ← map_unescaped_spelled hd, normalize_settled ht hr hd, Option.some.injEq]
  change _ ↔ ¬Url.meetsDrive [] (Text.splitOn '/' (forward r)) = true
  have hne : Text.splitOn '/' (forward r) ≠ [] := Text.splitOn_ne_nil
  constructor
  · intro h hmeets
    refine withTrailingSlash_render_ne ?_ ?_ ?_ h
    · rw [Ne, List.map_eq_nil_iff]
      exact Url.settleSegments_ne_nil hne
    · rw [List.getLast?_map, List.getLast?_map, Url.getLast?_settleSegments hne]
    · exact Url.length_render_settleSegments_lt hmeets unescaped
  · intro hmeets
    rw [Url.settleSegments_eq hne (Bool.eq_false_iff.mpr hmeets)]

/-! ## Paths with a host -/

theorem Plain.join_base (h : Plain t) (base : Url) : Url.join base t = Url.follow base t := by
  rw [Url.join, h.clean, h.splitScheme?]

theorem keepsSite_of_path (ht : Plain ('/' :: r)) (hr : ∀ c ∈ r.head?, isSlash .web c = false) :
    KeepsSite ('/' :: r) := by
  intro base url _ hjoin
  rw [ht.join_base] at hjoin
  cases r with
  | nil =>
      cases hjoin
      rfl
  | cons d r =>
      have hfollow : Url.follow base ('/' :: d :: r) =
          if isSlash .web d then Url.readAuthority base.scheme _
          else .ok { base with path := .segments (Url.readSegments .web [] (d :: r)) } := rfl
      rw [hfollow, if_neg (by simp [hr d rfl])] at hjoin
      cases hjoin
      rfl

/-- Where a host can be read, it is the same on every site. -/
theorem not_keepsSite_of_host {url : Url} (ht : Plain ('/' :: '\\' :: r))
    (hread : Url.readAuthority root.scheme (r.dropWhile (isSlash .web)) = .ok url) :
    ¬KeepsSite ('/' :: '\\' :: r) := by
  intro hkeeps
  have hjoin (host : Option Host) :
      Url.join { root with host } ('/' :: '\\' :: r) = .ok url := by
    rw [ht.join_base]
    exact hread
  have hnone := hkeeps _ _ (by rfl) (hjoin none)
  have hsome := hkeeps _ _ (by rfl) (hjoin (some (.domain ['x'])))
  exact nomatch hnone.symm.trans hsome

theorem count_withTrailingSlash (t : Text) :
    (Text.withTrailingSlash t).count '\\' = t.count '\\' := by
  rcases Text.withTrailingSlash_eq (t := t) with h | h
  · rw [h]
  · rw [h, List.count_append]
    rfl

theorem count_render_withoutDots_le (parts : List Text) :
    (UrlPath.segments ((withoutDots parts).map unescaped)).render.count '\\' ≤
      (UrlPath.segments (parts.map unescaped)).render.count '\\' := by
  have hsub := (Url.foldl_addSegment_sublist [] parts).reverse
  rw [List.append_nil, List.reverse_reverse] at hsub
  have hle := ((hsub.map unescaped).flatMap ('/' :: ·)).count_le '\\'
  rw [withoutDots, List.map_append, Url.render_segments_append, List.count_append]
  split
  · exact hle
  · exact hle

/-- In the path that is spelled the only backslashes are those that escapes spell. -/
theorem count_spelledPath?_le {path u : Text} (h : spelledPath? ('/' :: r) = some path)
    (hu : Percent.decode? ('/' :: r) = some u) :
    path.count '\\' + ('/' :: r).count '\\' ≤ u.count '\\' := by
  have hd : (Percent.decode? ('/' :: r)).isSome = true := by rw [hu]; rfl
  obtain ⟨v, hv, hcount⟩ := Url.decode?_forward hu
  have hall : v = (UrlPath.segments ((Text.splitOn '/' (forward r)).map unescaped)).render := by
    have hrender := decode?_render_eq (isSome_of_mem_splitOn hd)
    rw [Url.render_splitOn] at hrender
    exact Option.some.inj (hv.symm.trans hrender)
  rw [spelledPath?_eq hd] at h
  rw [← Option.some.inj h, count_withTrailingSlash, ← hcount, hall]
  exact Nat.add_le_add_right (count_render_withoutDots_le _) _

/-- Where no host can be read the backslash in front stays. -/
theorem spelledPath?_ne_of_error {e : UrlError} (ht : Plain ('/' :: '\\' :: r))
    (hd : (Percent.decode? ('/' :: '\\' :: r)).isSome = true)
    (hread : Url.readAuthority root.scheme (r.dropWhile (isSlash .web)) = .error e) :
    spelledPath? ('/' :: '\\' :: r) ≠
      some (Text.withTrailingSlash (normalize ('/' :: '\\' :: r))) := by
  obtain ⟨u, hu⟩ := Option.isSome_iff_exists.mp hd
  have hundecoded : undecoded ('/' :: '\\' :: r) = '/' :: '\\' :: r := by
    rw [ht.undecoded_host, hread]
  rw [ht.normalize ⟨_, hundecoded⟩, hundecoded, hu]
  intro h
  -- the backslash in front would be one that an escape spells
  have hcount := count_spelledPath?_le h hu
  rw [Option.getD_some, count_withTrailingSlash, List.count_cons_of_ne (by decide),
    List.count_cons_self] at hcount
  omega

/-- A plain path is the path that is spelled, and no part of it is read as a host, exactly when no
backslash follows the slash in front and no two dots meet a drive letter. -/
theorem spelledPath?_iff (ht : Plain t) (hsingle : ¬['/', '/'] <+: t)
    (hd : (Percent.decode? t).isSome = true) :
    spelledPath? t = some (Text.withTrailingSlash (normalize t)) ∧ KeepsSite t ↔
      ¬['/', '\\'] <+: t ∧ ¬MeetsDrive (forward t) := by
  obtain ⟨r, rfl⟩ := ht.absolute
  by_cases hback : ['/', '\\'] <+: '/' :: r
  · obtain ⟨r, heq⟩ := hback
    obtain rfl := (List.cons.inj heq).2
    refine iff_of_false ?_ fun h => h.1 ⟨r, rfl⟩
    rintro ⟨hspelled, hkeeps⟩
    cases hread : Url.readAuthority root.scheme (r.dropWhile (isSlash .web)) with
    | ok url => exact not_keepsSite_of_host ht hread hkeeps
    | error e => exact spelledPath?_ne_of_error ht hd hread hspelled
  · have hr : ∀ c ∈ r.head?, isSlash .web c = false := by
      intro c hc
      obtain ⟨r, rfl⟩ := List.head?_eq_some_iff.mp hc
      rw [← Bool.not_eq_true]
      intro hslash
      simp only [isSlash, Bool.or_eq_true, Bool.and_eq_true, decide_eq_true_eq] at hslash
      rcases hslash with rfl | ⟨-, rfl⟩
      · exact hsingle ⟨r, rfl⟩
      · exact hback ⟨r, rfl⟩
    rw [spelledPath?_iff_of_path ht hr hd, and_iff_left (keepsSite_of_path ht hr),
      and_iff_right hback]

end PagePath

/-! ## Keys -/

namespace Sidebar

open PagePath (spelledPath? KeepsSite MeetsDrive)
open Url (forward isSlash)

variable {key area : Text}

/-- A key whose escapes can be resolved declares the path that it spells, and no part of it is read
as a host, exactly when no backslash follows the slash in front and no two dots meet a drive
letter. -/
theorem area_spelled_iff (h : area? key = .ok area)
    (hd : (Percent.decode? (Text.trim key)).isSome = true) :
    spelledPath? (Text.trim key) = some area ∧ KeepsSite (Text.trim key) ↔
      ¬['/', '\\'] <+: Text.trim key ∧ ¬MeetsDrive (forward (Text.trim key)) := by
  obtain ⟨hkey, rfl⟩ := area?_eq_ok.mp h
  exact PagePath.spelledPath?_iff hkey.plainPath hkey.single hd

example : area? "/C:/../x".toList = .ok "/C:/x/".toList ∧
    spelledPath? "/C:/../x".toList = some "/x/".toList := ⟨rfl, rfl⟩

/-- A key with an escape, a dot segment and a backslash. -/
theorem area_spelled_backslash :
    area? "/a%20b/./c\\d".toList = .ok "/a b/c/d/".toList ∧
      spelledPath? "/a%20b/./c\\d".toList = some "/a b/c/d/".toList ∧
        KeepsSite "/a%20b/./c\\d".toList := by
  have harea : area? "/a%20b/./c\\d".toList = .ok "/a b/c/d/".toList := rfl
  exact ⟨harea, (area_spelled_iff harea rfl).mpr ⟨by decide, by decide⟩⟩

/-- A backslash behind the first slash makes a host of what follows, which is lost. -/
theorem not_area_spelled : ¬∀ key area, area? key = .ok area →
    (Percent.decode? (Text.trim key)).isSome = true →
      spelledPath? (Text.trim key) = some area ∧ KeepsSite (Text.trim key) := by
  intro h
  have harea : area? "/\\docs/guide".toList = .ok "/guide/".toList := rfl
  have hspelled : spelledPath? "/\\docs/guide".toList = some "//docs/guide/".toList := rfl
  have hsame := hspelled.symm.trans (h _ _ harea rfl).1
  exact absurd hsame (by decide)

end Sidebar

end Signpost
