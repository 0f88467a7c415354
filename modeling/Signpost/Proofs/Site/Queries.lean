import Signpost.Proofs.PagePath
import Signpost.Proofs.Site.SidebarLookup
import Signpost.Proofs.Url.Query

/-!
# Queries and fragments of page paths

A page path is the same with a query or a fragment behind it as without, and so is the sidebar entry
that is found for it. The one exception is a text that is a URL only because nothing stands behind
its lone at sign.
-/

namespace Signpost.PagePath

open Url (IsTail IsLoneAt isPathEnd)

variable {r t : Text}

/-- A text without query and fragment, and with no white space or control at its end, so that what
is written behind it is its query or its fragment. -/
structure Unended (t : Text) : Prop where
  chars : ∀ c ∈ t, c ≠ '?' ∧ c ≠ '#'
  last : ∀ c ∈ t.getLast?, Text.isBlank c = false ∧ Text.isControl c = false

theorem unended_iff : Unended t ↔
    (t.all fun c => c != '?' && c != '#') = true ∧
      (t.getLast?.all fun c => !Text.isBlank c && !Text.isControl c) = true := by
  simp only [List.all_eq_true, Option.all_eq_true, Bool.and_eq_true, Bool.not_eq_true', bne_iff_ne]
  exact ⟨fun h => ⟨h.chars, h.last⟩, fun ⟨hchars, hlast⟩ => ⟨hchars, hlast⟩⟩

instance : Decidable (Unended t) := decidable_of_iff _ unended_iff.symm

theorem Unended.isPathEnd (h : Unended t) : ∀ c ∈ t, isPathEnd c = false := by
  intro c hc
  simp [Url.isPathEnd, h.chars c hc]

theorem Unended.visible (h : Unended t) : ∀ c ∈ t.getLast?, 0x20 < c.toNat := by
  intro c hc
  exact toNat_visible (h.last c hc).2 (h.last c hc).1

theorem Unended.trim_eq (h : Unended t) : Text.trim t = Text.trimStartBy Text.isBlank t :=
  Text.trimBy_eq_trimStartBy fun c hc => (h.last c hc).1

theorem Unended.trim (h : Unended t) : Unended (Text.trim t) := by
  refine ⟨fun c hc => h.chars c (Text.trim_subset hc), fun c hc => ?_⟩
  obtain ⟨front, hfront⟩ : Text.trim t <:+ t := h.trim_eq ▸ List.dropWhile_suffix _
  refine h.last c ?_
  have hne : Text.trim t ≠ [] := by
    intro hnil
    rw [hnil] at hc
    exact nomatch hc
  rw [← hfront, List.getLast?_append_of_ne_nil _ hne]
  exact hc

theorem Unended.trim_append (h : Unended t) (hr : IsTail r) :
    ∃ behind, IsTail behind ∧ Text.trim (t ++ r) = Text.trim t ++ behind := by
  obtain ⟨c, s, rfl, hc⟩ := hr
  have hvisible : Text.isBlank c = false := by
    rcases Url.isPathEnd_iff.mp hc with rfl | rfl <;> rfl
  rw [h.trim_eq, Text.trim, Text.trimBy_append_cons hvisible]
  exact ⟨_, ⟨c, _, rfl, hc⟩, rfl⟩

theorem takeWhile_of_unended (h : Unended t) : t.takeWhile (!Url.isPathEnd ·) = t :=
  List.takeWhile_eq_self_iff.mpr fun c hc => by rw [h.isPathEnd c hc, Bool.not_false]

theorem Unended.undecoded_append (h : Unended t) (hr : IsTail r) (hlone : ¬IsLoneAt t) :
    undecoded (t ++ r) = undecoded t := by
  rw [undecoded, undecoded, Url.join_append hr h.visible h.isPathEnd rfl hlone,
    Url.takeWhile_append_tail hr]

theorem Unended.normalize_append (h : Unended t) (hr : IsTail r) (hlone : ¬IsLoneAt (Text.trim t)) :
    normalize (t ++ r) = normalize t := by
  obtain ⟨behind, hbehind, htrim⟩ := h.trim_append hr
  rw [normalize_eq, normalize_eq, htrim, h.trim.undecoded_append hbehind hlone]

/-! ## The exception -/

theorem IsLoneAt.mem (h : IsLoneAt t) : '@' ∈ t := by
  obtain ⟨scheme, hsplit, -⟩ := h
  exact Url.clean_subset (Url.splitScheme?_subset hsplit (by decide))

/-- Without a query or a fragment the path is that of the root. -/
theorem Unended.normalize_loneAt (h : Unended t) (hlone : IsLoneAt (Text.trim t)) :
    normalize t = ['/'] := by
  obtain ⟨⟨url, hjoin, hpath⟩, -⟩ :=
    Url.join_of_isLoneAt root hlone ⟨'?', [], rfl, rfl⟩ h.trim.visible rfl
  rw [normalize_eq, undecoded, hjoin]
  dsimp only
  rw [hpath]
  rfl

/-- With one it is the text itself. -/
theorem Unended.normalize_append_loneAt (h : Unended t) (hr : IsTail r)
    (hlone : IsLoneAt (Text.trim t)) :
    normalize (t ++ r) = absolute (unescaped (Text.trim t)) := by
  obtain ⟨behind, hbehind, htrim⟩ := h.trim_append hr
  obtain ⟨-, hjoin⟩ := Url.join_of_isLoneAt root hlone hbehind h.trim.visible rfl
  rw [normalize_eq, htrim, undecoded, hjoin]
  dsimp only
  rw [Url.takeWhile_append_tail hbehind, takeWhile_of_unended h.trim]

/-- No text with an at sign resolves to a slash. -/
theorem absolute_unescaped_ne_slash (h : '@' ∈ t) : absolute (unescaped t) ≠ ['/'] := by
  have hne : t ≠ [] := List.ne_nil_of_mem h
  intro hslash
  have hunescaped : unescaped t = [] ∨ unescaped t = ['/'] := by
    rw [absolute] at hslash
    split at hslash
    · exact .inr hslash
    · exact .inl (List.cons.inj hslash).2
  unfold unescaped at hunescaped
  cases hdecode : Percent.decode? t with
  | none =>
      rw [hdecode, Option.getD_none] at hunescaped
      rcases hunescaped with rfl | rfl
      · exact hne rfl
      · exact absurd h (by decide)
  | some u =>
      rw [hdecode, Option.getD_some] at hunescaped
      rcases hunescaped with rfl | rfl
      · exact hne (Percent.decode?_eq_nil.mp hdecode)
      · obtain ⟨rest, hrest, rfl | ⟨a, b, x, y, rfl, ha, hb, -⟩⟩ :=
          (Percent.decode?_eq_cons (by decide) (by decide)).mp hdecode
        · rw [Percent.decode?_eq_nil.mp hrest] at h
          exact absurd h (by decide)
        · rw [Percent.decode?_eq_nil.mp hrest] at h
          simp only [List.mem_cons, List.not_mem_nil, or_false] at h
          rcases h with h | rfl | rfl
          · exact absurd h (by decide)
          · exact nomatch ha
          · exact nomatch hb

theorem Unended.normalize_append_iff (h : Unended t) (hr : IsTail r) :
    normalize (t ++ r) = normalize t ↔ ¬IsLoneAt (Text.trim t) := by
  refine ⟨?_, h.normalize_append hr⟩
  intro heq hlone
  rw [h.normalize_append_loneAt hr hlone, h.normalize_loneAt hlone] at heq
  exact absolute_unescaped_ne_slash (IsLoneAt.mem hlone) heq

/-- A query and a fragment leave one path, whatever they are. -/
theorem Unended.normalize_append_congr {r' : Text} (h : Unended t) (hr : IsTail r)
    (hr' : IsTail r') : normalize (t ++ r) = normalize (t ++ r') := by
  by_cases hlone : IsLoneAt (Text.trim t)
  · rw [h.normalize_append_loneAt hr hlone, h.normalize_append_loneAt hr' hlone]
  · rw [h.normalize_append hr hlone, h.normalize_append hr' hlone]

end Signpost.PagePath

namespace Signpost

open PagePath (Unended)

theorem Sidebar.entryFor?_congr {sidebar : Sidebar} {page page' : Text}
    (h : PagePath.normalize page = PagePath.normalize page') :
    sidebar.entryFor? page = sidebar.entryFor? page' := by
  rw [Sidebar.entryFor?, Sidebar.entryFor?, h]

/-- What a query or a fragment behind a page path changes. The two are dropped alike, and without
them the path is the same, and the entry with it, unless its authority is a lone at sign. -/
theorem PagePath.normalize_query_iff {t : Text} (h : Unended t) (query fragment : Text) :
    (PagePath.normalize (t ++ '?' :: query) = PagePath.normalize (t ++ '#' :: fragment) ∧
      (PagePath.normalize (t ++ '?' :: query) = PagePath.normalize t ↔
        ¬Url.IsLoneAt (Text.trim t))) ∧
    ∀ sidebar : Sidebar,
      sidebar.entryFor? (t ++ '?' :: query) = sidebar.entryFor? (t ++ '#' :: fragment) ∧
        (¬Url.IsLoneAt (Text.trim t) →
          sidebar.entryFor? (t ++ '?' :: query) = sidebar.entryFor? t) := by
  have hquery : Url.IsTail ('?' :: query) := ⟨'?', query, rfl, rfl⟩
  have hfragment : Url.IsTail ('#' :: fragment) := ⟨'#', fragment, rfl, rfl⟩
  have hcongr := h.normalize_append_congr hquery hfragment
  refine ⟨⟨hcongr, h.normalize_append_iff hquery⟩, fun sidebar => ⟨?_, fun hlone => ?_⟩⟩
  · exact Sidebar.entryFor?_congr hcongr
  · exact Sidebar.entryFor?_congr (h.normalize_append hquery hlone)

/-- A relative path with a query. -/
theorem PagePath.normalize_query_relative :
    Unended "guide/intro".toList ∧
      PagePath.normalize "guide/intro?x=1".toList = PagePath.normalize "guide/intro".toList := by
  have hunended : Unended "guide/intro".toList := by decide
  have hlone : ¬Url.IsLoneAt (Text.trim "guide/intro".toList) := by
    rintro ⟨scheme, hsplit, -⟩
    exact nomatch hsplit
  exact ⟨hunended, (PagePath.normalize_query_iff hunended "x=1".toList []).1.2.mpr hlone⟩

/-- Behind a lone at sign a query decides whether there is a URL at all. -/
theorem PagePath.normalize_query_loneAt :
    ¬∀ t, Unended t → ∀ query,
      PagePath.normalize (t ++ '?' :: query) = PagePath.normalize (t ++ '#' :: query) ∧
        PagePath.normalize (t ++ '#' :: query) = PagePath.normalize t := by
  intro h
  have hunended : Unended "x://@".toList := by decide
  exact absurd (h _ hunended "q".toList).2 (by decide)

end Signpost
