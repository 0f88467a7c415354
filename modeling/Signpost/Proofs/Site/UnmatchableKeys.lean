import Signpost.Proofs.Site.DotSegments
import Signpost.Proofs.Site.PagesBelow

/-!
# Keys that are refused as unmatchable

A key is refused when its escapes spell a character that starts a query or fragment, and it is said
that no page path can match it. Page paths with the same escapes do, the key itself first of all. A
page path without such escapes does not, since no path of a URL holds these characters as they are.
-/

namespace Signpost

namespace PagePath

open Url (isPathEnd)

variable {parts : List Text}

theorem isPathEnd_render (hparts : ∀ part ∈ parts, ∀ c ∈ part, isPathEnd c = false) :
    ∀ c ∈ (UrlPath.segments parts).render, isPathEnd c = false := by
  intro c hc
  obtain ⟨part, hpart, hc⟩ := List.mem_flatMap.mp hc
  rcases List.mem_cons.mp hc with rfl | hc
  · rfl
  · exact hparts part hpart c hc

/-- Before its escapes are resolved a path holds no character that starts a query or fragment. -/
theorem isPathEnd_undecoded (t : Text) : ∀ c ∈ undecoded t, isPathEnd c = false := by
  have hcut (t : Text) : ∀ c ∈ t.takeWhile (!isPathEnd ·), isPathEnd c = false := fun c hc => by
    simpa using List.mem_takeWhile_imp hc
  cases hjoin : Url.join root t with
  | error e =>
      rw [undecoded, hjoin]
      exact hcut t
  | ok url =>
      rcases Url.cut_join cut_root hjoin with ⟨parts, hpath, hkept⟩ | ⟨scheme, rest, hnames⟩
      · rw [undecoded, hjoin]
        dsimp only
        rw [hpath]
        exact isPathEnd_render fun part hpart => (hkept part hpart).unended
      · rw [undecoded_whole hnames]
        exact Url.isPathEnd_encode rfl (hcut rest)

end PagePath

namespace Sidebar

open PagePath (Below HostTaken Plain)

variable {key shown area suffix page : Text} {groups : List SidebarGroup}

/-- A plain key that is refused because the area it is normalized to holds a character that starts a
query or fragment. -/
structure Unmatchable (key : Text) : Prop where
  plain : Plain (Text.trim key)
  single : ¬['/', '/'] <+: Text.trim key
  query : ∃ c ∈ areaOf key, startsQuery c = true

theorem unmatchable_of_area? (h : area? key = .error (.keyUnmatchable shown area)) :
    Unmatchable key ∧ shown = key ∧ area = areaOf key := by
  rw [area?] at h
  dsimp only at h
  split at h
  · cases h
  next hfirst =>
    split at h
    · cases h
    next hchars =>
      split at h
      next harea =>
        obtain ⟨⟨rest, hrest⟩, single⟩ := lead_single_iff.mp (Bool.eq_false_iff.mpr hfirst)
        have hplain := any_startsQuery_iff.mp (Bool.eq_false_iff.mpr hchars)
        cases h
        exact ⟨⟨⟨⟨rest, hrest.symm⟩, hplain, Text.last_trim⟩, single, List.any_eq_true.mp harea⟩,
          rfl, rfl⟩
      · cases h

/-- A key is in the area that it is normalized to. -/
theorem covers_own (key : Text) (groups : List SidebarGroup) :
    (SidebarEntry.mk (areaOf key) groups).covers (PagePath.normalize key) = true := by
  rw [SidebarEntry.covers_iff, areaOf, PagePath.normalize_eq, Text.trim_trim,
    ← PagePath.normalize_eq]
  exact Text.withTrailingSlash_starts

theorem Unmatchable.exists_of_starts (h : Unmatchable key) {t : Text}
    (ht : areaOf key <+: t ++ ['/']) : ∃ c ∈ t, startsQuery c = true := by
  obtain ⟨c, hc, hquery⟩ := h.query
  rcases List.mem_append.mp (ht.subset hc) with hc | hc
  · exact ⟨c, hc, hquery⟩
  · rw [List.mem_singleton.mp hc] at hquery
    cases hquery

/-- The area is not the path of the key as it is written, so the escapes of a page below it have to
be resolved. -/
theorem Unmatchable.escapesAgree_iff (h : Unmatchable key) :
    EscapesAgree key suffix ↔ (Percent.decode? suffix).isSome = true := by
  refine or_iff_right fun heq => ?_
  -- the character is not in the path as it is written
  obtain ⟨c, hc, hquery⟩ := h.exists_of_starts (heq ▸ Text.withTrailingSlash_starts)
  exact absurd hquery (Bool.eq_false_iff.mp (PagePath.isPathEnd_undecoded _ c hc))

/-- A page that is in the area has a character that starts a query or fragment from an escape. -/
theorem Unmatchable.exists_escaped (h : Unmatchable key)
    (hpage : (SidebarEntry.mk (areaOf key) groups).covers (PagePath.normalize page) = true) :
    ∃ c, startsQuery c = true ∧ c ∈ PagePath.normalize page ∧
      c ∉ PagePath.undecoded (Text.trim page) := by
  obtain ⟨c, hc, hquery⟩ := h.exists_of_starts (SidebarEntry.covers_iff.mp hpage)
  refine ⟨c, hquery, hc, fun hmem => ?_⟩
  exact absurd hquery (Bool.eq_false_iff.mp (PagePath.isPathEnd_undecoded _ c hmem))

/-- What is said of a refused key is never right: its own spelling is a page path in the area, and
so are the paths below it whose escapes can be resolved. It is right of the page paths that do not
spell such a character by an escape. -/
theorem unmatchable_key_matches (h : area? key = .error (.keyUnmatchable shown area))
    (groups : List SidebarGroup) :
    let entry : SidebarEntry := ⟨area, groups⟩
    entry.covers (PagePath.normalize key) = true ∧
      (∀ suffix, Below suffix → ¬HostTaken (Text.trim key) suffix →
        (entry.covers (PagePath.normalize (pageBelow key suffix)) = true ↔
          (Percent.decode? suffix).isSome = true)) ∧
      ∀ page, entry.covers (PagePath.normalize page) = true →
        ∃ c, startsQuery c = true ∧ c ∈ PagePath.normalize page ∧
          c ∉ PagePath.undecoded (Text.trim page) := by
  obtain ⟨hkey, -, rfl⟩ := unmatchable_of_area? h
  refine ⟨covers_own key groups, fun suffix hs hhost => ?_, fun page => hkey.exists_escaped⟩
  rw [SidebarEntry.covers_iff, ← hkey.escapesAgree_iff]
  exact starts_pageBelow_iff_of_plain hkey.plain hkey.single hs hhost

theorem area?_escapedQuery : area? "/faq%3F/".toList =
    .error (.keyUnmatchable "/faq%3F/".toList "/faq?/".toList) := rfl

/-- The page path that is spelled as such a key. -/
theorem unmatchable_key_matches_own :
    area? "/faq%3F/".toList = .error (.keyUnmatchable "/faq%3F/".toList "/faq?/".toList) ∧
      (SidebarEntry.mk "/faq?/".toList []).covers (PagePath.normalize "/faq%3F/".toList) = true :=
  ⟨area?_escapedQuery, (unmatchable_key_matches area?_escapedQuery []).1⟩

/-- It is not so that no page path matches a key that is refused for it. -/
theorem not_unmatchable : ¬∀ key shown area page,
    area? key = .error (.keyUnmatchable shown area) →
      (SidebarEntry.mk area []).covers (PagePath.normalize page) = false := by
  intro h
  exact absurd (h _ _ _ "/faq%3F/".toList area?_escapedQuery) (by decide)

end Sidebar

end Signpost
