import Signpost.Pattern.Size
import Signpost.Proofs.PagePath
import Signpost.Proofs.Site.Rules
import Signpost.Proofs.Site.SidebarLookup

/-!
# Pages below a key

A page path that is spelled as a key with further segments behind it belongs to the area of the key,
so the entry found for it has an area at least as long. There are two exceptions. Where the path of
the key changes as its escapes are resolved and the segments hold an escape that cannot be resolved,
the escapes of the page path stay and it does not start with the area. And below a key of slashes and
backslashes alone the first segment may be read as a host.
-/

namespace Signpost

open PagePath (Below HostTaken Plain ReadAlike)

namespace Sidebar

variable {key area suffix : Text} {sidebar : Sidebar} {entry : SidebarEntry}

/-- The page path of a key with segments behind it. -/
def pageBelow (key suffix : Text) : Text := Text.withTrailingSlash (Text.trim key) ++ suffix

/-- The escapes of a key and of the segments behind it are resolved or kept together: those of the
segments can be resolved, or resolving those of the key changes nothing. -/
def EscapesAgree (key suffix : Text) : Prop :=
  areaOf key = Text.withTrailingSlash (PagePath.undecoded (Text.trim key)) ∨
    (Percent.decode? suffix).isSome = true

/-- A valid key is a plain path. -/
theorem KeyValid.plainPath (h : KeyValid key) : Plain (Text.trim key) := by
  obtain ⟨rest, hrest⟩ := h.absolute
  exact ⟨⟨rest, hrest.symm⟩, h.plain, Text.last_trim⟩

/-- The normalized path of a page below a plain path goes on from the area that the path declares as
a key exactly when their escapes agree. -/
theorem starts_pageBelow_iff_of_plain (h : Plain (Text.trim key))
    (hsingle : ¬['/', '/'] <+: Text.trim key) (hs : Below suffix)
    (hhost : ¬HostTaken (Text.trim key) suffix) :
    areaOf key <+: PagePath.normalize (pageBelow key suffix) ++ ['/'] ↔ EscapesAgree key suffix := by
  by_cases hroot : Text.trim key = ['/']
  · -- every page is below the root
    have harea : areaOf key = ['/'] := by
      rw [areaOf, hroot]
      rfl
    have hagree : EscapesAgree key suffix := by
      rw [EscapesAgree, harea, hroot]
      exact .inl rfl
    refine iff_of_true ?_ hagree
    rw [harea]
    exact (List.isPrefixOf_iff_prefix.mp (PagePath.startsWith_normalize _)).trans
      (List.prefix_append _ _)
  · exact (h.readAlike hsingle hroot hs hhost).starts_iff h hs

theorem starts_pageBelow_iff (h : KeyValid key) (hs : Below suffix)
    (hhost : ¬HostTaken (Text.trim key) suffix) :
    areaOf key <+: PagePath.normalize (pageBelow key suffix) ++ ['/'] ↔ EscapesAgree key suffix :=
  starts_pageBelow_iff_of_plain h.plainPath h.single hs hhost

/-- For a page of an area an entry is found, and its area is at least as long. -/
theorem exists_entryFor? {page : Text} (areas : (sidebar.map SidebarEntry.area).Nodup)
    (hentry : entry ∈ sidebar) (hcovers : entry.covers (PagePath.normalize page) = true) :
    ∃ found, sidebar.entryFor? page = some found ∧
      Text.byteLength entry.area ≤ Text.byteLength found.area := by
  rw [SidebarEntry.covers_iff] at hcovers
  cases hfound : sidebar.entryFor? page with
  | none => exact absurd hcovers (entryFor?_eq_none.mp hfound entry hentry)
  | some found =>
      refine ⟨found, rfl, ?_⟩
      have hlongest := longest_of_entryFor? areas hfound
      by_cases heq : entry = found
      · rw [heq]
      · have hlt := hlongest.longest entry hentry hcovers heq
        obtain ⟨rest, hrest⟩ :=
          List.prefix_of_prefix_length_le hcovers hlongest.starts (Nat.le_of_lt hlt)
        rw [← hrest, Text.byteLength_append]
        exact Nat.le_add_right _ _

/-- The pages below each key, in every sidebar that a draft resolves to: a page whose first segment
is not taken for a host belongs to the area of the key exactly when its escapes agree with those of
the key, and then an entry is found for it whose area is at least as long. -/
theorem entryFor?_pageBelow [Pattern.SizeTest] {field : FieldPath} {raw : Entries (List Draft.Group)}
    (h : (Sidebar.resolve field raw).result = .ok sidebar) :
    List.Forall₂ (fun declared entry => ∀ suffix, Below suffix →
      ¬HostTaken (Text.trim declared.1) suffix →
        (entry.covers (PagePath.normalize (pageBelow declared.1 suffix)) = true ↔
          EscapesAgree declared.1 suffix) ∧
        (EscapesAgree declared.1 suffix →
          ∃ found, sidebar.entryFor? (pageBelow declared.1 suffix) = some found ∧
            Text.byteLength entry.area ≤ Text.byteLength found.area)) raw sidebar := by
  have hacc := Sidebar.resolve_eq_pure.mp (Checked.result_eq_ok.mp h)
  obtain ⟨hlength, hentries⟩ := List.forall₂_iff_zip.mp hacc.entries
  refine List.forall₂_iff_zip.mpr ⟨hlength, fun {declared entry} hzip suffix hs hhost => ?_⟩
  obtain ⟨hkey, harea⟩ := area?_eq_ok.mp (hentries hzip).area
  have hcovers : entry.covers (PagePath.normalize (pageBelow declared.1 suffix)) = true ↔
      EscapesAgree declared.1 suffix := by
    rw [SidebarEntry.covers_iff, ← harea]
    exact starts_pageBelow_iff hkey hs hhost
  exact ⟨hcovers, fun hagree =>
    exists_entryFor? hacc.areas (List.of_mem_zip hzip).2 (hcovers.mpr hagree)⟩

/-- A key with an escape and no slash at its end. -/
def escapedKeys : Entries (List Draft.Group) := [("/my%20guide".toList, [])]

theorem resolve_escapedKeys :
    (Sidebar.resolve [] escapedKeys).result = .ok [⟨"/my guide/".toList, []⟩] := rfl

/-- A page below it, and the entry that is found. -/
theorem entryFor?_pageBelow_spaced :
    (Sidebar.resolve [] escapedKeys).result = .ok [⟨"/my guide/".toList, []⟩] ∧
      ∃ found, entryFor? [⟨"/my guide/".toList, []⟩] "/my%20guide/first%20steps".toList = some found ∧
        Text.byteLength "/my guide/".toList ≤ Text.byteLength found.area := by
  refine ⟨resolve_escapedKeys, ?_⟩
  have hfirst := (List.forall₂_cons.mp (entryFor?_pageBelow resolve_escapedKeys)).1
  refine (hfirst "first%20steps".toList (by decide) ?_).2 (.inr rfl)
  exact fun htaken => absurd (htaken.slashes 'm' (by decide)) (by decide)

/-- An escape that cannot be resolved takes a page out of the area of its key. -/
theorem entryFor?_pageBelow_broken :
    ¬∀ (field : FieldPath) (raw : Entries (List Draft.Group)) (sidebar : Sidebar),
      (Sidebar.resolve field raw).result = .ok sidebar →
        List.Forall₂ (fun declared entry => ∀ suffix, Below suffix →
          entry.covers (PagePath.normalize (pageBelow declared.1 suffix)) = true ∧
            ∃ found, sidebar.entryFor? (pageBelow declared.1 suffix) = some found ∧
              Text.byteLength entry.area ≤ Text.byteLength found.area) raw sidebar := by
  intro h
  have hfirst := (List.forall₂_cons.mp (h [] _ _ resolve_escapedKeys)).1
  have hcovers := (hfirst "%FF".toList (by decide)).1
  exact absurd hcovers (by decide)

/-- Below a slash and a backslash the first segment is a host. -/
example : SidebarEntry.covers ⟨"/\\/".toList, []⟩ (PagePath.normalize "/\\/[::]".toList) = false := by
  decide

end Sidebar

end Signpost
