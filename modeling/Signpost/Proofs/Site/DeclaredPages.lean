import Signpost.Pattern.Size
import Signpost.Proofs.Site.Rules
import Signpost.Proofs.Site.SidebarLookup

/-!
# Pages spelled as keys

A sidebar key is itself the path of a page, and that page shows the groups of the key. There is one
exception: a page path that ends in a slash belongs to the area with a second slash as well, so where
that area is declared too it is the longer one and wins.
-/

namespace Signpost

theorem PagePath.normalize_trim (t : Text) :
    PagePath.normalize (Text.trim t) = PagePath.normalize t := by
  rw [PagePath.normalize, PagePath.normalize, Text.trim_trim]

namespace SidebarEntry

variable {sidebar : Sidebar} {entry other : SidebarEntry} {target : Text}

/-- Of two entries whose areas start each other the one that starts is shorter. -/
theorem length_lt_of_prefix (areas : (sidebar.map SidebarEntry.area).Nodup) (hentry : entry ∈ sidebar)
    (hother : other ∈ sidebar) (hne : other ≠ entry) (hlead : other.area <+: entry.area) :
    other.area.length < entry.area.length := by
  refine Nat.lt_of_le_of_ne hlead.length_le fun hlength => hne ?_
  exact List.inj_on_of_nodup_map areas hother hentry (hlead.eq_of_length hlength)

/-- An entry whose area is the whole text is the longest. -/
theorem longest_of_area_eq (areas : (sidebar.map SidebarEntry.area).Nodup) (hentry : entry ∈ sidebar)
    (harea : entry.area = target) : Longest sidebar target entry := by
  subst harea
  exact ⟨hentry, List.prefix_rfl, fun other hother hlead hne =>
    length_lt_of_prefix areas hentry hother hne hlead⟩

/-- An entry whose area is the text without its last slash is the longest when no area is the whole
text. -/
theorem longest_of_area_concat (areas : (sidebar.map SidebarEntry.area).Nodup)
    (hentry : entry ∈ sidebar) (hnone : ∀ other ∈ sidebar, other.area ≠ entry.area ++ ['/']) :
    Longest sidebar (entry.area ++ ['/']) entry := by
  refine ⟨hentry, List.prefix_append _ _, fun other hother hlead hne => ?_⟩
  refine length_lt_of_prefix areas hentry hother hne ?_
  exact (List.prefix_concat_iff.mp hlead).resolve_left (hnone other hother)

/-- Another entry whose area goes on from that of an entry with a second slash, behind a page path
that ends in the first. -/
structure Doubled (sidebar : Sidebar) (page : Text) (entry other : SidebarEntry) : Prop where
  mem : other ∈ sidebar
  slash : Text.endsWith ['/'] (PagePath.normalize page) = true
  area : other.area = entry.area ++ ['/']

end SidebarEntry

open SidebarEntry (Doubled)

/-- A page spelled as a key, in every sidebar that a draft resolves to: it shows the entry that this
key was resolved to, unless the area of another entry doubles the slash that the page path ends in,
and then it shows that other entry. -/
theorem Sidebar.entryFor?_key [Pattern.SizeTest] {field : FieldPath}
    {raw : Entries (List Draft.Group)} {sidebar : Sidebar}
    (h : (Sidebar.resolve field raw).result = .ok sidebar) :
    List.Forall₂ (fun declared entry =>
      SidebarEntry.Accepted declared entry ∧
      ((∀ other, ¬Doubled sidebar declared.1 entry other) →
        sidebar.entryFor? declared.1 = some entry) ∧
      ∀ other, Doubled sidebar declared.1 entry other →
        sidebar.entryFor? declared.1 = some other) raw sidebar := by
  have hacc := Sidebar.resolve_eq_pure.mp (Checked.result_eq_ok.mp h)
  obtain ⟨hlength, hentries⟩ := List.forall₂_iff_zip.mp hacc.entries
  refine List.forall₂_iff_zip.mpr ⟨hlength, fun {declared entry} hzip => ?_⟩
  have hentry : entry ∈ sidebar := (List.of_mem_zip hzip).2
  have haccepted := hentries hzip
  have harea : Text.withTrailingSlash (PagePath.normalize declared.1) = entry.area := by
    rw [← PagePath.normalize_trim]
    exact (Sidebar.area?_eq_ok.mp haccepted.area).2
  refine ⟨haccepted, fun hnone => ?_, fun other hdoubled => ?_⟩
  · rw [Sidebar.entryFor?_eq_some hacc.areas]
    by_cases hslash : Text.endsWith ['/'] (PagePath.normalize declared.1) = true
    · rw [Text.withTrailingSlash, if_pos hslash] at harea
      rw [harea]
      exact SidebarEntry.longest_of_area_concat hacc.areas hentry fun other hother hdouble =>
        hnone other ⟨hother, hslash, hdouble⟩
    · rw [Text.withTrailingSlash, if_neg hslash] at harea
      exact SidebarEntry.longest_of_area_eq hacc.areas hentry harea.symm
  · rw [Sidebar.entryFor?_eq_some hacc.areas]
    rw [Text.withTrailingSlash, if_pos hdoubled.slash] at harea
    refine SidebarEntry.longest_of_area_eq hacc.areas hdoubled.mem ?_
    rw [hdoubled.area, harea]

/-- Two keys with a slash at their end, one of them twice. -/
def Draft.doubledKeys : Entries (List Draft.Group) :=
  [("/guide/".toList, []), ("/guide//".toList, [])]

/-- The entries that the two keys are resolved to. -/
def Sidebar.doubledAreas : Sidebar := [⟨"/guide/".toList, []⟩, ⟨"/guide//".toList, []⟩]

theorem Sidebar.resolve_doubledKeys :
    (Sidebar.resolve [] Draft.doubledKeys).result = .ok Sidebar.doubledAreas := rfl

/-- The page of the first key shows the second entry. -/
theorem Sidebar.entryFor?_key_doubled :
    (Sidebar.resolve [] Draft.doubledKeys).result = .ok Sidebar.doubledAreas ∧
      Sidebar.doubledAreas.entryFor? "/guide/".toList = some ⟨"/guide//".toList, []⟩ := by
  refine ⟨Sidebar.resolve_doubledKeys, ?_⟩
  have hfirst := (List.forall₂_cons.mp (Sidebar.entryFor?_key Sidebar.resolve_doubledKeys)).1
  refine hfirst.2.2 ⟨"/guide//".toList, []⟩ ⟨?_, rfl, rfl⟩
  exact List.mem_cons_of_mem _ List.mem_cons_self

/-- So a page spelled as a key need not show the groups of that key. -/
theorem Sidebar.entryFor?_key_not_own :
    ¬∀ (field : FieldPath) (raw : Entries (List Draft.Group)) (sidebar : Sidebar),
      (Sidebar.resolve field raw).result = .ok sidebar →
        List.Forall₂ (fun declared entry => sidebar.entryFor? declared.1 = some entry)
          raw sidebar := by
  intro h
  have hfirst := (List.forall₂_cons.mp (h [] _ _ Sidebar.resolve_doubledKeys)).1
  exact absurd hfirst (by decide)

end Signpost
