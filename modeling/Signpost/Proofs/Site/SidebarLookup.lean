import Mathlib.Data.List.Nodup
import Mathlib.Data.List.Perm.Basic
import Signpost.Pattern.Size
import Signpost.Proofs.Site.Accepted
import Signpost.Proofs.Text.Trim

/-!
# Looking up a page in the sidebar

The entry for a page is the one with the longest area that the page path with a slash behind it
starts with. Areas are compared by their length in bytes and a tie goes to the later entry, but of
two different areas that one text starts with one is longer in bytes and in characters. Since no
area is declared twice, neither the tie nor the order of the entries can be noticed.
-/

namespace Signpost

namespace Text

theorem byteLength_append (s t : Text) : byteLength (s ++ t) = byteLength s + byteLength t := by
  induction s with
  | nil => exact (Nat.zero_add _).symm
  | cons c s ih =>
      show c.utf8Size + byteLength (s ++ t) = c.utf8Size + byteLength s + byteLength t
      rw [ih, Nat.add_assoc]

theorem byteLength_eq_zero {t : Text} (h : byteLength t = 0) : t = [] := by
  cases t with
  | nil => rfl
  | cons c t =>
      have hpos : 0 < c.utf8Size := c.utf8Size_pos
      have hsum : c.utf8Size + byteLength t = 0 := h
      omega

/-- Of two texts that one text starts with, the one with more bytes has more characters. -/
theorem length_lt_of_byteLength_le {p q t : Text} (hp : p <+: t) (hq : q <+: t) (hne : p ≠ q)
    (hle : byteLength p ≤ byteLength q) : p.length < q.length := by
  rcases List.prefix_or_prefix_of_prefix hp hq with ⟨s, rfl⟩ | ⟨s, rfl⟩
  · have hs : s ≠ [] := by
      rintro rfl
      exact hne (List.append_nil p).symm
    rw [List.length_append]
    exact Nat.lt_add_of_pos_right (List.length_pos_iff.mpr hs)
  · rw [byteLength_append] at hle
    have hs : s = [] := byteLength_eq_zero (by omega)
    exact absurd (hs ▸ List.append_nil q) hne

end Text

/-! ## Areas -/

theorem PagePath.startsWith_normalize (t : Text) :
    Text.startsWith ['/'] (PagePath.normalize t) = true := by
  rw [PagePath.normalize]
  dsimp only
  split
  · rfl
  · split
    · assumption
    · rfl

/-- An area starts and ends with a slash. -/
theorem Sidebar.area?_slashes {key area : Text} (h : Sidebar.area? key = .ok area) :
    Text.startsWith ['/'] area = true ∧ Text.endsWith ['/'] area = true := by
  simp only [Sidebar.area?] at h
  split at h
  · exact nomatch h
  · split at h
    · exact nomatch h
    · split at h
      · exact nomatch h
      · obtain rfl := Except.ok.inj h
        exact ⟨Text.startsWith_withTrailingSlash (PagePath.startsWith_normalize _),
          Text.endsWith_withTrailingSlash⟩

theorem Sidebar.Accepted.slashes [Pattern.SizeTest] {raw : Entries (List Draft.Group)}
    {sidebar : Sidebar} (h : Sidebar.Accepted raw sidebar) :
    ∀ entry ∈ sidebar,
      Text.startsWith ['/'] entry.area = true ∧ Text.endsWith ['/'] entry.area = true :=
  forall_mem_of_accepted h.entries fun _ _ he => Sidebar.area?_slashes he.area

/-- Acceptance does not depend on the order in which the entries are declared. -/
theorem Sidebar.Accepted.perm [Pattern.SizeTest] {raw raw' : Entries (List Draft.Group)}
    {sidebar : Sidebar} (h : Sidebar.Accepted raw sidebar) (hperm : raw.Perm raw') :
    ∃ sidebar', sidebar'.Perm sidebar ∧ Sidebar.Accepted raw' sidebar' := by
  obtain ⟨sidebar', hentries, hsidebar⟩ := List.perm_comp_forall₂ hperm.symm h.entries
  refine ⟨sidebar', hsidebar, hentries, ?_⟩
  exact (hsidebar.map SidebarEntry.area).nodup_iff.mpr h.areas

/-! ## The longest area -/

/-- The two ways in which an entry covers a page path are one: the path with a slash behind it
starts with the area. -/
theorem SidebarEntry.covers_iff {entry : SidebarEntry} {path : Text} :
    entry.covers path = true ↔ entry.area <+: path ++ ['/'] := by
  rw [SidebarEntry.covers, Bool.or_eq_true, beq_iff_eq, Text.startsWith, List.isPrefixOf_iff_prefix,
    List.prefix_concat_iff, or_comm]

/-- The entry of a sidebar whose area is the longest that a text starts with. -/
structure SidebarEntry.Longest (sidebar : Sidebar) (target : Text) (entry : SidebarEntry) :
    Prop where
  mem : entry ∈ sidebar
  starts : entry.area <+: target
  longest : ∀ other ∈ sidebar, other.area <+: target → other ≠ entry →
    other.area.length < entry.area.length

/-- Folding with `longer` gives one of the entries, and no entry has more bytes. -/
theorem Sidebar.foldl_longer (best : SidebarEntry) (entries : Sidebar) :
    ∃ entry, entries.foldl Sidebar.longer (some best) = some entry ∧ entry ∈ best :: entries ∧
      ∀ other ∈ best :: entries, Text.byteLength other.area ≤ Text.byteLength entry.area := by
  induction entries generalizing best with
  | nil => exact ⟨best, rfl, List.mem_cons_self, List.forall_mem_singleton.mpr (Nat.le_refl _)⟩
  | cons next rest ih =>
      rw [List.foldl_cons, Sidebar.longer]
      split
      · rename_i hle
        obtain ⟨entry, hfold, hmem, hmax⟩ := ih next
        have hnext := hmax next List.mem_cons_self
        exact ⟨entry, hfold, List.mem_cons_of_mem _ hmem,
          List.forall_mem_cons.mpr ⟨Nat.le_trans hle hnext, hmax⟩⟩
      · rename_i hlt
        obtain ⟨entry, hfold, hmem, hmax⟩ := ih best
        obtain ⟨hbest, hrest⟩ := List.forall_mem_cons.mp hmax
        refine ⟨entry, hfold, ?_, ?_⟩
        · rcases List.mem_cons.mp hmem with rfl | hmem
          · exact List.mem_cons_self
          · exact List.mem_cons_of_mem _ (List.mem_cons_of_mem _ hmem)
        · refine List.forall_mem_cons.mpr ⟨hbest, List.forall_mem_cons.mpr ⟨?_, hrest⟩⟩
          omega

theorem Sidebar.entryFor?_eq_none {sidebar : Sidebar} {page : Text} :
    sidebar.entryFor? page = none ↔
      ∀ entry ∈ sidebar, ¬entry.area <+: PagePath.normalize page ++ ['/'] := by
  rw [Sidebar.entryFor?]
  simp only [← SidebarEntry.covers_iff, ← List.filter_eq_nil_iff]
  cases sidebar.filter (·.covers (PagePath.normalize page)) with
  | nil => exact iff_of_true rfl rfl
  | cons best entries =>
      obtain ⟨entry, hfold, -, -⟩ := Sidebar.foldl_longer best entries
      refine iff_of_false ?_ (List.cons_ne_nil _ _)
      intro h
      exact nomatch hfold.symm.trans h

/-- What is found is the longest, given that the areas differ. -/
theorem Sidebar.longest_of_entryFor? {sidebar : Sidebar} {page : Text} {entry : SidebarEntry}
    (areas : (sidebar.map SidebarEntry.area).Nodup) (h : sidebar.entryFor? page = some entry) :
    SidebarEntry.Longest sidebar (PagePath.normalize page ++ ['/']) entry := by
  rw [Sidebar.entryFor?] at h
  have hcovers : ∀ other, other ∈ sidebar.filter (·.covers (PagePath.normalize page)) ↔
      other ∈ sidebar ∧ other.area <+: PagePath.normalize page ++ ['/'] := by
    intro other
    rw [List.mem_filter, SidebarEntry.covers_iff]
  cases hf : sidebar.filter (·.covers (PagePath.normalize page)) with
  | nil =>
      rw [hf] at h
      exact nomatch h
  | cons best entries =>
      rw [hf] at h hcovers
      obtain ⟨found, hfold, hmem, hmax⟩ := Sidebar.foldl_longer best entries
      obtain rfl := Option.some.inj (hfold.symm.trans h)
      obtain ⟨hin, hstarts⟩ := (hcovers found).mp hmem
      refine ⟨hin, hstarts, ?_⟩
      intro other hother hprefix hne
      have hdiffer : other.area ≠ found.area := fun heq =>
        hne (List.inj_on_of_nodup_map areas hother hin heq)
      exact Text.length_lt_of_byteLength_le hprefix hstarts hdiffer
        (hmax other ((hcovers other).mpr ⟨hother, hprefix⟩))

theorem Sidebar.entryFor?_eq_some {sidebar : Sidebar} {page : Text} {entry : SidebarEntry}
    (areas : (sidebar.map SidebarEntry.area).Nodup) :
    sidebar.entryFor? page = some entry ↔
      SidebarEntry.Longest sidebar (PagePath.normalize page ++ ['/']) entry := by
  refine ⟨Sidebar.longest_of_entryFor? areas, fun h => ?_⟩
  cases hfound : sidebar.entryFor? page with
  | none => exact absurd h.starts (Sidebar.entryFor?_eq_none.mp hfound entry h.mem)
  | some found =>
      have hlongest := Sidebar.longest_of_entryFor? areas hfound
      -- two longest entries would each be shorter than the other
      have heq : found = entry := by
        by_contra hne
        have h₁ := h.longest found hlongest.mem hlongest.starts hne
        have h₂ := hlongest.longest entry h.mem h.starts (Ne.symm hne)
        exact absurd h₁ (Nat.lt_asymm h₂)
      rw [heq]

theorem SidebarEntry.Longest.perm {sidebar sidebar' : Sidebar} {target : Text}
    {entry : SidebarEntry} (h : SidebarEntry.Longest sidebar target entry)
    (hperm : sidebar.Perm sidebar') : SidebarEntry.Longest sidebar' target entry :=
  ⟨hperm.mem_iff.mp h.mem, h.starts, fun other hmem => h.longest other (hperm.mem_iff.mpr hmem)⟩

/-- Reordering the entries changes no lookup. -/
theorem Sidebar.entryFor?_perm {sidebar sidebar' : Sidebar} {page : Text}
    (areas : (sidebar.map SidebarEntry.area).Nodup) (hperm : sidebar.Perm sidebar') :
    sidebar'.entryFor? page = sidebar.entryFor? page := by
  have areas' := (hperm.map SidebarEntry.area).nodup_iff.mp areas
  refine Option.ext fun entry => ?_
  rw [Sidebar.entryFor?_eq_some areas, Sidebar.entryFor?_eq_some areas']
  exact ⟨fun h => h.perm hperm.symm, fun h => h.perm hperm⟩

/-- Longest-prefix lookup in every sidebar that a draft resolves to. Areas start and end with a
slash. A page without an entry starts with no area; otherwise it gets the one longest. Any order of
the drafted entries resolves as well and gives the page the same entry. -/
theorem Sidebar.entryFor?_of_resolve [Pattern.SizeTest] {field : FieldPath}
    {raw : Entries (List Draft.Group)} {sidebar : Sidebar}
    (h : (Sidebar.resolve field raw).result = .ok sidebar) (page : Text) :
    (∀ entry ∈ sidebar,
      Text.startsWith ['/'] entry.area = true ∧ Text.endsWith ['/'] entry.area = true) ∧
    (sidebar.entryFor? page = none ↔
      ∀ entry ∈ sidebar, ¬entry.area <+: PagePath.normalize page ++ ['/']) ∧
    (∀ entry, sidebar.entryFor? page = some entry ↔
      SidebarEntry.Longest sidebar (PagePath.normalize page ++ ['/']) entry) ∧
    ∀ (field' : FieldPath) (raw' : Entries (List Draft.Group)), raw.Perm raw' →
      ∃ sidebar', (Sidebar.resolve field' raw').result = .ok sidebar' ∧
        sidebar'.Perm sidebar ∧ sidebar'.entryFor? page = sidebar.entryFor? page := by
  have hacc := Sidebar.resolve_eq_pure.mp (Checked.result_eq_ok.mp h)
  refine ⟨hacc.slashes, Sidebar.entryFor?_eq_none,
    fun _ => Sidebar.entryFor?_eq_some hacc.areas, ?_⟩
  intro field' raw' hperm
  obtain ⟨sidebar', hsidebar, hacc'⟩ := hacc.perm hperm
  refine ⟨sidebar', Checked.result_eq_ok.mpr (Sidebar.resolve_eq_pure.mpr hacc'), hsidebar, ?_⟩
  exact Sidebar.entryFor?_perm hacc.areas hsidebar.symm

/-- Two nested areas, and a page in both. -/
theorem Sidebar.entryFor?_of_resolve_nested :
    (Sidebar.resolve [] [("/".toList, []), ("/guide".toList, [])]).result
        = .ok [⟨"/".toList, []⟩, ⟨"/guide/".toList, []⟩] ∧
      SidebarEntry.Longest [⟨"/".toList, []⟩, ⟨"/guide/".toList, []⟩] "/guide/start/".toList
        ⟨"/guide/".toList, []⟩ := by
  have h : (Sidebar.resolve [] [("/".toList, []), ("/guide".toList, [])]).result
      = .ok [⟨"/".toList, []⟩, ⟨"/guide/".toList, []⟩] := rfl
  refine ⟨h, ?_⟩
  exact ((Sidebar.entryFor?_of_resolve h "/guide/start".toList).2.2.1 _).mp rfl

end Signpost
