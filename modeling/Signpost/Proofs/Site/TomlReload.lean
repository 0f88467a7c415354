import Signpost.Pattern.Size
import Signpost.Proofs.Site.Idempotence
import Signpost.Proofs.Site.TomlRoundTrip

/-!
# Sites loaded from their TOML text

A site that resolves to itself is loaded from its TOML text with every part in place, except that
the sidebar entries without groups have come to the front. The site itself is loaded exactly when
they stand there already.
-/

namespace Signpost

namespace Sidebar

/-- The entries without groups, then the others; each of the two classes keeps its order. -/
def bareFirst (sidebar : Sidebar) : Sidebar :=
  sidebar.filter (·.groups.isEmpty) ++ sidebar.filter (!·.groups.isEmpty)

/-- No entry with groups stands before one without. -/
def BareLead (sidebar : Sidebar) : Prop :=
  sidebar.Pairwise fun first second => second.groups = [] → first.groups = []

variable {sidebar : Sidebar}

theorem bareFirst_perm : sidebar.bareFirst.Perm sidebar := List.filter_append_perm _ _

theorem bareLead_bareFirst : sidebar.bareFirst.BareLead := by
  have hbare : ∀ entry ∈ sidebar.filter (·.groups.isEmpty), entry.groups = [] := by
    intro entry hentry
    exact List.isEmpty_iff.mp (List.mem_filter.mp hentry).2
  have hothers : ∀ entry ∈ sidebar.filter (!·.groups.isEmpty), entry.groups ≠ [] := by
    intro entry hentry
    simpa using (List.mem_filter.mp hentry).2
  rw [BareLead, bareFirst, List.pairwise_append]
  refine ⟨?_, ?_, ?_⟩
  · exact List.pairwise_of_forall_mem_list fun first hfirst _ _ _ => hbare first hfirst
  · exact List.pairwise_of_forall_mem_list fun _ _ second hsecond h =>
      absurd h (hothers second hsecond)
  · exact fun first hfirst _ _ _ => hbare first hfirst

theorem bareFirst_eq_self : sidebar.bareFirst = sidebar ↔ sidebar.BareLead := by
  constructor
  · intro h
    rw [← h]
    exact bareLead_bareFirst
  · intro h
    induction sidebar with
    | nil => rfl
    | cons entry rest ih =>
        obtain ⟨hfirst, hrest⟩ := List.pairwise_cons.mp h
        by_cases hbare : entry.groups = []
        · rw [bareFirst, List.filter_cons_of_pos (by simp [hbare]),
            List.filter_cons_of_neg (by simp [hbare]), List.cons_append]
          exact congrArg (entry :: ·) (ih hrest)
        · -- behind an entry with groups there is none without
          have hothers : ∀ other ∈ entry :: rest, other.groups ≠ [] := by
            refine List.forall_mem_cons.mpr ⟨hbare, ?_⟩
            intro other hother hnil
            exact hbare (hfirst other hother hnil)
          rw [bareFirst, List.filter_eq_nil_iff.mpr (by simpa using hothers), List.nil_append,
            List.filter_eq_self]
          simpa using hothers

/-- The draft of the entries in that order is the draft of the entries, in that order. -/
theorem toDraft_bareFirst : sidebar.bareFirst.toDraft = Draft.bareEntriesFirst sidebar.toDraft := by
  simp only [bareFirst, toDraft, Draft.bareEntriesFirst, List.map_append, List.filter_map]
  simp [Function.comp_def]

/-- A sidebar that is accepted as itself is so in every order. -/
theorem Accepted.perm_self [Pattern.SizeTest] {sidebar' : Sidebar}
    (h : Sidebar.Accepted sidebar.toDraft sidebar) (hperm : sidebar.Perm sidebar') :
    Sidebar.Accepted sidebar'.toDraft sidebar' := by
  obtain ⟨hentries, hareas⟩ := h
  rw [toDraft, List.forall₂_map_left_iff, List.forall₂_same] at hentries
  refine ⟨?_, (hperm.map SidebarEntry.area).nodup_iff.mp hareas⟩
  rw [toDraft, List.forall₂_map_left_iff, List.forall₂_same]
  intro entry hentry
  exact hentries entry (hperm.mem_iff.mpr hentry)

end Sidebar

/-- The site with the bare entries of its sidebar first. -/
def Site.bareFirst (site : Site) : Site :=
  { site with theme := { site.theme with sidebar := site.theme.sidebar.bareFirst } }

theorem Site.toDraft_bareFirst {site : Site} : site.bareFirst.toDraft = site.toDraft.bareFirst := by
  have hsidebar : site.bareFirst.theme.sidebar.toDraft =
      Draft.bareEntriesFirst site.theme.sidebar.toDraft := Sidebar.toDraft_bareFirst
  rw [Site.toDraft, Theme.toDraft, hsidebar]
  rfl

theorem Site.bareFirst_eq_self {site : Site} :
    site.bareFirst = site ↔ site.theme.sidebar.BareLead := by
  rw [← Sidebar.bareFirst_eq_self]
  constructor
  · intro h
    exact congrArg (fun s : Site => s.theme.sidebar) h
  · intro h
    rw [Site.bareFirst, h]

/-- The site with its bare entries first resolves to itself when the site does. -/
theorem Site.resolve_toDraft_bareFirst [Pattern.SizeTest] {site : Site}
    (h : Site.resolve site.toDraft = .ok site) :
    Site.resolve site.bareFirst.toDraft = .ok site.bareFirst := by
  have hacc := Site.resolve_eq_ok.mp h
  have hsidebar := hacc.theme.sidebar.perm_self Sidebar.bareFirst_perm.symm
  exact Site.resolve_eq_ok.mpr (hacc.withTheme (hacc.theme.withSidebar hsidebar))

theorem Site.read_toml_bareFirst [Pattern.SizeTest] {site : Site}
    (h : Site.resolve site.toDraft = .ok site) (pretty : Bool) :
    Site.read .toml (site.render .toml pretty) = .ok (site.bareFirst, []) := by
  have hkeys := (Site.resolve_eq_ok.mp h).keysDistinct
  have hdecode : Toml.decode Draft.shape.decode (site.render .toml pretty) =
      .ok (site.toDraft.bareFirst, []) := Toml.decode_write (by decide) (Site.carries 0 hkeys)
  have hdraft : Draft.read .toml (site.render .toml pretty) = .ok (site.bareFirst.toDraft, []) := by
    rw [Draft.read, hdecode, Site.toDraft_bareFirst]
    rfl
  rw [Site.read, hdraft]
  change (do
    let found ← (Site.resolve site.bareFirst.toDraft).mapError LoadError.invalid
    return (found, [])) = _
  rw [Site.resolve_toDraft_bareFirst h]
  rfl

/-- A site that resolves to itself is loaded from its TOML text without unknown keys and with its
bare entries first. That is the site itself exactly when no entry with groups stands before one
without. -/
theorem Site.read_toml_eq_self_iff [Pattern.SizeTest] {site : Site}
    (h : Site.resolve site.toDraft = .ok site) (pretty : Bool) :
    Site.read .toml (site.render .toml pretty) = .ok (site.bareFirst, []) ∧
      (Site.read .toml (site.render .toml pretty) = .ok (site, []) ↔
        site.theme.sidebar.BareLead) := by
  have hread := Site.read_toml_bareFirst h pretty
  refine ⟨hread, ?_⟩
  rw [hread, ← Site.bareFirst_eq_self, Except.ok.injEq, Prod.mk.injEq]
  exact and_iff_left rfl

/-- A sidebar with groups in its last entry is loaded as it is. -/
theorem Site.read_toml_eq_self_bare :
    Site.resolve (Site.withAreas.bareFirst).toDraft = .ok Site.withAreas.bareFirst ∧
      Site.read .toml (Site.withAreas.bareFirst.render .toml true)
        = .ok (Site.withAreas.bareFirst, []) := by
  have h : Site.resolve (Site.withAreas.bareFirst).toDraft = .ok Site.withAreas.bareFirst := rfl
  exact ⟨h, (Site.read_toml_eq_self_iff h true).2.mpr Sidebar.bareLead_bareFirst⟩

/-- A site with an entry without groups behind one with groups is loaded as another one. -/
theorem Site.read_toml_reordered :
    ¬∀ (site : Site) (pretty : Bool), Site.resolve site.toDraft = .ok site →
      Site.read .toml (site.render .toml pretty) = .ok (site, []) := by
  intro h
  have hself : Site.resolve Site.withAreas.toDraft = .ok Site.withAreas := rfl
  have hread := (Site.read_toml_bareFirst hself true).symm.trans (h Site.withAreas true hself)
  exact absurd hread (by decide)

end Signpost
