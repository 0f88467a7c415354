import Signpost.Pattern.Size
import Signpost.Proofs.Site.Idempotence

/-!
# What a second resolution can change

Resolving the draft of a resolved site comes down to resolving the draft of its sidebar: every other
part is accepted as itself. The groups of an entry are accepted as themselves too, so all that is
left to a second resolution is the area that each key declares. It either gives the site with these
areas, or refuses some of the keys.
-/

namespace Signpost

section Resolution

variable {sizeTest : Pattern.SizeTest}

/-! ## The sidebar -/

namespace Sidebar

variable {field : FieldPath}

/-- Where the groups of every entry are in order, problems are met at keys alone. -/
theorem problems_at_keys {seen : List (Text × Text)} {raw : Entries (List Draft.Group)}
    (hgroups : ∀ declared ∈ raw, ∃ groups, List.Forall₂ SidebarGroup.Accepted declared.2 groups) :
    ∀ d ∈ (resolveFrom field seen raw).problems,
      ∃ declared ∈ raw, d.field = field.push (.key declared.1) := by
  induction raw generalizing seen with
  | nil =>
      intro d hd
      exact nomatch hd
  | cons first rest ih =>
      obtain ⟨key, written⟩ := first
      obtain ⟨⟨groups, haccepted⟩, hrest⟩ := List.forall_mem_cons.mp hgroups
      -- a refused key is reported, and the rest is gone through whether it is refused or not
      have hrefused (problem : Problem) (d : Diagnostic)
          (hd : d ∈ (do Checked.report (field.push (.key key)) problem
                        resolveFrom field seen rest).problems) :
          ∃ declared ∈ (key, written) :: rest, d.field = field.push (.key declared.1) := by
        rcases Checked.mem_problems_bind.mp hd with hd | hd
        · obtain rfl := List.mem_singleton.mp hd
          exact ⟨_, List.mem_cons_self, rfl⟩
        · obtain ⟨declared, hmem, heq⟩ := ih hrest d hd
          exact ⟨declared, List.mem_cons_of_mem _ hmem, heq⟩
      intro d hd
      rw [resolveFrom] at hd
      cases harea : area? key with
      | error problem =>
          rw [harea] at hd
          exact hrefused problem d hd
      | ok area =>
          rw [harea] at hd
          dsimp only at hd
          cases hseen : seen.find? (·.1 == area) with
          | some found =>
              rw [hseen] at hd
              exact hrefused _ d hd
          | none =>
              rw [hseen] at hd
              dsimp only at hd
              rw [SidebarEntry.groups_eq_pure.mpr haccepted, Checked.pure_bind,
                Checked.problems_bind_pure] at hd
              obtain ⟨declared, hmem, heq⟩ := ih hrest d hd
              exact ⟨declared, List.mem_cons_of_mem _ hmem, heq⟩

end Sidebar

theorem SidebarEntry.groups_unique {raw : List Draft.Group} {groups groups' : List SidebarGroup}
    (h : List.Forall₂ SidebarGroup.Accepted raw groups)
    (h' : List.Forall₂ SidebarGroup.Accepted raw groups') : groups = groups' := by
  have hpure := (@SidebarEntry.groups_eq_pure sizeTest [] _ _).mpr h
  exact Checked.pure_inj.mp (hpure.symm.trans (SidebarEntry.groups_eq_pure.mpr h'))

/-- An entry whose area is declared by a key, and that area taken for a key itself. -/
structure SidebarEntry.Redeclared (entry renewed : SidebarEntry) : Prop where
  area : Sidebar.area? entry.area = .ok renewed.area
  groups : renewed.groups = entry.groups

theorem Sidebar.Accepted.draft_groups {raw : Entries (List Draft.Group)} {sidebar : Sidebar}
    (h : Sidebar.Accepted raw sidebar) : ∀ declared ∈ sidebar.toDraft,
      ∃ groups, List.Forall₂ SidebarGroup.Accepted declared.2 groups :=
  List.forall_mem_map.mpr fun entry hentry => ⟨entry.groups, h.groups entry hentry⟩

theorem Sidebar.Accepted.redeclared {raw : Entries (List Draft.Group)} {sidebar renewed : Sidebar}
    (h : Sidebar.Accepted raw sidebar) (h' : Sidebar.Accepted sidebar.toDraft renewed) :
    List.Forall₂ SidebarEntry.Redeclared sidebar renewed := by
  have hentries := h'.entries
  rw [Sidebar.toDraft, List.forall₂_map_left_iff] at hentries
  obtain ⟨hlength, hentry⟩ := List.forall₂_iff_zip.mp hentries
  refine List.forall₂_iff_zip.mpr ⟨hlength, ?_⟩
  intro entry entry' hzip
  have haccepted := hentry hzip
  refine ⟨haccepted.area, ?_⟩
  exact SidebarEntry.groups_unique haccepted.groups (h.groups entry (List.of_mem_zip hzip).1)

/-! ## The parts around it -/

/-- The draft of an accepted theme is resolved as far as its sidebar is. -/
theorem Theme.Accepted.resolve_toDraft {field : FieldPath} {raw : Draft.Theme} {theme : Theme}
    (h : Theme.Accepted raw theme) :
    Theme.resolve field theme.toDraft = (do
      let sidebar ← Sidebar.resolve (field.field "sidebar") theme.sidebar.toDraft
      return { theme with sidebar }) := by
  have hempty : Sidebar.Accepted [] [] := ⟨.nil, List.nodup_nil⟩
  have hbeside := h.withSidebar hempty
  have hlogo : Checked.optional (fun logo => Link.check (some logo) (field.field "logo"))
      theme.toDraft.logo = pure theme.logo :=
    (Checked.optional_eq_pure fun _ _ => Link.check_eq_pure).mpr hbeside.logo
  have hnav : NavItem.resolveAll (field.field "nav") (theme.toDraft.nav.getD []) = pure theme.nav :=
    NavItem.resolveAll_eq_pure.mpr hbeside.nav
  have hsocial : Checked.each
      (fun i link => SocialLink.resolve ((field.field "socialLinks").push (.index i)) link)
      (theme.toDraft.socialLinks.getD []) = pure (theme.socialLinks.map some) :=
    Theme.socialLinks_eq_pure.mpr ⟨theme.socialLinks, rfl, hbeside.socialLinks⟩
  have hedit : Checked.optional (EditLink.resolve (field.field "editLink")) theme.toDraft.editLink
      = pure theme.editLink :=
    (Checked.optional_eq_pure fun _ _ => EditLink.resolve_eq_pure).mpr hbeside.editLink
  have hfooter : theme.toDraft.footer.bind Footer.resolve = theme.footer := hbeside.footer
  have hfound : (theme.socialLinks.map some).filterMap id = theme.socialLinks := by simp
  simp only [Theme.resolve, hlogo, hnav, hsocial, hedit, hfooter, hfound, Checked.pure_bind]
  rfl

/-- The draft of an accepted site is resolved as far as its sidebar is. -/
theorem Site.Accepted.check_toDraft {raw : Draft} {site : Site} (h : Site.Accepted raw site) :
    Site.check site.toDraft = (do
      let sidebar ← Sidebar.resolve ((FieldPath.field [] "themeConfig").field "sidebar")
        site.theme.sidebar.toDraft
      return { site with theme := { site.theme with sidebar } }) := by
  have hbeside := h.withTheme h.theme
  have hhead : Checked.each
      (fun i tag => HeadTag.resolve ((FieldPath.field [] "head").push (.index i)) tag)
      (site.toDraft.head.getD []) = pure site.head :=
    (Checked.each_eq_pure (R := HeadTag.Accepted) fun _ _ _ => HeadTag.resolve_eq_pure).mpr
      hbeside.head
  have hdescription : (site.toDraft.description.map Text.trim).getD [] = site.description :=
    hbeside.description
  have htheme : site.toDraft.theme.getD {} = site.theme.toDraft := rfl
  simp only [Site.check, Site.resolveTitle_eq_pure.mpr hbeside.title, Checked.pure_bind, hhead,
    Site.resolveLang_eq_pure.mpr ⟨hbeside.lang, hbeside.isLanguageTag⟩,
    Site.resolveBase_eq_pure.mpr ⟨hbeside.absolute, hbeside.unspaced, hbeside.base⟩,
    hdescription, htheme, h.theme.resolve_toDraft, Checked.bind_assoc]
  rfl

/-! ## What comes out -/

/-- What may become of a site whose draft is resolved. -/
inductive Site.Renewal (site : Site) : Except (List Diagnostic) Site → Prop where
  /-- The site again, with the areas that its own areas declare. -/
  | renewed (sidebar : Sidebar) :
      List.Forall₂ SidebarEntry.Redeclared site.theme.sidebar sidebar →
      Renewal site (.ok { site with theme := { site.theme with sidebar } })
  /-- Problems, each at the key of an entry. -/
  | refused (diagnostics : List Diagnostic) :
      (∀ d ∈ diagnostics, ∃ entry ∈ site.theme.sidebar,
        d.field = ((FieldPath.field [] "themeConfig").field "sidebar").push (.key entry.area)) →
      Renewal site (.error diagnostics)

/-- Resolving the draft of a resolved site gives the site exactly when each area of its sidebar
declares itself. In any case it either gives the site with other areas, entry by entry and with the
same groups, or meets problems at sidebar keys alone. -/
theorem Site.resolve_toDraft_renewal [Pattern.SizeTest] {raw : Draft} {site : Site}
    (h : Site.resolve raw = .ok site) :
    (Site.resolve site.toDraft = .ok site ↔
      ∀ entry ∈ site.theme.sidebar, Sidebar.area? entry.area = .ok entry.area) ∧
    Site.Renewal site (Site.resolve site.toDraft) := by
  have hacc := Site.resolve_eq_ok.mp h
  refine ⟨?_, ?_⟩
  · rw [Site.resolve_eq_ok, hacc.toDraft_iff, hacc.theme.toDraft_iff,
      hacc.theme.sidebar.toDraft_iff]
  · rw [Site.resolve, hacc.check_toDraft, Checked.result_bind_pure]
    cases hsidebar : (Sidebar.resolve ((FieldPath.field [] "themeConfig").field "sidebar")
        site.theme.sidebar.toDraft).result with
    | ok sidebar =>
        have haccepted := Sidebar.resolve_eq_pure.mp (Checked.result_eq_ok.mp hsidebar)
        exact .renewed sidebar (hacc.theme.sidebar.redeclared haccepted)
    | error diagnostics =>
        obtain ⟨rfl, -⟩ := Checked.result_eq_error.mp hsidebar
        refine .refused _ ?_
        intro d hd
        obtain ⟨declared, hmem, hfield⟩ := Sidebar.problems_at_keys hacc.theme.sidebar.draft_groups d hd
        obtain ⟨entry, hentry, rfl⟩ := List.mem_map.mp hmem
        exact ⟨entry, hentry, hfield⟩

end Resolution

/-- A draft with two keys, the first of which escapes a percent sign. -/
def Draft.withEscapedKey : Draft :=
  { title := some ['X'], theme := some { sidebar := some [("/%2541".toList, []), ("/A".toList, [])] } }

/-- The site of that draft. -/
def Site.withEscapedArea : Site :=
  { Site.withArea [] with theme := { sidebar := [⟨"/%41/".toList, []⟩, ⟨"/A/".toList, []⟩] } }

/-- The first area declares the second one, which is then refused at its own key, although it
declares itself. -/
theorem Site.resolve_toDraft_renewal_collision :
    Site.resolve Draft.withEscapedKey = .ok Site.withEscapedArea ∧
      Site.resolve Site.withEscapedArea.toDraft = .error
        [⟨((FieldPath.field [] "themeConfig").field "sidebar").push (.key "/A/".toList),
          .repeatedArea "/A/".toList "/%41/".toList⟩] ∧
      Site.Renewal Site.withEscapedArea (Site.resolve Site.withEscapedArea.toDraft) := by
  have h : Site.resolve Draft.withEscapedKey = .ok Site.withEscapedArea := rfl
  exact ⟨h, rfl, (Site.resolve_toDraft_renewal h).2⟩

end Signpost
