import Signpost.Proofs.Site.Accepted
import Signpost.Proofs.Site.LanguageTags
import Signpost.Proofs.Text.Trim

/-!
# The rules for drafts

Each part of a draft has rules of its own, written here without resolvers, fields and problems.
`Site.resolve_succeeds_iff` says that resolution succeeds exactly for the drafts that keep all of
them: no rule goes unchecked, and nothing else is held against a draft.
-/

namespace Signpost

variable {sizeTest : Pattern.SizeTest}

/-! ## Texts -/

/-- A text that is there and not blank. -/
def Text.Stated (raw : Option Text) : Prop := ∃ t, raw = some t ∧ ¬Text.Blank t

theorem optionalText_some {t : Text} :
    optionalText (some t) = if Text.trim t = [] then none else some (Text.trim t) := by
  rw [optionalText, Option.map_some, Option.filter_some]
  by_cases h : Text.trim t = []
  · rw [if_pos h, h]
    rfl
  · rw [if_neg h, if_pos (by simpa using h)]

theorem exists_optionalText {raw : Option Text} :
    (∃ t, optionalText raw = some t) ↔ Text.Stated raw := by
  cases raw with
  | none => exact iff_of_false (fun ⟨_, h⟩ => nomatch h) (fun ⟨_, h, _⟩ => nomatch h)
  | some t =>
      rw [optionalText_some, Text.Stated]
      by_cases h : Text.trim t = []
      · rw [if_pos h]
        refine iff_of_false (fun ⟨_, hs⟩ => nomatch hs) ?_
        rintro ⟨_, ⟨⟩, hb⟩
        exact hb (Text.trim_eq_nil.mp h)
      · rw [if_neg h]
        exact iff_of_true ⟨_, rfl⟩ ⟨t, rfl, fun hb => h (Text.trim_eq_nil.mpr hb)⟩

/-- A demand on a text that may be absent or blank holds of the trimmed text where there is one. -/
theorem forall_optionalText {raw : Option Text} {P : Text → Prop} :
    (∀ t, optionalText raw = some t → P t) ↔
      ∀ t, raw = some t → Text.Blank t ∨ P (Text.trim t) := by
  cases raw with
  | none => exact iff_of_true (fun _ h => nomatch h) (fun _ h => nomatch h)
  | some t =>
      rw [optionalText_some]
      by_cases h : Text.trim t = []
      · rw [if_pos h]
        refine iff_of_true (fun _ hs => nomatch hs) ?_
        rintro _ ⟨⟩
        exact .inl (Text.trim_eq_nil.mp h)
      · rw [if_neg h]
        constructor
        · rintro hp _ ⟨⟩
          exact .inr (hp _ rfl)
        · rintro hp _ ⟨⟩
          exact (hp t rfl).resolve_left fun hb => h (Text.trim_eq_nil.mpr hb)

theorem Text.contains_iff_infix {part t : Text} : Text.contains part t = true ↔ part <:+: t := by
  induction t with
  | nil => rw [Text.contains, List.isEmpty_iff, List.infix_nil]
  | cons c t ih =>
      rw [Text.contains, Bool.or_eq_true, ih, Text.startsWith, List.isPrefixOf_iff_prefix,
        List.infix_cons_iff]

/-! ## Links -/

namespace Link

/-- A text that starts with the name of a scheme and a colon. -/
def HasScheme (link : Text) : Prop :=
  ∃ first name rest, link = first :: (name ++ ':' :: rest) ∧ Text.isLetter first = true ∧
    ∀ c ∈ name, Text.isAlphanumeric c = true ∨ c ∈ ['+', '-', '.']

/-- A text that starts as a path within the site does. -/
def IsRelative (link : Text) : Prop :=
  ['/'] <+: link ∨ ['.', '/'] <+: link ∨ ['.', '.', '/'] <+: link ∨ ['#'] <+: link

/-- The rules for a trimmed link. -/
structure WellFormed (link : Text) : Prop where
  ne_nil : link ≠ []
  unspaced : ∀ c ∈ link, Text.isBlank c = false
  leads : (HasScheme link ∧ ∃ url, Url.parse link = .ok url) ∨ IsRelative link

theorem isExternal_iff {link : Text} : isExternal link = true ↔ HasScheme link := by
  rw [isExternal]
  constructor
  · intro h
    cases hname : link.takeWhile (· != ':') with
    | nil => rw [hname] at h; exact nomatch h
    | cons first name =>
        rw [hname] at h
        simp only [Bool.and_eq_true, List.any_eq_true, List.all_eq_true, Bool.or_eq_true,
          decide_eq_true_eq, beq_iff_eq] at h
        obtain ⟨⟨⟨c, hmem, rfl⟩, hfirst⟩, hrest⟩ := h
        have hlink := List.takeWhile_append_dropWhile (p := (· != ':')) (l := link)
        cases hbehind : link.dropWhile (· != ':') with
        | nil =>
            have hall := List.dropWhile_eq_nil_iff.mp hbehind _ hmem
            exact absurd hall (by decide)
        | cons d rest =>
            have hd : (d != ':') = false := by
              have := List.head_dropWhile_not (· != ':') (l := link) (by rw [hbehind]; simp)
              simpa [hbehind] using this
            obtain rfl : d = ':' := by simpa using hd
            rw [hname, hbehind] at hlink
            refine ⟨first, name, rest, hlink.symm, hfirst, fun c hc => ?_⟩
            simpa [or_assoc] using hrest c hc
  · rintro ⟨first, name, rest, rfl, hfirst, hname⟩
    have hother : ∀ c ∈ first :: name, (c != ':') = true := by
      refine List.forall_mem_cons.mpr ⟨?_, fun c hc => ?_⟩
      · rw [bne_iff_ne]
        rintro rfl
        exact absurd hfirst (by decide)
      · rw [bne_iff_ne]
        rintro rfl
        exact absurd (hname _ hc) (by decide)
    have htake : (first :: (name ++ ':' :: rest)).takeWhile (· != ':') = first :: name := by
      rw [← List.cons_append, List.takeWhile_append_of_pos hother]
      simp
    rw [htake]
    simpa [hfirst, or_assoc] using hname

theorem hasLead_iff {link : Text} : hasLead link = true ↔ IsRelative link := by
  simp [hasLead, leads, IsRelative, Text.startsWith]

/-- The first character tells a scheme from the lead of a path. -/
theorem not_isRelative_of_isLetter {first : Char} {rest : Text}
    (hfirst : Text.isLetter first = true) : ¬IsRelative (first :: rest) := by
  rintro (h | h | h | h)
  · obtain ⟨rfl, -⟩ := List.cons_prefix_cons.mp h
    exact absurd hfirst (by decide)
  · obtain ⟨rfl, -⟩ := List.cons_prefix_cons.mp h
    exact absurd hfirst (by decide)
  · obtain ⟨rfl, -⟩ := List.cons_prefix_cons.mp h
    exact absurd hfirst (by decide)
  · obtain ⟨rfl, -⟩ := List.cons_prefix_cons.mp h
    exact absurd hfirst (by decide)

theorem HasScheme.not_isRelative {link : Text} (h : HasScheme link) : ¬IsRelative link := by
  obtain ⟨first, name, rest, rfl, hfirst, -⟩ := h
  exact not_isRelative_of_isLetter hfirst

theorem problem?_eq_none {link : Text} : problem? link = none ↔ WellFormed link := by
  rw [problem?]
  by_cases hnil : link = []
  · rw [hnil]
    exact iff_of_false (fun h => nomatch h) fun h => h.ne_nil rfl
  rw [if_neg (by simpa using hnil)]
  by_cases hblank : link.any Text.isBlank = true
  · rw [if_pos hblank]
    refine iff_of_false (fun h => nomatch h) fun h => ?_
    obtain ⟨c, hc, hb⟩ := List.any_eq_true.mp hblank
    exact absurd (h.unspaced c hc) (by simp [hb])
  have hunspaced : ∀ c ∈ link, Text.isBlank c = false := by simpa using hblank
  rw [if_neg hblank]
  by_cases hscheme : HasScheme link
  · rw [if_pos (isExternal_iff.mpr hscheme)]
    cases hurl : Url.parse link with
    | ok url => exact iff_of_true rfl ⟨hnil, hunspaced, .inl ⟨hscheme, url, hurl⟩⟩
    | error e =>
        refine iff_of_false (fun h => nomatch h) fun h => ?_
        obtain ⟨-, url, hok⟩ := h.leads.resolve_right hscheme.not_isRelative
        exact nomatch hurl.symm.trans hok
  · rw [if_neg fun h => hscheme (isExternal_iff.mp h)]
    by_cases hrel : IsRelative link
    · rw [if_neg (by simp [hasLead_iff.mpr hrel])]
      exact iff_of_true rfl ⟨hnil, hunspaced, .inr hrel⟩
    · rw [if_pos (by simpa using fun h => hrel (hasLead_iff.mp h))]
      refine iff_of_false (fun h => nomatch h) fun h => ?_
      exact h.leads.elim (fun hl => hscheme hl.1) hrel

/-- A link that is there and, trimmed, well-formed. -/
def Usable (raw : Option Text) : Prop := ∃ t, raw = some t ∧ WellFormed (Text.trim t)

theorem exists_accepted {raw : Option Text} : (∃ link, Accepted raw link) ↔ Usable raw := by
  simp only [Accepted, Usable, problem?_eq_none, Option.map_eq_some_iff]
  constructor
  · rintro ⟨_, ⟨t, ht, rfl⟩, hwf⟩
    exact ⟨t, ht, hwf⟩
  · rintro ⟨t, ht, hwf⟩
    exact ⟨_, ⟨t, ht, rfl⟩, hwf⟩

end Link

/-! ## Navigation links and groups -/

/-- Parts that are each accepted as something are accepted together. -/
theorem exists_forall₂ {α β : Type} {R : α → β → Prop} {as : List α} :
    (∃ bs, List.Forall₂ R as bs) ↔ ∀ a ∈ as, ∃ b, R a b := by
  induction as with
  | nil => exact iff_of_true ⟨[], .nil⟩ (List.forall_mem_nil _)
  | cons a as ih =>
      rw [List.forall_mem_cons, ← ih]
      constructor
      · rintro ⟨_, _ | ⟨first, rest⟩⟩
        exact ⟨⟨_, first⟩, ⟨_, rest⟩⟩
      · rintro ⟨⟨b, first⟩, ⟨bs, rest⟩⟩
        exact ⟨b :: bs, .cons first rest⟩

/-- A part that may be absent is accepted when what is there is. -/
theorem exists_optionRel {α β : Type} {R : α → β → Prop} {a : Option α} :
    (∃ b, Option.Rel R a b) ↔ ∀ x, a = some x → ∃ y, R x y := by
  cases a with
  | none => exact iff_of_true ⟨none, .none⟩ fun _ h => nomatch h
  | some x =>
      constructor
      · rintro ⟨_, ⟨hr⟩⟩ _ ⟨⟩
        exact ⟨_, hr⟩
      · intro h
        obtain ⟨y, hy⟩ := h x rfl
        exact ⟨some y, .some hy⟩

/-- The rules for a navigation link. -/
structure Draft.Nav.Valid [Pattern.SizeTest] (raw : Draft.Nav) : Prop where
  text : Text.Stated raw.text
  link : Link.Usable raw.link
  activeMatch : ∀ t, raw.activeMatch = some t → Text.Blank t ∨ Pattern.Readable (Text.trim t)

theorem NavItem.exists_accepted {raw : Draft.Nav} :
    (∃ item, NavItem.Accepted raw item) ↔ raw.Valid := by
  constructor
  · rintro ⟨item, h⟩
    refine ⟨exists_optionalText.mp ⟨_, h.text⟩, Link.exists_accepted.mp ⟨_, h.link⟩, ?_⟩
    exact forall_optionalText.mp fun source hs => h.readable source (h.activeMatch ▸ hs)
  · intro h
    obtain ⟨text, ht⟩ := exists_optionalText.mpr h.text
    obtain ⟨link, hl⟩ := Link.exists_accepted.mpr h.link
    exact ⟨⟨text, link, optionalText raw.activeMatch⟩, ht, hl, rfl,
      forall_optionalText.mpr h.activeMatch⟩

/-- The rules for a sidebar group. -/
structure Draft.Group.Valid [Pattern.SizeTest] (raw : Draft.Group) : Prop where
  text : Text.Stated raw.text
  items : ∀ item ∈ raw.items.getD [], item.Valid

theorem SidebarGroup.exists_accepted {raw : Draft.Group} :
    (∃ group, SidebarGroup.Accepted raw group) ↔ raw.Valid := by
  have hitems : (∃ items, List.Forall₂ NavItem.Accepted (raw.items.getD []) items) ↔
      ∀ item ∈ raw.items.getD [], item.Valid := by
    simp only [exists_forall₂, NavItem.exists_accepted]
  constructor
  · rintro ⟨group, h⟩
    exact ⟨exists_optionalText.mp ⟨_, h.text⟩, hitems.mp ⟨_, h.items⟩⟩
  · intro h
    obtain ⟨text, ht⟩ := exists_optionalText.mpr h.text
    obtain ⟨items, hi⟩ := hitems.mpr h.items
    exact ⟨⟨text, items, raw.collapsed⟩, ht, hi, rfl⟩

/-! ## The sidebar -/

namespace Sidebar

/-- The area that a key is normalized to. -/
def areaOf (key : Text) : Text := Text.withTrailingSlash (PagePath.normalize (Text.trim key))

/-- The rules for a sidebar key. -/
structure KeyValid (key : Text) : Prop where
  absolute : ['/'] <+: Text.trim key
  single : ¬['/', '/'] <+: Text.trim key
  plain : ∀ c ∈ Text.trim key, Text.isControl c = false ∧ c ≠ '?' ∧ c ≠ '#'
  matchable : ∀ c ∈ areaOf key, c ≠ '?' ∧ c ≠ '#'

theorem lead_single_iff {t : Text} :
    (!Text.startsWith ['/'] t || Text.startsWith ['/', '/'] t) = false ↔
      ['/'] <+: t ∧ ¬['/', '/'] <+: t := by
  rw [Bool.or_eq_false_iff, Bool.not_eq_false', ← Bool.not_eq_true, Text.startsWith,
    Text.startsWith, List.isPrefixOf_iff_prefix, List.isPrefixOf_iff_prefix]

theorem any_startsQuery_iff {t : Text} :
    (t.any fun c => Text.isControl c || startsQuery c) = false ↔
      ∀ c ∈ t, Text.isControl c = false ∧ c ≠ '?' ∧ c ≠ '#' := by
  simp [startsQuery]

theorem area?_eq_ok {key area : Text} :
    area? key = .ok area ↔ KeyValid key ∧ areaOf key = area := by
  have hmatch : (areaOf key).any startsQuery = false ↔ ∀ c ∈ areaOf key, c ≠ '?' ∧ c ≠ '#' := by
    simp [startsQuery]
  rw [area?]
  constructor
  · intro h
    split at h
    · cases h
    next hfirst =>
      split at h
      · cases h
      next hchars =>
        dsimp only at h
        split at h
        · cases h
        next harea =>
          obtain ⟨absolute, single⟩ := lead_single_iff.mp (Bool.eq_false_iff.mpr hfirst)
          exact ⟨⟨absolute, single, any_startsQuery_iff.mp (Bool.eq_false_iff.mpr hchars),
            hmatch.mp (Bool.eq_false_iff.mpr harea)⟩, Except.ok.inj h⟩
  · rintro ⟨h, rfl⟩
    dsimp only
    rw [lead_single_iff.mpr ⟨h.absolute, h.single⟩, any_startsQuery_iff.mpr h.plain]
    exact if_neg (Bool.not_eq_true _ ▸ hmatch.mpr h.matchable)

/-- The rules for a sidebar. -/
structure Valid [Pattern.SizeTest] (raw : Entries (List Draft.Group)) : Prop where
  keys : ∀ entry ∈ raw, KeyValid entry.1
  areas : raw.Pairwise fun a b => areaOf a.1 ≠ areaOf b.1
  groups : ∀ entry ∈ raw, ∀ group ∈ entry.2, group.Valid

theorem exists_entry_accepted {raw : Text × List Draft.Group} :
    (∃ entry, SidebarEntry.Accepted raw entry) ↔ KeyValid raw.1 ∧ ∀ group ∈ raw.2, group.Valid := by
  have hgroups : (∃ groups, List.Forall₂ SidebarGroup.Accepted raw.2 groups) ↔
      ∀ group ∈ raw.2, group.Valid := by
    simp only [exists_forall₂, SidebarGroup.exists_accepted]
  constructor
  · rintro ⟨entry, h⟩
    exact ⟨(area?_eq_ok.mp h.area).1, hgroups.mp ⟨_, h.groups⟩⟩
  · rintro ⟨hkey, h⟩
    obtain ⟨groups, hg⟩ := hgroups.mpr h
    exact ⟨⟨areaOf raw.1, groups⟩, area?_eq_ok.mpr ⟨hkey, rfl⟩, hg⟩

/-- The areas of accepted entries are those that their keys are normalized to. -/
theorem map_area_of_accepted {raw : Entries (List Draft.Group)} {sidebar : Sidebar}
    (h : List.Forall₂ SidebarEntry.Accepted raw sidebar) :
    sidebar.map SidebarEntry.area = raw.map fun entry => areaOf entry.1 := by
  induction h with
  | nil => rfl
  | cons first _ ih =>
      rw [List.map_cons, List.map_cons, ih, (area?_eq_ok.mp first.area).2]

theorem exists_accepted {raw : Entries (List Draft.Group)} :
    (∃ sidebar, Sidebar.Accepted raw sidebar) ↔ Valid raw := by
  have hentries : (∃ sidebar, List.Forall₂ SidebarEntry.Accepted raw sidebar) ↔
      ∀ entry ∈ raw, KeyValid entry.1 ∧ ∀ group ∈ entry.2, group.Valid := by
    simp only [exists_forall₂, exists_entry_accepted]
  have hareas {sidebar : Sidebar} (h : List.Forall₂ SidebarEntry.Accepted raw sidebar) :
      (sidebar.map SidebarEntry.area).Nodup ↔ raw.Pairwise fun a b => areaOf a.1 ≠ areaOf b.1 := by
    rw [map_area_of_accepted h, List.Nodup, List.pairwise_map]
  constructor
  · rintro ⟨sidebar, h⟩
    have hall := hentries.mp ⟨sidebar, h.entries⟩
    exact ⟨fun entry he => (hall entry he).1, (hareas h.entries).mp h.areas,
      fun entry he => (hall entry he).2⟩
  · intro h
    obtain ⟨sidebar, hs⟩ := hentries.mpr fun entry he => ⟨h.keys entry he, h.groups entry he⟩
    exact ⟨sidebar, hs, (hareas hs).mpr h.areas⟩

end Sidebar

/-! ## Tags for the head -/

/-- A tag name: a letter, and behind it letters, digits and hyphens. -/
def HeadTag.IsName (name : Text) : Prop :=
  ∃ first rest, name = first :: rest ∧ Text.isLetter first = true ∧
    ∀ c ∈ rest, Text.isAlphanumeric c = true ∨ c = '-'

/-- An attribute name: not empty, and without characters that would end it in a tag. -/
def HeadTag.IsAttribute (name : Text) : Prop :=
  name ≠ [] ∧ ∀ c ∈ name, Text.isBlank c = false ∧ Text.isControl c = false ∧
    c ∉ ['"', '\'', '>', '/', '=']

/-- The rules for a tag. Attribute names that differ in the case of ASCII letters alone are the
same. -/
structure Draft.Head.Valid (raw : Draft.Head) : Prop where
  tag : ∃ tag, raw.tag = some tag ∧ HeadTag.IsName (Text.trim tag)
  names : ∀ pair ∈ raw.attributes, HeadTag.IsAttribute pair.1
  distinct : raw.attributes.Pairwise fun a b => Text.lower a.1 ≠ Text.lower b.1

theorem HeadTag.isTagName_iff {name : Text} :
    HeadTag.isTagName name = true ↔ HeadTag.IsName name := by
  cases name with
  | nil => exact iff_of_false Bool.false_ne_true fun ⟨_, _, h, _⟩ => nomatch h
  | cons first rest => simp [HeadTag.isTagName, HeadTag.IsName]

theorem HeadTag.isAttributeName_iff {name : Text} :
    HeadTag.isAttributeName name = true ↔ HeadTag.IsAttribute name := by
  simp [HeadTag.isAttributeName, HeadTag.IsAttribute, HeadTag.isBarred, and_assoc]

theorem HeadTag.exists_accepted {raw : Draft.Head} :
    (∃ tag, HeadTag.Accepted raw tag) ↔ raw.Valid := by
  have hnamed : HeadTag.WellNamed raw.attributes ↔
      (∀ pair ∈ raw.attributes, HeadTag.IsAttribute pair.1) ∧
        raw.attributes.Pairwise fun a b => Text.lower a.1 ≠ Text.lower b.1 := by
    simp only [← HeadTag.isAttributeName_iff]
    constructor
    · intro h
      exact ⟨h.names, List.pairwise_map.mp h.distinct⟩
    · rintro ⟨names, distinct⟩
      exact ⟨names, List.pairwise_map.mpr distinct⟩
  constructor
  · rintro ⟨tag, h⟩
    obtain ⟨names, distinct⟩ := hnamed.mp (h.attributes ▸ h.wellNamed)
    refine ⟨?_, names, distinct⟩
    have hname := HeadTag.isTagName_iff.mp (h.tagName ▸ h.isTagName)
    cases htag : raw.tag with
    | some text => exact ⟨text, rfl, by rwa [htag] at hname⟩
    | none =>
        rw [htag] at hname
        obtain ⟨_, _, hnil, _⟩ := hname
        exact nomatch hnil
  · intro h
    obtain ⟨text, htag, hname⟩ := h.tag
    refine ⟨⟨Text.trim text, raw.attributes, raw.content⟩, ?_⟩
    exact ⟨by rw [htag, Option.getD_some], HeadTag.isTagName_iff.mpr hname, rfl,
      hnamed.mpr ⟨h.names, h.distinct⟩, rfl⟩

/-! ## The theme -/

/-- The rules for a profile link. -/
structure Draft.Social.Valid (raw : Draft.Social) : Prop where
  icon : ∃ t, raw.icon = some t ∧ ∃ icon : Icon, icon.name = Text.trim t
  link : Link.Usable raw.link

theorem Icon.ofName?_eq_some {t : Text} {icon : Icon} :
    Icon.ofName? t = some icon ↔ icon.name = t := by
  constructor
  · intro h
    rw [Icon.ofName?] at h
    have hname := List.find?_some h
    exact beq_iff_eq.mp hname
  · rintro rfl
    exact Icon.ofName?_name icon

theorem SocialLink.exists_icon {raw : Option Text} :
    (∃ icon, (optionalText raw).bind Icon.ofName? = some icon) ↔
      ∃ t, raw = some t ∧ ∃ icon : Icon, icon.name = Text.trim t := by
  have hname (icon : Icon) : icon.name ≠ [] := by cases icon <;> decide
  simp only [Option.bind_eq_some_iff, Icon.ofName?_eq_some, optionalText_eq_some,
    Option.map_eq_some_iff]
  constructor
  · rintro ⟨icon, _, ⟨⟨t, rfl, rfl⟩, -⟩, hi⟩
    exact ⟨t, rfl, icon, hi⟩
  · rintro ⟨t, rfl, icon, hi⟩
    exact ⟨icon, Text.trim t, ⟨⟨t, rfl, rfl⟩, hi ▸ hname icon⟩, hi⟩

theorem SocialLink.exists_accepted {raw : Draft.Social} :
    (∃ social, SocialLink.Accepted raw social) ↔ raw.Valid := by
  constructor
  · rintro ⟨social, h⟩
    exact ⟨SocialLink.exists_icon.mp ⟨_, h.icon⟩, Link.exists_accepted.mp ⟨_, h.link⟩⟩
  · intro h
    obtain ⟨icon, hi⟩ := SocialLink.exists_icon.mpr h.icon
    obtain ⟨link, hl⟩ := Link.exists_accepted.mpr h.link
    exact ⟨⟨icon, link, optionalText raw.ariaLabel⟩, hl, hi, rfl⟩

/-- The rules for the link to the source of a page. -/
structure Draft.Edit.Valid (raw : Draft.Edit) : Prop where
  pattern : ∃ t, raw.pattern = some t ∧ Link.WellFormed (Text.trim t) ∧
    Problem.editPlace <:+: Text.trim t

theorem EditLink.exists_accepted {raw : Draft.Edit} :
    (∃ edit, EditLink.Accepted raw edit) ↔ raw.Valid := by
  constructor
  · rintro ⟨edit, h⟩
    obtain ⟨t, ht, htrim⟩ := Option.map_eq_some_iff.mp h.pattern.1
    refine ⟨t, ht, ?_⟩
    rw [htrim]
    exact ⟨Link.problem?_eq_none.mp h.pattern.2, Text.contains_iff_infix.mp h.place⟩
  · intro h
    obtain ⟨t, ht, hwf, hplace⟩ := h.pattern
    refine ⟨⟨Text.trim t, (optionalText raw.text).getD EditLink.defaultText⟩, ?_⟩
    exact ⟨⟨by rw [ht, Option.map_some], Link.problem?_eq_none.mpr hwf⟩,
      Text.contains_iff_infix.mpr hplace, rfl⟩

/-- The rules for a theme. -/
structure Draft.Theme.Valid [Pattern.SizeTest] (raw : Draft.Theme) : Prop where
  logo : ∀ logo, raw.logo = some logo → Link.WellFormed (Text.trim logo)
  nav : ∀ item ∈ raw.nav.getD [], item.Valid
  sidebar : Sidebar.Valid (raw.sidebar.getD [])
  socialLinks : ∀ link ∈ raw.socialLinks.getD [], link.Valid
  editLink : ∀ edit, raw.editLink = some edit → edit.Valid

theorem Theme.exists_accepted {raw : Draft.Theme} :
    (∃ theme, Theme.Accepted raw theme) ↔ raw.Valid := by
  have hlogo : (∃ logo, Option.Rel (fun logo link => Link.Accepted (some logo) link) raw.logo logo)
      ↔ ∀ logo, raw.logo = some logo → Link.WellFormed (Text.trim logo) := by
    simp [exists_optionRel, Link.exists_accepted, Link.Usable]
  have hnav : (∃ nav, List.Forall₂ NavItem.Accepted (raw.nav.getD []) nav) ↔
      ∀ item ∈ raw.nav.getD [], item.Valid := by
    simp only [exists_forall₂, NavItem.exists_accepted]
  have hsocial : (∃ links, List.Forall₂ SocialLink.Accepted (raw.socialLinks.getD []) links) ↔
      ∀ link ∈ raw.socialLinks.getD [], link.Valid := by
    simp only [exists_forall₂, SocialLink.exists_accepted]
  have hedit : (∃ edit, Option.Rel EditLink.Accepted raw.editLink edit) ↔
      ∀ edit, raw.editLink = some edit → edit.Valid := by
    simp only [exists_optionRel, EditLink.exists_accepted]
  constructor
  · rintro ⟨theme, h⟩
    exact ⟨hlogo.mp ⟨_, h.logo⟩, hnav.mp ⟨_, h.nav⟩, Sidebar.exists_accepted.mp ⟨_, h.sidebar⟩,
      hsocial.mp ⟨_, h.socialLinks⟩, hedit.mp ⟨_, h.editLink⟩⟩
  · intro h
    obtain ⟨logo, hl⟩ := hlogo.mpr h.logo
    obtain ⟨nav, hn⟩ := hnav.mpr h.nav
    obtain ⟨sidebar, hs⟩ := Sidebar.exists_accepted.mpr h.sidebar
    obtain ⟨socialLinks, hp⟩ := hsocial.mpr h.socialLinks
    obtain ⟨editLink, he⟩ := hedit.mpr h.editLink
    exact ⟨⟨logo, nav, sidebar, socialLinks, raw.footer.bind Footer.resolve, editLink⟩,
      hl, hn, hs, hp, rfl, he⟩

/-! ## Sites -/

/-- The rules for a whole draft. -/
structure Draft.Valid [Pattern.SizeTest] (raw : Draft) : Prop where
  title : Text.Stated raw.title
  lang : ∀ t, raw.lang = some t → Text.Blank t ∨ Site.LanguageTag (Text.trim t)
  base : ∀ t, raw.base = some t →
    ['/'] <+: Text.trim t ∧ ∀ c ∈ Text.trim t, Text.isBlank c = false
  head : ∀ tag ∈ raw.head.getD [], tag.Valid
  theme : ∀ theme, raw.theme = some theme → theme.Valid

/-- The default language is a language tag, so only one that is written can break the rule. -/
theorem Site.isLanguageTag_getD {raw : Option Text} :
    Site.isLanguageTag ((optionalText raw).getD Site.defaultLang) = true ↔
      ∀ t, raw = some t → Text.Blank t ∨ Site.LanguageTag (Text.trim t) := by
  rw [← forall_optionalText]
  cases optionalText raw with
  | none => exact iff_of_true rfl fun _ h => nomatch h
  | some t => simp [Site.isLanguageTag_iff]

theorem Site.base_getD {raw : Option Text} :
    (Text.startsWith ['/'] ((raw.map Text.trim).getD Site.defaultBase) = true ∧
      ((raw.map Text.trim).getD Site.defaultBase).any Text.isBlank = false) ↔
      ∀ t, raw = some t → ['/'] <+: Text.trim t ∧ ∀ c ∈ Text.trim t, Text.isBlank c = false := by
  cases raw with
  | none => exact iff_of_true ⟨rfl, rfl⟩ fun _ h => nomatch h
  | some t => simp [Text.startsWith]

theorem Draft.Theme.valid_empty : Draft.Theme.Valid {} where
  logo _ h := nomatch h
  nav := List.forall_mem_nil _
  sidebar := ⟨List.forall_mem_nil _, List.Pairwise.nil, List.forall_mem_nil _⟩
  socialLinks := List.forall_mem_nil _
  editLink _ h := nomatch h

/-- A theme that is absent breaks no rule. -/
theorem Draft.Theme.valid_getD {raw : Option Draft.Theme} :
    (raw.getD {}).Valid ↔ ∀ theme, raw = some theme → theme.Valid := by
  cases raw with
  | none => exact iff_of_true Draft.Theme.valid_empty fun _ h => nomatch h
  | some theme => simp

/-- Resolution succeeds exactly for the drafts that keep all rules. -/
theorem Site.resolve_succeeds_iff [Pattern.SizeTest] {raw : Draft} :
    (∃ site, Site.resolve raw = .ok site) ↔ raw.Valid := by
  have hhead : (∃ head, List.Forall₂ HeadTag.Accepted (raw.head.getD []) head) ↔
      ∀ tag ∈ raw.head.getD [], tag.Valid := by
    simp only [exists_forall₂, HeadTag.exists_accepted]
  simp only [Site.resolve_eq_ok]
  constructor
  · rintro ⟨site, h⟩
    have hlang := Site.isLanguageTag_getD.mp (h.lang ▸ h.isLanguageTag)
    exact ⟨exists_optionalText.mp ⟨_, h.title⟩, hlang, Site.base_getD.mp ⟨h.absolute, h.unspaced⟩,
      hhead.mp ⟨_, h.head⟩, Draft.Theme.valid_getD.mp (Theme.exists_accepted.mp ⟨_, h.theme⟩)⟩
  · intro h
    obtain ⟨title, ht⟩ := exists_optionalText.mpr h.title
    obtain ⟨absolute, unspaced⟩ := Site.base_getD.mpr h.base
    obtain ⟨head, hh⟩ := hhead.mpr h.head
    obtain ⟨theme, hm⟩ := Theme.exists_accepted.mpr (Draft.Theme.valid_getD.mpr h.theme)
    exact ⟨⟨_, title, _, _, _, _, head, theme⟩, ht, rfl, Site.isLanguageTag_getD.mpr h.lang,
      absolute, unspaced, rfl, rfl, rfl, rfl, hh, hm⟩

end Signpost
