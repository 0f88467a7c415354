import Signpost.Pattern.Size
import Signpost.Proofs.Document.Inside
import Signpost.Proofs.FieldPath
import Signpost.Proofs.Site.Reporting
import Signpost.Proofs.Site.UnknownKeys

/-!
# Places of elements

An unknown key of an element is listed at the place where the config has the element, and what is
wrong with the element is reported at its path in the draft. `Draft.Element.render_place_iff` says
when the two are spelled alike: exactly when the records around the element, and the sidebar, are
written as tables. A record that is written as a list is entered by a position where its field has
a name, and a sidebar that is written as a list of groups has no key.
-/

namespace Signpost

open Document

/-- What a reader finds in a config text. -/
def Format.root? (format : Format) (content : Text) : Option Node :=
  match format with
  | .json => some (Json.read content).1
  | .toml => Toml.read? content

def Document.Node.IsTable (node : Node) : Prop := ∃ opening members, node = .table opening members

/-- A key that declares an area is no plain key, for it has a slash. -/
theorem Sidebar.keyStep_of_area {key area : Text} (h : area? key = .ok area) :
    FieldPath.keyStep key = .key key := by
  have hslash : '/' ∈ key :=
    Text.trim_subset ((area?_eq_ok.mp h).1.absolute.subset List.mem_cons_self)
  refine if_neg fun hplain => ?_
  have hall := List.all_eq_true.mp (Bool.and_eq_true_iff.mp hplain).2 _ hslash
  exact absurd hall (by decide)

namespace Draft

/-- A draft is taken in from what was found. -/
theorem decode_root {format : Format} {content : Text} {root : Node} {r : Draft × List FieldPath}
    (hread : Draft.read format content = .ok r) (hroot : format.root? content = some root) :
    shape.decode [] root = Except.ok r := by
  cases format with
  | json =>
      obtain ⟨node, hfound, hdecode⟩ := Json.decode_eq_ok.mp (Draft.read_json_eq_ok.mp hread)
      obtain rfl : node = root := (congrArg Prod.fst hfound).symm.trans (Option.some.inj hroot)
      exact hdecode
  | toml =>
      have hfound : Toml.read? content = some root := hroot
      rw [Draft.read, Toml.decode, hfound] at hread
      dsimp only at hread
      cases hdecode : shape.decode [] root with
      | error failure =>
          rw [hdecode] at hread
          cases hread
      | ok decoded =>
          rw [hdecode] at hread
          exact congrArg _ (Except.ok.inj hread)

/-! ## The fields that elements are in -/

section Fields

variable {ρ α β : Type} {name : String} {value : Decoder α} {set : Option α → ρ → ρ}

theorem sets_field {get : ρ → Option α} (h : ∀ a record, get (set a record) = a) :
    (optionalField name value set).Sets (Decoder.optional value) get := Slot.sets_of h

theorem keeps_field {get : ρ → β} (h : ∀ a record, get (set a record) = get record) :
    (optionalField name value set).Keeps get := Slot.keeps_of h

end Fields

theorem nodup_fields : (shape.fields.map Slot.name).Nodup := by
  show ["lang".toList, "title".toList, "description".toList, "base".toList, "lastUpdated".toList,
    "cleanUrls".toList, "head".toList, "themeConfig".toList].Nodup
  decide

theorem Theme.nodup_fields : (Theme.shape.fields.map Slot.name).Nodup := by
  show ["logo".toList, "nav".toList, "sidebar".toList, "socialLinks".toList, "footer".toList,
    "editLink".toList].Nodup
  decide

theorem Group.nodup_fields : (Group.shape.fields.map Slot.name).Nodup := by
  show ["text".toList, "items".toList, "collapsed".toList].Nodup
  decide

theorem holds_theme :
    shape.Holds "themeConfig".toList (Decoder.optional Theme.shape.decode) Draft.theme :=
  Shape.holds_of [_, _, _, _, _, _, _] [] nodup_fields rfl rfl (sets_field fun _ _ => rfl)
    (by simp [keeps_field])

theorem Theme.holds_nav :
    Theme.shape.Holds "nav".toList (Decoder.optional (.list Nav.shape.decode)) Theme.nav :=
  Shape.holds_of [_] [_, _, _, _] Theme.nodup_fields rfl rfl (sets_field fun _ _ => rfl)
    (by simp [keeps_field])

theorem Theme.holds_sidebar :
    Theme.shape.Holds "sidebar".toList (Decoder.optional sidebarDecode) Theme.sidebar :=
  Shape.holds_of [_, _] [_, _, _] Theme.nodup_fields rfl rfl (sets_field fun _ _ => rfl)
    (by simp [keeps_field])

theorem Theme.holds_socialLinks :
    Theme.shape.Holds "socialLinks".toList (Decoder.optional (.list Social.shape.decode))
      Theme.socialLinks :=
  Shape.holds_of [_, _, _] [_, _] Theme.nodup_fields rfl rfl (sets_field fun _ _ => rfl)
    (by simp [keeps_field])

theorem Group.holds_items :
    Group.shape.Holds "items".toList (Decoder.optional (.list Nav.shape.decode)) Group.items :=
  Shape.holds_of [_] [_] Group.nodup_fields rfl rfl (sets_field fun _ _ => rfl)
    (by simp [keeps_field])

theorem sidebar_takesAt_table {path : FieldPath} {opening : Spot} {members : Members}
    {ignored : List FieldPath} {entries : Entries (List Group)} {key : Text} {node : Node}
    (h : sidebarDecode.TakesAt path (.table opening members) ignored entries)
    (hkey : members.Has key node) :
    ∃ groups, (key, groups) ∈ entries ∧
      (Decoder.list Group.shape.decode).TakesAt (path.push (FieldPath.keyStep key)) node ignored
        groups := by
  have hentries : (Decoder.entries (.list Group.shape.decode)).TakesAt path
      (.table opening members) ignored entries := h
  exact hentries.member hkey

/-- A sidebar that is a list of groups is filed under its one key. -/
theorem sidebar_takesAt_list {path : FieldPath} {opening : Spot} {items : Items}
    {ignored : List FieldPath} {entries : Entries (List Group)}
    (h : sidebarDecode.TakesAt path (.list opening items) ignored entries) :
    ∃ groups, (rootKey, groups) ∈ entries ∧
      (Decoder.list Group.shape.decode).TakesAt path (.list opening items) ignored groups := by
  obtain ⟨listed, hok, hlisted⟩ := h
  obtain ⟨groups, hgroups, rfl⟩ := Decoded.map_eq_ok.mp hok
  exact ⟨groups, List.mem_singleton.mpr rfl, listed, hgroups, hlisted⟩

namespace Element

/-! ## Where a config has an element -/

/-- The names of the fields that an element has. -/
def fields : Element → List Text
  | headTag _ => HeadTable.shape.fields.map Slot.name
  | socialLink _ => Social.shape.fields.map Slot.name
  | group _ _ => Group.shape.fields.map Slot.name
  | navItem _ | item _ _ _ => Nav.shape.fields.map Slot.name

/-- The key of the sidebar that an element stands under. -/
def key? : Element → Option Text
  | group key _ | item key _ _ => some key
  | _ => none

/-- The config with the given root has the element as the value `node` at `place`. The values
`around` it are the records it is in and the sidebar. A head tag with an unknown key is refused, so
no place is given for one. -/
inductive FoundIn (root : Node) : Element → List Node → FieldPath → Node → Prop where
  | navItem {theme node : Node} {opening : Spot} {items : Items} {s t : Step} {i : Nat}
      (htheme : shape.FieldIn "themeConfig".toList root s theme)
      (hnav : Theme.shape.FieldIn "nav".toList theme t (.list opening items))
      (hnode : items.get? i = some node) :
      FoundIn root (.navItem i) [root, theme] [s, t, .index i] node
  | socialLink {theme node : Node} {opening : Spot} {items : Items} {s t : Step} {i : Nat}
      (htheme : shape.FieldIn "themeConfig".toList root s theme)
      (hlinks : Theme.shape.FieldIn "socialLinks".toList theme t (.list opening items))
      (hnode : items.get? i = some node) :
      FoundIn root (.socialLink i) [root, theme] [s, t, .index i] node
  /-- A group of a sidebar that is written as a map. -/
  | group {theme node : Node} {opening inner : Spot} {members : Members} {items : Items}
      {s t : Step} {key : Text} {i : Nat}
      (htheme : shape.FieldIn "themeConfig".toList root s theme)
      (hsidebar : Theme.shape.FieldIn "sidebar".toList theme t (.table opening members))
      (hgroups : members.Has key (.list inner items)) (hnode : items.get? i = some node) :
      FoundIn root (.group key i) [root, theme, .table opening members]
        [s, t, FieldPath.keyStep key, .index i] node
  /-- A group of a sidebar that is written as a bare list. -/
  | listedGroup {theme node : Node} {opening : Spot} {items : Items} {s t : Step} {i : Nat}
      (htheme : shape.FieldIn "themeConfig".toList root s theme)
      (hsidebar : Theme.shape.FieldIn "sidebar".toList theme t (.list opening items))
      (hnode : items.get? i = some node) :
      FoundIn root (.group rootKey i) [root, theme, .list opening items] [s, t, .index i] node
  | item {around : List Node} {place : FieldPath} {group node : Node} {opening : Spot}
      {items : Items} {t : Step} {key : Text} {i j : Nat}
      (hgroup : FoundIn root (.group key i) around place group)
      (hitems : Group.shape.FieldIn "items".toList group t (.list opening items))
      (hnode : items.get? j = some node) :
      FoundIn root (.item key i j) (around ++ [group]) ((place.push t).push (.index j)) node

/-- The draft has the element, as what was taken in from the value at the place. -/
def TakenFrom (raw : Draft) (place : FieldPath) (node : Node) (ignored : List FieldPath) :
    Element → Prop
  | headTag i => ∃ tag, (raw.head.getD [])[i]? = some tag ∧
      Head.decode.TakesAt place node ignored tag
  | navItem i => ∃ item, ((raw.theme.getD {}).nav.getD [])[i]? = some item ∧
      Nav.shape.decode.TakesAt place node ignored item
  | socialLink i => ∃ link, ((raw.theme.getD {}).socialLinks.getD [])[i]? = some link ∧
      Social.shape.decode.TakesAt place node ignored link
  | group key i => ∃ groups, (key, groups) ∈ raw.sidebarEntries ∧ ∃ group, groups[i]? = some group ∧
      Group.shape.decode.TakesAt place node ignored group
  | item key i j => ∃ groups, (key, groups) ∈ raw.sidebarEntries ∧
      ∃ group, groups[i]? = some group ∧ ∃ item, (group.items.getD [])[j]? = some item ∧
        Nav.shape.decode.TakesAt place node ignored item

variable {raw : Draft} {root node : Node} {ignored : List FieldPath} {e : Element}
  {around : List Node} {place path : FieldPath}

theorem sidebarEntries_eq {theme : Draft.Theme} {entries : Entries (List Group)}
    (htheme : raw.theme = some theme) (hentries : theme.sidebar = some entries) :
    raw.sidebarEntries = entries := by
  rw [sidebarEntries, htheme, Option.getD_some, hentries, Option.getD_some]

/-- The value at the place of an element is what the draft has as the element. -/
theorem FoundIn.takenFrom (h : e.FoundIn root around place node)
    (hroot : shape.decode.TakesAt [] root ignored raw) : e.TakenFrom raw place node ignored := by
  induction h with
  | navItem htheme hnav hnode =>
      obtain ⟨theme, hraw, htaken⟩ := holds_theme.some_takesAt hroot htheme hnav.ne_null
      obtain ⟨items, hitems, htaken⟩ := Theme.holds_nav.some_takesAt htaken hnav nofun
      obtain ⟨item, hitem, htaken⟩ := htaken.element hnode
      refine ⟨item, ?_, htaken⟩
      rw [hraw, Option.getD_some, hitems, Option.getD_some, hitem]
  | socialLink htheme hlinks hnode =>
      obtain ⟨theme, hraw, htaken⟩ := holds_theme.some_takesAt hroot htheme hlinks.ne_null
      obtain ⟨links, hitems, htaken⟩ := Theme.holds_socialLinks.some_takesAt htaken hlinks nofun
      obtain ⟨link, hlink, htaken⟩ := htaken.element hnode
      refine ⟨link, ?_, htaken⟩
      rw [hraw, Option.getD_some, hitems, Option.getD_some, hlink]
  | group htheme hsidebar hgroups hnode =>
      obtain ⟨theme, hraw, htaken⟩ := holds_theme.some_takesAt hroot htheme hsidebar.ne_null
      obtain ⟨entries, hentries, htaken⟩ := Theme.holds_sidebar.some_takesAt htaken hsidebar nofun
      obtain ⟨groups, hmem, htaken⟩ := sidebar_takesAt_table htaken hgroups
      obtain ⟨group, hgroup, htaken⟩ := htaken.element hnode
      exact ⟨groups, sidebarEntries_eq hraw hentries ▸ hmem, group, hgroup, htaken⟩
  | listedGroup htheme hsidebar hnode =>
      obtain ⟨theme, hraw, htaken⟩ := holds_theme.some_takesAt hroot htheme hsidebar.ne_null
      obtain ⟨entries, hentries, htaken⟩ := Theme.holds_sidebar.some_takesAt htaken hsidebar nofun
      obtain ⟨groups, hmem, htaken⟩ := sidebar_takesAt_list htaken
      obtain ⟨group, hgroup, htaken⟩ := htaken.element hnode
      exact ⟨groups, sidebarEntries_eq hraw hentries ▸ hmem, group, hgroup, htaken⟩
  | item hgroup hitems hnode ih =>
      obtain ⟨groups, hmem, group, hgroup, htaken⟩ := ih
      obtain ⟨items, hitems, htaken⟩ := Group.holds_items.some_takesAt htaken hitems nofun
      obtain ⟨item, hitem, htaken⟩ := htaken.element hnode
      refine ⟨groups, hmem, group, hgroup, item, ?_, htaken⟩
      rw [hitems, Option.getD_some, hitem]

/-- The unknown keys of an element that is written as a table are listed at its place. -/
theorem TakenFrom.unknown_mem {opening : Spot} {members : Members} {name : Text} {value : Node}
    (h : e.TakenFrom raw place (.table opening members) ignored)
    (hmember : members.Has name value) (hunknown : name ∉ e.fields) :
    place.push (FieldPath.keyStep name) ∈ ignored := by
  cases e with
  | headTag i =>
      obtain ⟨tag, -, listed, hok, hlisted⟩ := h
      obtain ⟨t, htable, -⟩ := Decoded.map_eq_ok.mp hok
      have htaken : HeadTable.shape.decode.TakesAt place (.table opening members) ignored t :=
        ⟨listed, htable, hlisted⟩
      exact Shape.unknown_mem_ignored htaken hmember hunknown
  | navItem i =>
      obtain ⟨item, -, htaken⟩ := h
      exact Shape.unknown_mem_ignored htaken hmember hunknown
  | socialLink i =>
      obtain ⟨link, -, htaken⟩ := h
      exact Shape.unknown_mem_ignored htaken hmember hunknown
  | group key i =>
      obtain ⟨groups, -, group, -, htaken⟩ := h
      exact Shape.unknown_mem_ignored htaken hmember hunknown
  | item key i j =>
      obtain ⟨groups, -, group, -, item, -, htaken⟩ := h
      exact Shape.unknown_mem_ignored htaken hmember hunknown

/-! ## Places and paths -/

/-- The place is the path when all values around are tables, and parts from it when one is not. -/
inductive Follows : List Node → FieldPath → FieldPath → Prop where
  | same {around : List Node} {path : FieldPath} (h : ∀ n ∈ around, n.IsTable) :
      Follows around path path
  | parted {around : List Node} {place path : FieldPath} {n : Node} (hmem : n ∈ around)
      (hlist : ¬n.IsTable) (h : place.PartsFrom path) : Follows around place path

namespace Follows

theorem push (h : Follows around place path) (s : Step) :
    Follows around (place.push s) (path.push s) := by
  cases h with
  | same h => exact .same h
  | parted hmem hlist h => exact .parted hmem hlist (h.append [s] [s])

theorem table (h : Follows around place path) {opening : Spot} {members : Members} :
    Follows (around ++ [.table opening members]) place path := by
  cases h with
  | same h =>
      refine .same (List.forall_mem_append.mpr ⟨h, List.forall_mem_singleton.mpr ?_⟩)
      exact ⟨opening, members, rfl⟩
  | parted hmem hlist h => exact .parted (List.mem_append_left _ hmem) hlist h

/-- In a list stands a position where the path has a name or a key. -/
theorem list (h : Follows around place path) {opening : Spot} {items : Items} {i : Nat} {s : Step}
    (hs : s.IsNamed) (r : FieldPath) :
    Follows (around ++ [.list opening items]) (place.push (.index i)) (path ++ s :: r) := by
  have hlist : ¬(Node.list opening items).IsTable := nofun
  refine .parted (List.mem_append_right _ (List.mem_singleton.mpr rfl)) hlist ?_
  cases h with
  | same _ => exact FieldPath.partsFrom_index _ i hs r
  | parted _ _ h => exact h.append _ _

theorem field (h : Follows around place path) {ρ : Type} {shape : Shape ρ} {name : String}
    {inner : Node} {s : Step} (hfield : shape.FieldIn name.toList node s inner)
    (hplain : FieldPath.isPlainKey name.toList = true) :
    Follows (around ++ [node]) (place.push s) (path.field name) := by
  cases hfield with
  | named _ =>
      rw [FieldPath.keyStep, if_pos hplain]
      exact h.table.push _
  | listed _ _ => exact h.list (s := .field name.toList) hplain []

theorem render_iff (h : Follows around place path) :
    place.render = path.render ↔ ∀ n ∈ around, n.IsTable := by
  cases h with
  | same h => exact iff_of_true rfl h
  | parted hmem hlist h => exact iff_of_false h.render_ne fun hall => hlist (hall _ hmem)

end Follows

theorem follows_themeField {theme inner : Node} {s t : Step} {name : String}
    (htheme : shape.FieldIn "themeConfig".toList root s theme)
    (hfield : Theme.shape.FieldIn name.toList theme t inner)
    (hplain : FieldPath.isPlainKey name.toList = true) :
    Follows [root, theme] [s, t] (themePath.field name) := by
  have hroot : Follows [] [] [] := .same (List.forall_mem_nil _)
  exact (hroot.field htheme (by decide)).field hfield hplain

/-- Under a key that is shown in quotes an element has its path for its place, unless a list stands
around it. -/
theorem FoundIn.follows (h : e.FoundIn root around place node)
    (hkey : ∀ key ∈ e.key?, FieldPath.keyStep key = .key key) : Follows around place e.path := by
  induction h with
  | navItem htheme hnav _ => exact (follows_themeField htheme hnav (by decide)).push _
  | socialLink htheme hlinks _ => exact (follows_themeField htheme hlinks (by decide)).push _
  | group htheme hsidebar _ _ =>
      rw [hkey _ rfl]
      exact ((follows_themeField htheme hsidebar (by decide)).table.push _).push _
  | listedGroup htheme hsidebar _ =>
      exact (follows_themeField htheme hsidebar (by decide)).list (s := .key rootKey) trivial _
  | item _ hitems _ ih => exact ((ih hkey).field hitems (by decide)).push _

/-- What stands under a key is reported on only when the key is an absolute path, and such a key is
shown in quotes. -/
theorem keyStep_of_reported [Pattern.SizeTest]
    (hreported : ∃ diagnostics, Site.resolve raw = .error diagnostics ∧
      ∃ d ∈ diagnostics, e.path <+: d.field) :
    ∀ key ∈ e.key?, FieldPath.keyStep key = .key key := by
  rw [Site.resolve, ← Checked.reports_iff_result] at hreported
  cases e with
  | headTag | navItem | socialLink => rintro _ ⟨⟩
  | group key i =>
      obtain ⟨groups, ⟨area, hdeclares⟩, -⟩ := (Site.reports_group List.prefix_rfl).mp hreported
      rintro _ ⟨⟩
      exact Sidebar.keyStep_of_area hdeclares.area
  | item key i j =>
      have hpath := (FieldPath.prefix_field (groupPath key i) "items").trans
        (FieldPath.prefix_push _ (.index j))
      obtain ⟨groups, ⟨area, hdeclares⟩, -⟩ := (Site.reports_group hpath).mp hreported
      rintro _ ⟨⟩
      exact Sidebar.keyStep_of_area hdeclares.area

/-- A config has an element as a table with an unknown key, and resolution reports on the element.
The table is what the draft has as the element, and the unknown key is listed at its place. The
place and the path of the element are spelled alike exactly when the records around the table, and
the sidebar, are written as tables. -/
theorem render_place_iff [Pattern.SizeTest] {format : Format} {content : Text} {opening : Spot}
    {members : Members} {name : Text} {value : Node}
    (hread : Draft.read format content = .ok (raw, ignored))
    (hroot : format.root? content = some root)
    (hfound : e.FoundIn root around place (.table opening members))
    (hmember : members.Has name value) (hunknown : name ∉ e.fields)
    (hreported : ∃ diagnostics, Site.resolve raw = .error diagnostics ∧
      ∃ d ∈ diagnostics, e.path <+: d.field) :
    e.TakenFrom raw place (.table opening members) ignored ∧
      place.push (FieldPath.keyStep name) ∈ ignored ∧
      (place.render = e.path.render ↔ ∀ n ∈ around, n.IsTable) := by
  have htaken := hfound.takenFrom ⟨ignored, decode_root hread hroot, List.Subset.refl _⟩
  exact ⟨htaken, htaken.unknown_mem hmember hunknown,
    (hfound.follows (keyStep_of_reported hreported)).render_iff⟩

end Element

/-- A config of which only the sidebar is written. -/
def withSidebar (sidebar : Value) : Value :=
  .table [("themeConfig".toList, .table [("sidebar".toList, sidebar)])]

/-- A group without a text, and in it a link whose target has a misspelled name. -/
def misspelledGroup : Value := .table [("items".toList,
  .list [.table [("text".toList, .text ['A']), ("lnk".toList, .text ['/'])]])]

/-- The draft of a sidebar with that group under a key. -/
def withMisspelledGroup (key : Text) : Draft :=
  { theme := some { sidebar := some [(key, [{ items := some [{ text := some ['A'] }] }])] } }

namespace Element

/-- In a map of groups the misspelled name is listed at the path of the link, where the target is
reported as missing. -/
theorem render_place_of_map : ∃ root around place opening members value,
    Format.root? .json (Json.compact
        (withSidebar (.table [("/a".toList, .list [misspelledGroup])]))) = some root ∧
      (item "/a".toList 0 0).FoundIn root around place (.table opening members) ∧
      members.Has "lnk".toList value ∧
      (item "/a".toList 0 0).TakenFrom (withMisspelledGroup "/a".toList) place
        (.table opening members) [(item "/a".toList 0 0).path.field "lnk"] ∧
      place.push (FieldPath.keyStep "lnk".toList) ∈ [(item "/a".toList 0 0).path.field "lnk"] ∧
      (place.render = (item "/a".toList 0 0).path.render ↔ ∀ n ∈ around, n.IsTable) := by
  have hread : Draft.read .json (Json.compact
      (withSidebar (.table [("/a".toList, .list [misspelledGroup])]))) =
        .ok (withMisspelledGroup "/a".toList, [(item "/a".toList 0 0).path.field "lnk"]) := rfl
  -- the title and the text of the group are told before the target of the link
  have hreported : ∃ diagnostics,
      Site.resolve (withMisspelledGroup "/a".toList) = .error diagnostics ∧
        ∃ d ∈ diagnostics, (item "/a".toList 0 0).path <+: d.field :=
    ⟨_, rfl, _, .tail _ (.tail _ (.head _)), List.prefix_append _ _⟩
  refine ⟨_, _, _, _, _, _, rfl, .item (.group (.named .here) (.named .here) .here rfl)
    (.named .here) rfl, .later .here, ?_⟩
  exact render_place_iff hread rfl (.item (.group (.named .here) (.named .here) .here rfl)
    (.named .here) rfl) (.later .here) (by decide) hreported

/-- In a bare list of groups an unknown key is listed without the key of the sidebar, under which
the group is reported. -/
theorem listed_group_spelled_apart : ¬∀ (format : Format) (content : Text) (raw : Draft)
    (ignored : List FieldPath) (root : Node) (e : Element) (around : List Node) (place : FieldPath)
    (opening : Spot) (members : Members) (name : Text) (value : Node),
    Draft.read format content = .ok (raw, ignored) → format.root? content = some root →
      e.FoundIn root around place (.table opening members) → members.Has name value →
      name ∉ e.fields →
      (∃ diagnostics, Site.resolve raw = .error diagnostics ∧
        ∃ d ∈ diagnostics, e.path <+: d.field) →
      place.render = e.path.render := by
  intro h
  have hread : Draft.read .json (Json.compact
      (groupValue [("text".toList, .text []), ("x".toList, .flag true)])) =
        .ok ({ theme := some { sidebar := some [(rootKey, [{ text := some [] }])] } },
          [Draft.groupPath "x"]) := rfl
  have hspelled := h .json _ _ _ _ (group rootKey 0) _ _ _ _ "x".toList _ hread rfl
    (.listedGroup (.named .here) (.named .here) rfl) (.later .here) (by decide)
    ⟨_, rfl, _, .tail _ (.head _), List.prefix_append _ _⟩
  exact absurd hspelled (by decide)

end Element

end Draft

end Signpost
