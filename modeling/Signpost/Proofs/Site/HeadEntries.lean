import Signpost.Proofs.Document.Exact
import Signpost.Proofs.Site.Places

/-!
# The grammar of head entries

A head entry is a list of a name, a map from texts to texts and perhaps a text, or a table of these
three under their keys, each of which may be left out. The grammar is stated on trees, apart from
the reader that goes through the elements one by one and through the members one by one:
`Head.read_iff_written` says that the reader takes in exactly what the grammar has, alone and as an
entry of a config, and that what is resolved from an entry does not depend on its form.
-/

namespace Signpost.Draft

open Document

/-- The tree of a map from texts to texts, with its order and its repetitions. -/
def attributesTree (attributes : Entries Text) : Tree :=
  .table (attributes.map fun entry => (some entry.1, .text (some entry.2)))

/-- The keys of a tag table. -/
def HeadTable.keys : List Text := ["tagName".toList, "attributes".toList, "content".toList]

/-- The members of a table are those of a tag: no key is repeated and there is no other key. A name
and a content may be null, which is as if they were not there. -/
structure HeadTable.Written (pairs : List (Option Text × Tree)) (t : HeadTable) : Prop where
  distinct : (pairs.map Prod.fst).Nodup
  known : ∀ key ∈ pairs.map Prod.fst, ∃ name ∈ keys, key = some name
  tag : Tree.Field (Tree.OrNull fun tree name => tree = .text (some name)) none "tagName".toList
    pairs t.tag
  attributes : Tree.Field (fun tree attributes => tree = attributesTree attributes) []
    "attributes".toList pairs t.attributes
  content : Tree.Field (Tree.OrNull fun tree content => tree = .text (some content)) none
    "content".toList pairs t.content

/-- The tree is a head entry, which is one of the three forms of a tag. -/
inductive Head.Written : Tree → Head → Prop where
  | simple (tag : Text) (attributes : Entries Text) :
      Head.Written (.list [.text (some tag), attributesTree attributes]) (.simple tag attributes)
  | withContent (tag : Text) (attributes : Entries Text) (content : Text) :
      Head.Written (.list [.text (some tag), attributesTree attributes, .text (some content)])
        (.withContent tag attributes content)
  | table {pairs : List (Option Text × Tree)} {t : HeadTable} (h : HeadTable.Written pairs t) :
      Head.Written (.table pairs) (.table t.tag t.attributes t.content)

/-! ## Tables -/

theorem exact_attributes : (Decoder.entries Decoder.text).Exact fun tree attributes =>
    tree = attributesTree attributes where
  eq_ok {path node tree} hnode {r} := by
    rw [Decoder.exact_text.entries.eq_ok hnode]
    -- the members are the entries one by one
    have hpairs : ∀ (pairs : List (Option Text × Tree)) (entries : Entries Text),
        List.Forall₂ (fun pair entry => pair.1 = some entry.1 ∧ pair.2 = .text (some entry.2))
          pairs entries ↔ pairs = entries.map fun entry => (some entry.1, .text (some entry.2)) := by
      intro pairs entries
      rw [← List.forall₂_eq_eq_eq, List.forall₂_map_right_iff]
      simp only [Prod.ext_iff]
    simp only [hpairs, attributesTree, exists_eq_right]

theorem exact_optionalText : (Decoder.optional Decoder.text).Exact
    (Tree.OrNull fun tree t => tree = .text (some t)) :=
  Decoder.exact_text.optional fun _ => nofun

theorem HeadTable.nodup_fields : (HeadTable.shape.fields.map Slot.name).Nodup := by
  show ["tagName".toList, "attributes".toList, "content".toList].Nodup
  decide

theorem HeadTable.holds_tag :
    HeadTable.shape.Holds "tagName".toList (Decoder.optional .text) HeadTable.tag :=
  Shape.holds_of [] [_, _] nodup_fields rfl rfl (sets_field fun _ _ => rfl)
    (by simp [keeps_field, Slot.keeps_of])

theorem HeadTable.holds_attributes :
    HeadTable.shape.Holds "attributes".toList (Decoder.entries .text) HeadTable.attributes :=
  Shape.holds_of [_] [_] nodup_fields rfl rfl (Slot.sets_of fun _ _ => rfl)
    (by simp [keeps_field])

theorem HeadTable.holds_content :
    HeadTable.shape.Holds "content".toList (Decoder.optional .text) HeadTable.content :=
  Shape.holds_of [_, _] [] nodup_fields rfl rfl (sets_field fun _ _ => rfl)
    (by simp [keeps_field, Slot.keeps_of])

/-- Each member of a tag table is taken in by itself. -/
theorem HeadTable.Written.admits {pairs : List (Option Text × Tree)} {t : HeadTable}
    (h : HeadTable.Written pairs t) : ∀ pair ∈ pairs, ∃ name slot, pair.1 = some name ∧ name ∉ [] ∧
      HeadTable.shape.field? name = some slot ∧ slot.Admits pair.2 := by
  intro pair hmem
  obtain ⟨key, tree⟩ := pair
  obtain ⟨name, hname, rfl⟩ := h.known key (List.mem_map_of_mem hmem)
  simp only [keys, List.mem_cons, List.not_mem_nil, or_false] at hname
  obtain rfl | rfl | rfl := hname
  · exact ⟨_, _, rfl, List.not_mem_nil, rfl,
      Slot.admits_of exact_optionalText (h.tag.of_mem h.distinct hmem)⟩
  · exact ⟨_, _, rfl, List.not_mem_nil, rfl,
      Slot.admits_of exact_attributes (h.attributes.of_mem h.distinct hmem)⟩
  · exact ⟨_, _, rfl, List.not_mem_nil, rfl,
      Slot.admits_of exact_optionalText (h.content.of_mem h.distinct hmem)⟩

/-- What is taken in as a tag table is written as one. -/
theorem HeadTable.written_of_ofMembers {path : FieldPath} {members : Members}
    {pairs : List (Option Text × Tree)} (hmembers : members.Mirrors pairs) {t : HeadTable}
    {ignored : List FieldPath}
    (hok : HeadTable.shape.ofMembers path [] HeadTable.shape.blank members =
      Except.ok (t, ignored)) : HeadTable.Written pairs t where
  distinct := (Shape.ofMembers_names rfl hmembers hok).1
  known key hmem := by
    obtain ⟨name, hname, hkey, -⟩ := (Shape.ofMembers_names rfl hmembers hok).2 key hmem
    exact ⟨name, hname, hkey⟩
  tag := (holds_tag.field_iff exact_optionalText hmembers hok).mpr rfl
  attributes := (holds_attributes.field_iff exact_attributes hmembers hok).mpr rfl
  content := (holds_content.field_iff exact_optionalText hmembers hok).mpr rfl

theorem HeadTable.ofMembers_eq_ok {path : FieldPath} {members : Members}
    {pairs : List (Option Text × Tree)} (hmembers : members.Mirrors pairs)
    {r : HeadTable × List FieldPath} :
    HeadTable.shape.ofMembers path [] HeadTable.shape.blank members = Except.ok r ↔
      ∃ t, HeadTable.Written pairs t ∧ r = (t, []) := by
  have hcomplete : ∀ {t}, HeadTable.Written pairs t →
      HeadTable.shape.ofMembers path [] HeadTable.shape.blank members = Except.ok (t, []) := by
    intro t h
    have hfound : ∃ found, HeadTable.shape.ofMembers path [] HeadTable.shape.blank members =
        Except.ok (found, []) := Shape.exists_ofMembers_eq_ok hmembers h.distinct h.admits
    obtain ⟨⟨tag, attributes, content⟩, hok⟩ := hfound
    obtain rfl : tag = t.tag := (holds_tag.field_iff exact_optionalText hmembers hok).mp h.tag
    obtain rfl : attributes = t.attributes :=
      (holds_attributes.field_iff exact_attributes hmembers hok).mp h.attributes
    obtain rfl : content = t.content :=
      (holds_content.field_iff exact_optionalText hmembers hok).mp h.content
    exact hok
  constructor
  · intro hok
    have h := written_of_ofMembers hmembers hok
    exact ⟨r.1, h, Except.ok.inj (hok.symm.trans (hcomplete h))⟩
  · intro hsome
    obtain ⟨t, h, rfl⟩ := hsome
    exact hcomplete h

/-! ## Lists -/

theorem Head.listEnd_eq_ok {path : FieldPath} {tag content : Text} {attributes : Entries Text}
    {items : Items} {trees : List Tree} (hitems : items.Mirrors trees)
    {r : Head × List FieldPath} :
    Head.listEnd path tag attributes content items = Except.ok r ↔
      trees = [] ∧ r = (.withContent tag attributes content, []) := by
  cases hitems with
  | close after =>
      rw [and_iff_right rfl]
      exact ⟨fun hok => (Except.ok.inj hok).symm, fun heq => congrArg _ heq.symm⟩
  | item first others hlast =>
      exact iff_of_false Head.listEnd_item_ne_ok fun h => List.cons_ne_nil _ _ h.1

theorem Head.listContent_eq_ok {path : FieldPath} {tag : Text} {attributes : Entries Text}
    {items : Items} {trees : List Tree} (hitems : items.Mirrors trees)
    {r : Head × List FieldPath} :
    Head.listContent path tag attributes items = Except.ok r ↔
      (trees = [] ∧ r = (.simple tag attributes, [])) ∨
        ∃ content, trees = [.text (some content)] ∧ r = (.withContent tag attributes content, []) := by
  cases hitems with
  | close after =>
      constructor
      · intro hok
        cases hok
        exact .inl ⟨rfl, rfl⟩
      · intro hcases
        obtain ⟨-, rfl⟩ | ⟨_, htrees, -⟩ := hcases
        · rfl
        · cases htrees
  | item first others hlast =>
      rw [Head.listContent, Decoder.exact_text.bind_eq_ok first]
      simp only [Head.listEnd_eq_ok others, List.cons.injEq, List.cons_ne_nil, false_and, false_or,
        and_assoc]

theorem Head.listAttributes_eq_ok {path : FieldPath} {tag : Text} {items : Items}
    {trees : List Tree} (hitems : items.Mirrors trees) {r : Head × List FieldPath} :
    Head.listAttributes path tag items = Except.ok r ↔
      ∃ attributes rest, trees = attributesTree attributes :: rest ∧
        ((rest = [] ∧ r = (.simple tag attributes, [])) ∨
          ∃ content, rest = [.text (some content)] ∧
            r = (.withContent tag attributes content, [])) := by
  cases hitems with
  | close after =>
      constructor
      · intro hok
        cases hok
      · intro hsome
        obtain ⟨_, _, htrees, -⟩ := hsome
        cases htrees
  | item first others hlast =>
      rw [Head.listAttributes, exact_attributes.bind_eq_ok first]
      simp only [Head.listContent_eq_ok others, List.cons.injEq, and_assoc, exists_and_left,
        exists_eq_left']

theorem Head.ofList_eq_ok {path : FieldPath} {items : Items} {trees : List Tree}
    (hitems : items.Mirrors trees) {r : Head × List FieldPath} :
    Head.ofList path items = Except.ok r ↔
      ∃ head, Head.Written (.list trees) head ∧ r = (head, []) := by
  cases hitems with
  | close after =>
      constructor
      · intro hok
        cases hok
      · intro hsome
        obtain ⟨_, hwritten, -⟩ := hsome
        cases hwritten
  | item first others hlast =>
      rw [Head.ofList, Decoder.exact_text.bind_eq_ok first]
      simp only [Head.listAttributes_eq_ok others]
      constructor
      · intro hsome
        obtain ⟨tag, rfl, attributes, rest, rfl, ⟨rfl, rfl⟩ | ⟨content, rfl, rfl⟩⟩ := hsome
        · exact ⟨_, .simple tag attributes, rfl⟩
        · exact ⟨_, .withContent tag attributes content, rfl⟩
      · intro hsome
        obtain ⟨head, hwritten, rfl⟩ := hsome
        cases hwritten with
        | simple tag attributes => exact ⟨tag, rfl, attributes, [], rfl, .inl ⟨rfl, rfl⟩⟩
        | withContent tag attributes content =>
            exact ⟨tag, rfl, attributes, _, rfl, .inr ⟨content, rfl, rfl⟩⟩

/-- An entry is taken in exactly when it is written in one of the three forms. -/
theorem Head.exact : Head.decode.Exact Head.Written where
  eq_ok {path node tree} hnode {r} := by
    cases hnode with
    | list opening inside =>
        rw [Head.decode]
        exact Head.ofList_eq_ok inside
    | table opening inside =>
        obtain ⟨head, ignored⟩ := r
        rw [Head.decode, Decoded.map_eq_ok]
        simp only [HeadTable.ofMembers_eq_ok inside]
        constructor
        · intro hsome
          obtain ⟨_, ⟨t, hwritten, heq⟩, rfl⟩ := hsome
          obtain ⟨rfl, rfl⟩ := Prod.mk.inj heq
          exact ⟨_, .table hwritten, rfl⟩
        · intro hsome
          obtain ⟨_, hwritten, heq⟩ := hsome
          obtain ⟨rfl, rfl⟩ := Prod.mk.inj heq
          cases hwritten with
          | table hwritten => exact ⟨_, ⟨_, hwritten, rfl⟩, rfl⟩
    | _ =>
        constructor
        · intro hok
          cases hok
        · intro hsome
          obtain ⟨_, hwritten, -⟩ := hsome
          cases hwritten

/-! ## Entries of a config -/

theorem exact_heads : (Decoder.optional (Decoder.list Head.decode)).Exact
    (Tree.OrNull fun tree heads => ∃ entries, tree = .list entries ∧
      List.Forall₂ Head.Written entries heads) := by
  refine Head.exact.list.optional ?_
  intro heads hnull
  obtain ⟨_, htree, -⟩ := hnull
  cases htree

theorem holds_head :
    shape.Holds "head".toList (Decoder.optional (.list Head.decode)) Draft.head :=
  Shape.holds_of [_, _, _, _, _, _] [_] nodup_fields rfl rfl (sets_field fun _ _ => rfl)
    (by simp [keeps_field])

/-- The field of the head entries. -/
def headSlot : Slot Draft :=
  optionalField "head" (.list Head.decode) fun heads d => { d with head := heads }

theorem headSlot_read {entries : List Tree} {heads : List Head} {path : FieldPath} {node : Node}
    (hnode : node.Mirrors (.list entries)) (hwritten : List.Forall₂ Head.Written entries heads) :
    headSlot.read path node = Except.ok (fun d => { d with head := some heads }, []) :=
  (exact_heads.bind_eq_ok hnode).mpr ⟨some heads, .value ⟨entries, rfl, hwritten⟩, rfl⟩

/-- The other fields do not look at the head entries. -/
theorem passes_head (heads : Option (List Head)) : ∀ slot ∈ shape.fields,
    slot.name ≠ "head".toList → slot.Passes fun d => { d with head := heads } := by
  repeat refine List.forall_mem_cons.mpr ⟨fun _ => Slot.passes_of fun _ _ => rfl, ?_⟩
  refine List.forall_mem_cons.mpr ⟨fun hne => absurd rfl hne, ?_⟩
  exact List.forall_mem_singleton.mpr fun _ => Slot.passes_of fun _ _ => rfl

/-- A list without elements, found anywhere. -/
def noEntries : Node := .list .nowhere (.close .nowhere)

theorem noEntries_mirrors : noEntries.Mirrors (.list []) := .list _ (.close _)

/-- Entries that are written in the three forms may stand where there are none. -/
theorem decode_of_written {before : List (Key × Node)} {key : Key} {found : Node} {rest : Members}
    {opening : Spot} {entries : List Tree} {heads : List Head} {d : Draft}
    {ignored : List FieldPath} (hkey : key.Names (some "head".toList))
    (hfound : found.Mirrors (.list entries)) (hwritten : List.Forall₂ Head.Written entries heads)
    (hok : shape.decode [] (.table opening ((Members.member key noEntries rest).behind before)) =
      Except.ok (d, ignored)) :
    shape.decode [] (.table opening ((Members.member key found rest).behind before)) =
      Except.ok ({ d with head := some heads }, ignored) := by
  have hfield : shape.field? "head".toList = some headSlot := rfl
  exact Shape.ofMembers_replace (passes_head (some heads)) hfield
    (headSlot_read noEntries_mirrors .nil) (headSlot_read hfound hwritten) (fun _ => rfl) hkey
    before hok

/-- A config that is taken in without head entries is taken in with some exactly when each of them
is written in one of the three forms, and it differs in its head entries only. -/
theorem decode_heads {front back : List (Option Text × Tree)} {entries : List Tree}
    {bare node : Node} {d : Draft} {ignored : List FieldPath}
    (hbare : bare.Mirrors (.table (front ++ (some "head".toList, .list []) :: back)))
    (hnode : node.Mirrors (.table (front ++ (some "head".toList, .list entries) :: back)))
    (hok : shape.decode [] bare = Except.ok (d, ignored)) {r : Draft × List FieldPath} :
    shape.decode [] node = Except.ok r ↔ ∃ heads, List.Forall₂ Head.Written entries heads ∧
      r = ({ d with head := some heads }, ignored) := by
  obtain _ | _ | _ | _ | _ | _ | _ | _ | ⟨opening, inside⟩ := hnode
  obtain ⟨before, key, found, rest, rfl, hkey, hfound, hmirrors⟩ := inside.exists_behind front
  have hplaced := Node.Mirrors.table opening (hmirrors noEntries_mirrors)
  -- where the other members stand does not matter
  have hsame : shape.decode [] (.table opening ((Members.member key noEntries rest).behind before)) =
      Except.ok (d, ignored) :=
    (reads.follows (.refl _ _) hbare hplaced hok).trans
      ((reads.follows (.refl _ _) hbare hbare hok).symm.trans hok)
  constructor
  · intro hread
    obtain ⟨listed, htaken, -⟩ :=
      Shape.ofMembers_has holds_head hread (Members.has_behind hkey before)
    obtain ⟨heads, hmeans, -⟩ := (exact_heads.eq_ok hfound).mp htaken
    cases hmeans with
    | value hmeans =>
      obtain ⟨_, htree, hwritten⟩ := hmeans
      cases htree
      exact ⟨_, hwritten,
        Except.ok.inj (hread.symm.trans (decode_of_written hkey hfound hwritten hsame))⟩
  · intro hsome
    obtain ⟨heads, hwritten, rfl⟩ := hsome
    exact decode_of_written hkey hfound hwritten hsame

end Signpost.Draft

namespace Signpost

open Document

theorem HeadTag.resolve_value {field : FieldPath} {raw : Draft.Head} :
    (HeadTag.resolve field raw).value =
      ⟨Text.trim (raw.tag.getD []), raw.attributes, raw.content⟩ := by
  rw [HeadTag.resolve]
  dsimp only
  split <;> rfl

/-- Two entries are resolved alike, with the same problems, exactly when they have the same name but
for the white space around it, the same attributes in the same order, and the same content. -/
theorem HeadTag.resolve_eq_iff {field : FieldPath} {raw raw' : Draft.Head} :
    HeadTag.resolve field raw = HeadTag.resolve field raw' ↔
      Text.trim (raw.tag.getD []) = Text.trim (raw'.tag.getD []) ∧
        raw.attributes = raw'.attributes ∧ raw.content = raw'.content := by
  constructor
  · intro h
    have hvalue := congrArg Checked.value h
    rw [resolve_value, resolve_value] at hvalue
    exact HeadTag.mk.inj hvalue
  · intro h
    obtain ⟨htag, hattributes, hcontent⟩ := h
    simp only [HeadTag.resolve, htag, hattributes, hcontent]

/-- The one grammar of head entries. A value is taken in as a head entry exactly when it is written
in one of the three forms, and then in this form, with nothing passed over. In a config that is
taken in without head entries, a list of entries is taken in exactly when each of them is written
so, and the draft differs in its head entries only. What an entry is resolved to does not depend on
its form. -/
theorem Draft.Head.read_iff_written :
    (∀ {tree : Tree} {t : Text}, Json.IsText tree t → ∀ r : Draft.Head × List FieldPath,
      Json.decode Draft.Head.decode t = .ok r ↔
        ∃ head, Draft.Head.Written tree head ∧ r = (head, [])) ∧
    (∀ {front back : List (Option Text × Tree)} {entries : List Tree} {t₀ t : Text} {d : Draft}
      {ignored : List FieldPath},
      Json.IsText (.table (front ++ (some "head".toList, .list []) :: back)) t₀ →
      Json.IsText (.table (front ++ (some "head".toList, .list entries) :: back)) t →
      Draft.read .json t₀ = .ok (d, ignored) → ∀ r : Draft × List FieldPath,
        Draft.read .json t = .ok r ↔ ∃ heads, List.Forall₂ Draft.Head.Written entries heads ∧
          r = ({ d with head := some heads }, ignored)) ∧
    ∀ (field : FieldPath) (raw raw' : Draft.Head),
      HeadTag.resolve field raw = HeadTag.resolve field raw' ↔
        Text.trim (raw.tag.getD []) = Text.trim (raw'.tag.getD []) ∧
          raw.attributes = raw'.attributes ∧ raw.content = raw'.content := by
  refine ⟨?_, ?_, fun _ _ _ => HeadTag.resolve_eq_iff⟩
  · intro tree t ht r
    obtain ⟨node, hnode, hdecode⟩ := ht.exists_node
    rw [hdecode, Draft.Head.exact.eq_ok hnode]
  · intro front back entries t₀ t d ignored ht₀ ht hok r
    obtain ⟨bare, hbare, hdecode₀⟩ := ht₀.exists_node
    obtain ⟨node, hnode, hdecode⟩ := ht.exists_node
    rw [Draft.read_json_eq_ok, hdecode₀] at hok
    rw [Draft.read_json_eq_ok, hdecode, Draft.decode_heads hbare hnode hok]

/-- A config with a title and head entries. -/
def Draft.headConfig (entries : List Value) : Value :=
  .table [("title".toList, .text "Guide".toList), ("head".toList, .list entries)]

/-- An entry with a repeated attribute and a content of null, and one without attributes. -/
def Draft.headEntries : List Value :=
  [.table [("content".toList, .null),
      ("attributes".toList, Draft.textEntries [("rel".toList, "icon".toList), ("rel".toList, [])]),
      ("tagName".toList, .text "link".toList)],
    .list [.text "meta".toList, Draft.textEntries []]]

/-- The tags of these entries. -/
def Draft.headTags : List Draft.Head :=
  [.table (some "link".toList) [("rel".toList, "icon".toList), ("rel".toList, [])] none,
    .simple "meta".toList []]

theorem Draft.headTable_written : Draft.HeadTable.Written
    [(some "content".toList, .null), (some "attributes".toList, Draft.attributesTree
      [("rel".toList, "icon".toList), ("rel".toList, [])]),
      (some "tagName".toList, .text (some "link".toList))]
    ⟨some "link".toList, [("rel".toList, "icon".toList), ("rel".toList, [])], none⟩ where
  distinct := by decide
  known := by simp [Draft.HeadTable.keys]
  tag := .written (.tail _ (.tail _ (.head _))) (.value rfl)
  attributes := .written (.tail _ (.head _)) rfl
  content := .written (.head _) .null

/-- The repeated attribute is kept and the null is as good as nothing. -/
theorem Draft.Head.read_iff_written_two :
    Draft.read .json (Json.compact (Draft.headConfig Draft.headEntries)) =
      .ok ({ title := some "Guide".toList, head := some Draft.headTags }, []) := by
  have hbare := (Json.spells_compact (Draft.headConfig [])).isText Json.gap_nil Json.gap_nil
  have hfull := (Json.spells_compact (Draft.headConfig Draft.headEntries)).isText Json.gap_nil
    Json.gap_nil
  rw [List.append_nil, List.nil_append] at hbare hfull
  have hrest : Draft.read .json (Json.compact (Draft.headConfig [])) =
      .ok ({ title := some "Guide".toList, head := some [] }, []) := rfl
  have hread := @Draft.Head.read_iff_written.2.1
    [(some "title".toList, .text (some "Guide".toList))] [] _ _ _ _ _ hbare hfull hrest
  exact (hread _).mpr
    ⟨_, .cons (.table Draft.headTable_written) (.cons (.simple "meta".toList []) .nil), rfl⟩

end Signpost
