import Mathlib.Data.List.Forall2
import Signpost.Proofs.Document.Roles
import Signpost.Proofs.Document.Taking

/-!
# Passing over unknown members

A decoder reads values of a role when it looks at every part of a value, takes the same from a tree
with more unknown members, and lists the paths of all unknown members. How each way to build a
decoder keeps this is said here once, so a record only has to name the roles of its fields.
-/

namespace Signpost.Document

/-! ## Outcomes of decoders -/

namespace Decoded

variable {α β : Type} {d : Decoded α}

theorem bind_eq_ok {f : α → Decoded β} {b : β} {ignored : List FieldPath} :
    (d >>= f) = Except.ok (b, ignored) ↔
      ∃ a first second, d = Except.ok (a, first) ∧ f a = Except.ok (b, second) ∧
        ignored = first ++ second := by
  change Decoded.andThen d f = _ ↔ _
  constructor
  · intro h
    rw [andThen.eq_def] at h
    split at h
    · cases h
    next a first =>
      split at h
      · cases h
      next hsecond =>
        obtain ⟨rfl, rfl⟩ := Prod.mk.inj (Except.ok.inj h)
        exact ⟨a, first, _, rfl, hsecond, rfl⟩
  · rintro ⟨a, first, second, rfl, hsecond, rfl⟩
    rw [andThen]
    simp only [hsecond]
    rfl

theorem map_eq_ok {f : α → β} {b : β} {ignored : List FieldPath} :
    (d >>= fun a => pure (f a)) = Except.ok (b, ignored) ↔
      ∃ a, d = Except.ok (a, ignored) ∧ f a = b := by
  rw [bind_eq_ok]
  constructor
  · rintro ⟨a, first, second, hfirst, hsecond, rfl⟩
    obtain ⟨rfl, rfl⟩ := Prod.mk.inj (Except.ok.inj hsecond)
    exact ⟨a, by rw [hfirst, List.append_nil], rfl⟩
  · rintro ⟨a, hfirst, rfl⟩
    exact ⟨a, ignored, [], hfirst, rfl, (List.append_nil _).symm⟩

end Decoded

/-- The decoder reads values of the role. -/
structure Decoder.Reads {α : Type} (decoder : Decoder α) (role : Role) : Prop where
  /-- What is taken in could be passed over. -/
  whole : ∀ {path : FieldPath} {node : Node} {r : α × List FieldPath}, node.Coherent →
    decoder path node = Except.ok r → node.passing = none
  /-- More unknown members do not change what is taken in, and the unknown ones are listed. -/
  follows : ∀ {path : FieldPath} {tree tree' : Tree} {node node' : Node} {a : α}
    {ignored : List FieldPath}, tree.Extends role tree' → node.Mirrors tree → node'.Mirrors tree' →
      decoder path node = Except.ok (a, ignored) →
        decoder path node' = Except.ok (a, tree'.unknown role path)

namespace Decoder

variable {α β : Type} {value : Decoder α} {role : Role} {path : FieldPath}

theorem reads_text : Decoder.text.Reads role where
  whole {path node r} _ h := by
    cases node with
    | text => rfl
    | _ => cases h
  follows {path tree tree' node node' a ignored} hext hnode hnode' h := by
    cases hnode with
    | text t after =>
        cases hext
        cases hnode'
        obtain ⟨rfl, -⟩ := Prod.mk.inj (Except.ok.inj h)
        rfl
    | _ => cases h

theorem reads_flag : Decoder.flag.Reads role where
  whole {path node r} _ h := by
    cases node with
    | flag => rfl
    | _ => cases h
  follows {path tree tree' node node' a ignored} hext hnode hnode' h := by
    cases hnode with
    | flag b after =>
        cases hext
        cases hnode'
        obtain ⟨rfl, -⟩ := Prod.mk.inj (Except.ok.inj h)
        rfl
    | _ => cases h

theorem Reads.map (h : value.Reads role) (f : α → β) :
    Decoder.Reads (fun path node => value path node >>= fun a => pure (f a)) role where
  whole hcoherent hok := by
    obtain ⟨a, hvalue, -⟩ := Decoded.map_eq_ok.mp hok
    exact h.whole hcoherent hvalue
  follows hext hnode hnode' hok := by
    obtain ⟨a, hvalue, rfl⟩ := Decoded.map_eq_ok.mp hok
    exact Decoded.map_eq_ok.mpr ⟨a, h.follows hext hnode hnode' hvalue, rfl⟩

theorem optional_of_mirrors {tree : Tree} {node : Node} (hnode : node.Mirrors tree)
    (hne : tree ≠ .null) :
    Decoder.optional value path node = value path node >>= fun a => pure (some a) := by
  cases hnode with
  | null => exact absurd rfl hne
  | _ => rfl

theorem reads_optional (h : value.Reads role) : (Decoder.optional value).Reads role where
  whole {path node r} hcoherent hok := by
    cases node with
    | null => rfl
    | _ => exact (h.map some).whole hcoherent hok
  follows {path tree tree' node node' a ignored} hext hnode hnode' hok := by
    obtain ⟨rfl, rfl⟩ | ⟨hne, hne'⟩ : (tree = .null ∧ tree' = .null) ∨
        tree ≠ .null ∧ tree' ≠ .null := by cases hext <;> simp
    · cases hnode
      cases hnode'
      obtain ⟨rfl, -⟩ := Prod.mk.inj (Except.ok.inj hok)
      rfl
    · rw [optional_of_mirrors hnode hne] at hok
      rw [optional_of_mirrors hnode' hne']
      exact (h.map some).follows hext hnode hnode' hok

/-! ## Lists and tables of values -/

theorem items_whole (h : ∀ i, value.Reads (role.element i)) {i : Nat} {items : Items}
    {r : List α × List FieldPath} (hcoherent : items.Coherent)
    (hok : Decoder.items value path i items = Except.ok r) : items.passing = none := by
  match items with
  | .close _ => rfl
  | .cut _ _ => cases hok
  | .item node follow rest =>
      rw [Decoder.items] at hok
      obtain ⟨a, _, _, hfirst, hrest, -⟩ := Decoded.bind_eq_ok.mp hok
      obtain ⟨as, hothers, -⟩ := Decoded.map_eq_ok.mp hrest
      obtain ⟨hnode, hitems, -⟩ := hcoherent
      rw [Items.passing, (h i).whole hnode hfirst, items_whole h hitems hothers, Option.none_or]

theorem items_follows (h : ∀ i, value.Reads (role.element i)) {i : Nat} {trees trees' : List Tree}
    {items items' : Items} {as : List α} {ignored : List FieldPath}
    (hext : Tree.ExtendsItems role i trees trees') (hitems : items.Mirrors trees)
    (hitems' : items'.Mirrors trees')
    (hok : Decoder.items value path i items = Except.ok (as, ignored)) :
    Decoder.items value path i items' =
      Except.ok (as, Tree.unknownItems role path i trees') := by
  induction trees generalizing i trees' items items' as ignored with
  | nil =>
      cases hext
      cases hitems
      cases hitems'
      obtain ⟨rfl, -⟩ := Prod.mk.inj (Except.ok.inj hok)
      rfl
  | cons tree trees ih =>
      obtain _ | ⟨first, others⟩ := hext
      obtain _ | ⟨hnode, hrest, -⟩ := hitems
      obtain _ | ⟨hnode', hrest', -⟩ := hitems'
      rw [Decoder.items] at hok
      obtain ⟨a, _, _, hfirst, hmore, -⟩ := Decoded.bind_eq_ok.mp hok
      obtain ⟨as, hothers, rfl⟩ := Decoded.map_eq_ok.mp hmore
      rw [Decoder.items, Tree.unknownItems]
      exact Decoded.bind_eq_ok.mpr ⟨a, _, _, (h i).follows first hnode hnode' hfirst,
        Decoded.map_eq_ok.mpr ⟨as, ih others hrest hrest' hothers, rfl⟩, rfl⟩

theorem reads_list (h : ∀ i, value.Reads (role.element i)) : (Decoder.list value).Reads role where
  whole {path node r} hcoherent hok := by
    cases node with
    | list opening items => exact items_whole h hcoherent hok
    | _ => cases hok
  follows {path tree tree' node node' a ignored} hext hnode hnode' hok := by
    cases hnode with
    | list opening inside =>
        cases hext with
        | list hext =>
          cases hnode' with
          | list opening' inside' => exact items_follows h hext inside inside' hok
    | _ => cases hok

/-- A key that was taken in was read as the name. -/
theorem name_of_key {k : Key} {name : Option Text} {t : Text} {ignored : List FieldPath}
    (hk : k.Names name) (h : Decoder.key k = Except.ok (t, ignored)) : name = some t := by
  cases hk with
  | readable =>
      obtain ⟨rfl, -⟩ := Prod.mk.inj (Except.ok.inj h)
      rfl
  | unreadable => cases h

theorem key_ignored {k : Key} {t : Text} {ignored : List FieldPath}
    (h : Decoder.key k = Except.ok (t, ignored)) : ignored = [] := by
  rw [Decoder.key] at h
  split at h
  · exact (Prod.mk.inj (Except.ok.inj h)).2.symm
  · cases h

theorem key_of_name {k : Key} {name : Text} (hk : k.Names (some name)) :
    Decoder.key k = Except.ok (name, []) := by
  cases hk
  rfl

theorem members_whole (h : ∀ name, ∃ r, role.member? name = some r ∧ value.Reads r)
    {members : Members} {r : List (Text × α) × List FieldPath} (hcoherent : members.Coherent)
    (hok : Decoder.members value path members = Except.ok r) : members.passing = none := by
  match members with
  | .close _ => rfl
  | .cut _ _ => cases hok
  | .member k node rest =>
      rw [Decoder.members] at hok
      obtain ⟨name, _, _, -, hmore, -⟩ := Decoded.bind_eq_ok.mp hok
      obtain ⟨a, _, _, hfirst, hmore, -⟩ := Decoded.bind_eq_ok.mp hmore
      obtain ⟨as, hothers, -⟩ := Decoded.map_eq_ok.mp hmore
      obtain ⟨r, -, hreads⟩ := h name
      obtain ⟨hnode, hmembers⟩ := hcoherent
      rw [Members.passing, hreads.whole hnode hfirst, members_whole h hmembers hothers,
        Option.none_or]

theorem members_follows (h : ∀ name, ∃ r, role.member? name = some r ∧ value.Reads r)
    {pairs pairs' : List (Option Text × Tree)} {members members' : Members}
    {entries : List (Text × α)} {ignored : List FieldPath}
    (hext : Tree.ExtendsMembers role pairs pairs') (hmembers : members.Mirrors pairs)
    (hmembers' : members'.Mirrors pairs')
    (hok : Decoder.members value path members = Except.ok (entries, ignored)) :
    Decoder.members value path members' =
      Except.ok (entries, Tree.unknownMembers role path pairs') := by
  induction pairs' generalizing pairs members members' entries ignored with
  | nil =>
      cases hext
      cases hmembers
      cases hmembers'
      obtain ⟨rfl, -⟩ := Prod.mk.inj (Except.ok.inj hok)
      rfl
  | cons pair pairs' ih =>
      cases hext with
      | extra tree hnone others =>
          obtain ⟨r, hsome, -⟩ := h _
          rw [hsome] at hnone
          cases hnone
      | member first others =>
          obtain _ | ⟨hkey, hnode, hrest⟩ := hmembers
          obtain _ | ⟨hkey', hnode', hrest'⟩ := hmembers'
          rw [Decoder.members] at hok
          obtain ⟨name, _, _, hname, hmore, -⟩ := Decoded.bind_eq_ok.mp hok
          obtain ⟨a, _, _, hfirst, hmore, -⟩ := Decoded.bind_eq_ok.mp hmore
          obtain ⟨as, hothers, rfl⟩ := Decoded.map_eq_ok.mp hmore
          obtain rfl := name_of_key hkey hname
          obtain ⟨r, hr, hreads⟩ := h name
          rw [Role.inner, hr] at first
          rw [Decoder.members, Tree.unknownMembers, hr]
          exact Decoded.bind_eq_ok.mpr ⟨name, [], _, key_of_name hkey',
            Decoded.bind_eq_ok.mpr ⟨a, _, _, hreads.follows first hnode hnode' hfirst,
              Decoded.map_eq_ok.mpr ⟨as, ih others hrest hrest' hothers, rfl⟩, rfl⟩, rfl⟩

theorem reads_entries (h : ∀ name, ∃ r, role.member? name = some r ∧ value.Reads r) :
    (Decoder.entries value).Reads role where
  whole {path node r} hcoherent hok := by
    cases node with
    | table opening members => exact members_whole h hcoherent hok
    | _ => cases hok
  follows {path tree tree' node node' a ignored} hext hnode hnode' hok := by
    cases hnode with
    | table opening inside =>
        cases hext with
        | table hext =>
          cases hnode' with
          | table opening' inside' => exact members_follows h hext inside inside' hok
    | _ => cases hok

end Decoder

/-! ## Lists with a reader for each position -/

/-- The elements from position `i` on are read as what the role has there. -/
structure ReadsItems {α : Type} (decode : Items → Decoded α) (role : Role) (path : FieldPath)
    (i : Nat) : Prop where
  whole : ∀ {items : Items} {r : α × List FieldPath}, items.Coherent →
    decode items = Except.ok r → items.passing = none
  follows : ∀ {trees trees' : List Tree} {items items' : Items} {a : α} {ignored : List FieldPath},
    Tree.ExtendsItems role i trees trees' → items.Mirrors trees → items'.Mirrors trees' →
      decode items = Except.ok (a, ignored) →
        decode items' = Except.ok (a, Tree.unknownItems role path i trees')

/-- A reader that ends with the list, or takes the next element and goes on behind it. -/
theorem ReadsItems.item {α β : Type} {decode : Items → Decoded α} {value : Decoder β}
    {next : β → Items → Decoded α} {role : Role} {path : FieldPath} {i : Nat}
    (hvalue : value.Reads (role.element i)) (hnext : ∀ b, ReadsItems (next b) role path (i + 1))
    (hclose : ∀ {after after' : Spot} {r : α × List FieldPath},
      decode (.close after) = Except.ok r → r.2 = [] ∧ decode (.close after') = Except.ok r)
    (hcut : ∀ {reading passing : Fault} {r : α × List FieldPath},
      decode (.cut reading passing) ≠ Except.ok r)
    (hitem : ∀ {node : Node} {follow : Follow} {rest : Items}, decode (.item node follow rest) =
      value (path.push (.index i)) node >>= fun b => next b rest) :
    ReadsItems decode role path i where
  whole {items r} hcoherent hok := by
    match items with
    | .close _ => rfl
    | .cut _ _ => exact absurd hok hcut
    | .item node follow rest =>
        rw [hitem] at hok
        obtain ⟨b, _, _, hfirst, hmore, -⟩ := Decoded.bind_eq_ok.mp hok
        obtain ⟨hnode, hrest, -⟩ := hcoherent
        rw [Items.passing, hvalue.whole hnode hfirst, (hnext b).whole hrest hmore, Option.none_or]
  follows {trees trees' items items' a ignored} hext hitems hitems' hok := by
    match hext, hitems, hitems' with
    | .nil _ _, .close _, .close _ =>
        obtain ⟨rfl, hok'⟩ := hclose hok
        exact hok'
    | .cons first others, .item hnode hrest _, .item hnode' hrest' _ =>
        rw [hitem] at hok ⊢
        obtain ⟨b, _, _, hfirst, hmore, -⟩ := Decoded.bind_eq_ok.mp hok
        exact Decoded.bind_eq_ok.mpr ⟨b, _, _, hvalue.follows first hnode hnode' hfirst,
          (hnext b).follows others hrest hrest' hmore, rfl⟩

/-! ## Records -/

theorem Decoder.skip_eq_ok {path : FieldPath} {node : Node} {u : Unit} {ignored : List FieldPath} :
    Decoder.skip path node = Except.ok (u, ignored) ↔ node.passing = none ∧ ignored = [path] := by
  rw [Decoder.skip]
  split
  next hpass =>
    rw [hpass]
    exact ⟨nofun, fun h => nomatch h.1⟩
  next hpass =>
    rw [hpass]
    constructor
    · intro h
      exact ⟨rfl, (Prod.mk.inj (Except.ok.inj h)).2.symm⟩
    · rintro ⟨-, rfl⟩
      rfl

/-- The field has the name, and its values are read as the role. -/
structure Slot.ReadsAs {ρ : Type} (slot : Slot ρ) (field : Text × Role) : Prop where
  name : slot.name = field.1
  reads : slot.read.Reads field.2

namespace Shape

variable {ρ : Type} {shape : Shape ρ} {role : Role} {path : FieldPath}

/-- The role names the fields of the record and the roles of their values. -/
structure Fits (shape : Shape ρ) (role : Role) : Prop where
  fields : shape.fields ≠ []
  known : ∀ {name : Text} {slot : Slot ρ}, shape.field? name = some slot →
    ∃ r, role.member? name = some r ∧ slot.read.Reads r
  unknown : ∀ {name : Text}, shape.field? name = none →
    shape.strict = true ∨ role.member? name = none
  loose : ∀ {name : Text}, role.member? name = none → shape.strict = false
  elements : ∀ {i : Nat} {slot : Slot ρ}, shape.fields[i]? = some slot →
    slot.read.Reads (role.element i)

theorem Fits.field?_eq_none (h : shape.Fits role) {name : Text} (hnone : role.member? name = none) :
    shape.field? name = none := by
  cases hfield : shape.field? name with
  | none => rfl
  | some slot =>
      obtain ⟨r, hsome, -⟩ := h.known hfield
      exact nomatch hnone.symm.trans hsome

/-- Taking in a record goes on behind a member, be it a field or not. -/
theorem ofMembers_member_eq_ok {seen : List Text} {record result : ρ} {k : Key} {node : Node}
    {rest : Members} {ignored : List FieldPath} :
    shape.ofMembers path seen record (.member k node rest) = Except.ok (result, ignored) ↔
      ∃ name more, Decoder.key k = Except.ok (name, []) ∧
        ((shape.field? name = none ∧ shape.strict = false ∧ node.passing = none ∧
            shape.ofMembers path seen record rest = Except.ok (result, more) ∧
              ignored = path.push (FieldPath.keyStep name) :: more) ∨
          ∃ slot set first, shape.field? name = some slot ∧ name ∉ seen ∧
            slot.read (path.push (FieldPath.keyStep name)) node = Except.ok (set, first) ∧
              shape.ofMembers path (name :: seen) (set record) rest = Except.ok (result, more) ∧
                ignored = first ++ more) := by
  rw [ofMembers]
  constructor
  · intro hok
    obtain ⟨name, _, second, hkey, hmore, rfl⟩ := Decoded.bind_eq_ok.mp hok
    obtain rfl := Decoder.key_ignored hkey
    rw [List.nil_append]
    cases hfield : shape.field? name with
    | none =>
        simp only [hfield] at hmore
        split at hmore
        · cases hmore
        rename_i hstrict
        obtain ⟨u, _, more, hskip, hrest, rfl⟩ := Decoded.bind_eq_ok.mp hmore
        obtain ⟨hpass, rfl⟩ := Decoder.skip_eq_ok.mp hskip
        refine ⟨name, more, hkey, .inl ⟨hfield, ?_, hpass, hrest, rfl⟩⟩
        simpa using hstrict
    | some slot =>
        simp only [hfield] at hmore
        split at hmore
        · cases hmore
        rename_i hfresh
        obtain ⟨set, first, more, hread, hrest, rfl⟩ := Decoded.bind_eq_ok.mp hmore
        refine ⟨name, more, hkey, .inr ⟨slot, set, first, hfield, ?_, hread, hrest, rfl⟩⟩
        simpa using hfresh
  · rintro ⟨name, more, hkey, ⟨hfield, hstrict, hpass, hrest, rfl⟩ |
      ⟨slot, set, first, hfield, hfresh, hread, hrest, rfl⟩⟩
    · refine Decoded.bind_eq_ok.mpr ⟨name, [], _, hkey, ?_, rfl⟩
      simp only [hfield, hstrict]
      exact Decoded.bind_eq_ok.mpr
        ⟨(), _, more, Decoder.skip_eq_ok.mpr ⟨hpass, rfl⟩, hrest, rfl⟩
    · refine Decoded.bind_eq_ok.mpr ⟨name, [], _, hkey, ?_, rfl⟩
      simp only [hfield]
      rw [if_neg (by simpa using hfresh)]
      exact Decoded.bind_eq_ok.mpr ⟨set, first, more, hread, hrest, rfl⟩

theorem ofMembers_whole (h : shape.Fits role) {seen : List Text} {record : ρ} {members : Members}
    {r : ρ × List FieldPath} (hcoherent : members.Coherent)
    (hok : shape.ofMembers path seen record members = Except.ok r) : members.passing = none := by
  match members with
  | .close _ => rfl
  | .cut _ _ => cases hok
  | .member k node rest =>
      obtain ⟨hnode, hmembers⟩ := hcoherent
      rw [Members.passing, Option.or_eq_none_iff]
      obtain ⟨name, more, -, ⟨-, -, hpass, hrest, -⟩ |
        ⟨slot, set, first, hfield, -, hread, hrest, -⟩⟩ := ofMembers_member_eq_ok.mp hok
      · exact ⟨hpass, ofMembers_whole h hmembers hrest⟩
      · obtain ⟨r, -, hreads⟩ := h.known hfield
        exact ⟨hreads.whole hnode hread, ofMembers_whole h hmembers hrest⟩

theorem ofMembers_follows (h : shape.Fits role) {seen : List Text} {record result : ρ}
    {pairs pairs' : List (Option Text × Tree)} {members members' : Members}
    {ignored : List FieldPath} (hext : Tree.ExtendsMembers role pairs pairs')
    (hmembers : members.Mirrors pairs) (hmembers' : members'.Mirrors pairs')
    (hok : shape.ofMembers path seen record members = Except.ok (result, ignored)) :
    shape.ofMembers path seen record members' =
      Except.ok (result, Tree.unknownMembers role path pairs') := by
  induction pairs' generalizing pairs members members' seen record ignored with
  | nil =>
      cases hext
      cases hmembers
      cases hmembers'
      obtain ⟨rfl, -⟩ := Prod.mk.inj (Except.ok.inj hok)
      rfl
  | cons pair pairs' ih =>
      cases hext with
      | extra tree hnone others =>
          obtain _ | ⟨hkey, hnode, hrest⟩ := hmembers'
          rw [Tree.unknownMembers, hnone]
          exact ofMembers_member_eq_ok.mpr ⟨_, _, Decoder.key_of_name hkey, .inl
            ⟨h.field?_eq_none hnone, h.loose hnone, hnode.passing, ih others hmembers hrest hok,
              rfl⟩⟩
      | member first others =>
          obtain _ | ⟨hkey, hnode, hrest⟩ := hmembers
          obtain _ | ⟨hkey', hnode', hrest'⟩ := hmembers'
          obtain ⟨name, more, hname, ⟨hfield, hstrict, -, hmore, -⟩ |
            ⟨slot, set, ignored, hfield, hfresh, hread, hmore, -⟩⟩ := ofMembers_member_eq_ok.mp hok
          · obtain rfl := Decoder.name_of_key hkey hname
            obtain hnone : role.member? name = none :=
              (h.unknown hfield).resolve_left (by rw [hstrict]; decide)
            rw [Tree.unknownMembers, hnone]
            exact ofMembers_member_eq_ok.mpr ⟨name, _, Decoder.key_of_name hkey', .inl
              ⟨hfield, hstrict, hnode'.passing, ih others hrest hrest' hmore, rfl⟩⟩
          · obtain rfl := Decoder.name_of_key hkey hname
            obtain ⟨r, hr, hreads⟩ := h.known hfield
            rw [Role.inner, hr] at first
            rw [Tree.unknownMembers, hr]
            exact ofMembers_member_eq_ok.mpr ⟨name, _, Decoder.key_of_name hkey', .inr
              ⟨slot, set, _, hfield, hfresh, hreads.follows first hnode hnode' hread,
                ih others hrest hrest' hmore, rfl⟩⟩

theorem ofItems_whole {slots : List (Slot ρ)} {i : Nat} {surplus : Option Fault} {record : ρ}
    {items : Items} {r : ρ × List FieldPath}
    (hslots : ∀ {j : Nat} {slot : Slot ρ}, slots[j]? = some slot →
      slot.read.Reads (role.element (i + j)))
    (hend : slots = [] → surplus = none → items.passing = none) (hcoherent : items.Coherent)
    (hok : ofItems path slots i surplus record items = Except.ok r) : items.passing = none := by
  match slots, surplus, items with
  | _, _, .close _ => rfl
  | [], some fault, .cut _ _ => cases hok
  | [], some fault, .item _ _ _ => cases hok
  | [], none, _ => exact hend rfl rfl
  | _ :: _, _, .cut _ _ => cases hok
  | slot :: slots, _, .item node follow rest =>
      rw [ofItems] at hok
      obtain ⟨set, _, _, hread, hrest, -⟩ := Decoded.bind_eq_ok.mp hok
      obtain ⟨hnode, hitems, hlast⟩ := hcoherent
      have hfirst : slot.read.Reads (role.element i) := hslots (j := 0) rfl
      rw [Items.passing, hfirst.whole hnode hread, Option.none_or]
      refine ofItems_whole (fun {j slot} hslot => ?_) (fun _ => hlast) hitems hrest
      rw [Nat.add_assoc, Nat.add_comm 1]
      exact hslots (j := j + 1) hslot

theorem ofItems_follows {slots : List (Slot ρ)} {i : Nat} {surplus surplus' : Option Fault}
    {record result : ρ} {trees trees' : List Tree} {items items' : Items}
    {ignored : List FieldPath}
    (hslots : ∀ {j : Nat} {slot : Slot ρ}, slots[j]? = some slot →
      slot.read.Reads (role.element (i + j)))
    (hend : slots = [] → surplus = none → trees = [])
    (hext : Tree.ExtendsItems role i trees trees') (hitems : items.Mirrors trees)
    (hitems' : items'.Mirrors trees')
    (hok : ofItems path slots i surplus record items = Except.ok (result, ignored)) :
    ofItems path slots i surplus' record items' =
      Except.ok (result, Tree.unknownItems role path i trees') := by
  match hext, hitems, hitems' with
  | .nil _ _, .close _, .close _ =>
      have hclose : ∀ surplus after,
          ofItems path slots i surplus record (.close after) = Except.ok (record, []) := by
        intro surplus after
        cases slots <;> rfl
      rw [hclose] at hok ⊢
      obtain ⟨rfl, -⟩ := Prod.mk.inj (Except.ok.inj hok)
      rfl
  | .cons first others, .item hnode hrest hlast, .item hnode' hrest' hlast' =>
      match slots with
      | [] =>
          cases surplus with
          | none => exact nomatch hend rfl rfl
          | some fault => cases hok
      | slot :: slots =>
          rw [ofItems] at hok
          obtain ⟨set, _, _, hread, hmore, -⟩ := Decoded.bind_eq_ok.mp hok
          have hfirst : slot.read.Reads (role.element i) := hslots (j := 0) rfl
          rw [ofItems, Tree.unknownItems]
          refine Decoded.bind_eq_ok.mpr ⟨set, _, _, hfirst.follows first hnode hnode' hread,
            ofItems_follows (fun {j slot} hslot => ?_) (fun _ => hlast.mp) others hrest hrest'
              hmore, rfl⟩
          rw [Nat.add_assoc, Nat.add_comm 1]
          exact hslots (j := j + 1) hslot

theorem Fits.slots (h : shape.Fits role) {j : Nat} {slot : Slot ρ}
    (hslot : shape.fields[j]? = some slot) : slot.read.Reads (role.element (0 + j)) := by
  rw [Nat.zero_add]
  exact h.elements hslot

theorem Fits.reads (h : shape.Fits role) : shape.decode.Reads role where
  whole {path node r} hcoherent hok := by
    cases node with
    | table opening members => exact ofMembers_whole h hcoherent hok
    | list opening items =>
        exact ofItems_whole h.slots (fun hnil => absurd hnil h.fields) hcoherent hok
    | _ => cases hok
  follows {path tree tree' node node' a ignored} hext hnode hnode' hok := by
    cases hnode with
    | table opening inside =>
        cases hext with
        | table hext =>
          cases hnode' with
          | table opening' inside' => exact ofMembers_follows h hext inside inside' hok
    | list opening inside =>
        cases hext with
        | list hext =>
          cases hnode' with
          | list opening' inside' =>
            exact ofItems_follows h.slots (fun hnil => absurd hnil h.fields) hext inside inside' hok
    | _ => cases hok

/-- A name is found among the fields of a record exactly when it is among the named roles. -/
theorem find?_lookup {slots : List (Slot ρ)} {fields : List (Text × Role)}
    (h : List.Forall₂ Slot.ReadsAs slots fields) (name : Text) :
    (slots.find? (·.name == name) = none ∧ fields.lookup name = none) ∨
      ∃ slot r, slots.find? (·.name == name) = some slot ∧ fields.lookup name = some r ∧
        slot.read.Reads r := by
  induction h with
  | nil => exact .inl ⟨rfl, rfl⟩
  | @cons slot field slots fields hfirst _ ih =>
      obtain ⟨hname, hreads⟩ := hfirst
      by_cases heq : slot.name = name
      · refine .inr ⟨slot, field.2, List.find?_cons_of_pos (beq_iff_eq.mpr heq), ?_, hreads⟩
        obtain ⟨key, r⟩ := field
        rw [← heq, hname, List.lookup_cons_self]
      · have hne : (name == field.1) = false := by
          rw [beq_eq_false_iff_ne, ← hname]
          exact Ne.symm heq
        obtain ⟨key, r⟩ := field
        rw [List.find?_cons_of_neg (by simpa using heq), List.lookup_cons, hne]
        exact ih

/-- A record that passes over unknown fields fits the role that names its fields in order. -/
theorem fits_record {fields : List (Text × Role)} (hne : shape.fields ≠ [])
    (hloose : shape.strict = false) (h : List.Forall₂ Slot.ReadsAs shape.fields fields) :
    shape.Fits (.record fields) where
  fields := hne
  known {name slot} hslot := by
    obtain ⟨hnone, -⟩ | ⟨slot', r, hsome, hrole, hreads⟩ := find?_lookup h name
    · exact nomatch hnone.symm.trans hslot
    · obtain rfl := Option.some.inj (hsome.symm.trans hslot)
      exact ⟨r, hrole, hreads⟩
  unknown {name} hslot := by
    obtain ⟨-, hnone⟩ | ⟨slot', r, hsome, -⟩ := find?_lookup h name
    · exact .inr hnone
    · exact nomatch hsome.symm.trans hslot
  loose _ := hloose
  elements {i slot} hslot := by
    obtain ⟨hi, rfl⟩ := List.getElem?_eq_some_iff.mp hslot
    have hi' : i < fields.length := h.length_eq ▸ hi
    rw [Role.element, List.getElem?_eq_getElem hi']
    exact (h.get hi hi').reads

/-- A record without unknown fields fits the role in which nothing is unknown. -/
theorem fits_whole (hne : shape.fields ≠ []) (hstrict : shape.strict = true)
    (h : ∀ slot ∈ shape.fields, slot.read.Reads .whole) : shape.Fits .whole where
  fields := hne
  known hslot := ⟨.whole, rfl, h _ (mem_of_field? hslot).1⟩
  unknown _ := .inl hstrict
  loose hnone := nomatch hnone
  elements hslot := h _ (List.mem_of_getElem? hslot)

end Shape

end Signpost.Document
