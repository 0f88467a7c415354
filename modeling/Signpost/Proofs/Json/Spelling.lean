import Signpost.Proofs.Document.Taking
import Signpost.Proofs.Json.Grammar

/-!
# Spellings of a value

A text spells a value when it is made of the tokens of the value in order, with any white space
between them. Spellings are JSON texts, so the reader finds the value in each of them. Both layouts
of the writer are spellings.
-/

namespace Signpost.Json

open Document

mutual

/-- The text spells the value. -/
inductive Spells : Value → Text → Prop where
  | null : Spells .null "null".toList
  | flag (b : Bool) : Spells (.flag b) (writeFlag b)
  | text (t : Text) : Spells (.text t) (writeText t)
  | noItems {gap : Text} (hgap : Gap gap) : Spells (.list []) ('[' :: (gap ++ [']']))
  | list {gap t : Text} {values : List Value} (hgap : Gap gap) (inside : SpellsItems values t) :
      Spells (.list values) ('[' :: (gap ++ t ++ [']']))
  | noMembers {gap : Text} (hgap : Gap gap) : Spells (.table []) ('{' :: (gap ++ ['}']))
  | table {gap t : Text} {pairs : List (Text × Value)} (hgap : Gap gap)
      (inside : SpellsMembers pairs t) : Spells (.table pairs) ('{' :: (gap ++ t ++ ['}']))

/-- The text spells the elements with commas between them. -/
inductive SpellsItems : List Value → Text → Prop where
  | last {v : Value} {t behind : Text} (value : Spells v t) (hbehind : Gap behind) :
      SpellsItems [v] (t ++ behind)
  | more {v : Value} {t behind before t' : Text} {values : List Value} (value : Spells v t)
      (hbehind : Gap behind) (hbefore : Gap before) (others : SpellsItems values t') :
      SpellsItems (v :: values) (t ++ (behind ++ ',' :: (before ++ t')))

/-- The text spells the members with commas between them. -/
inductive SpellsMembers : List (Text × Value) → Text → Prop where
  | last {v : Value} {key left right t behind : Text} (hleft : Gap left) (hright : Gap right)
      (value : Spells v t) (hbehind : Gap behind) :
      SpellsMembers [(key, v)] (writeText key ++ (left ++ ':' :: (right ++ (t ++ behind))))
  | more {v : Value} {key left right t behind before t' : Text} {pairs : List (Text × Value)}
      (hleft : Gap left) (hright : Gap right) (value : Spells v t) (hbehind : Gap behind)
      (hbefore : Gap before) (others : SpellsMembers pairs t') :
      SpellsMembers ((key, v) :: pairs)
        (writeText key ++ (left ++ ':' :: (right ++ (t ++ (behind ++ ',' :: (before ++ t'))))))

end

/-! ## Spellings are JSON -/

theorem denotes_flatMap_writeChar (t : Text) : Denotes (t.flatMap writeChar) t := by
  obtain ⟨body, hbody, hdenotes⟩ := denotes_of_readQuoted (readQuoted_flatMap_writeChar t [])
  obtain rfl := List.append_cancel_right hbody
  exact hdenotes

theorem writeText_append (t rest : Text) :
    writeText t ++ rest = '"' :: (t.flatMap writeChar ++ '"' :: rest) := by
  rw [writeText, List.cons_append, List.cons_append, List.append_assoc, List.singleton_append]

mutual

theorem Spells.written {v : Value} {t : Text} (h : Spells v t) : Written v.tree t := by
  match h with
  | .null => exact .null
  | .flag b => exact .flag b
  | .text t => exact .text (denotes_flatMap_writeChar t)
  | .noItems hgap => exact .noItems hgap
  | .list hgap inside => exact .list hgap inside.written
  | .noMembers hgap => exact .noMembers hgap
  | .table hgap inside => exact .table hgap inside.written

theorem SpellsItems.written {values : List Value} {t : Text} (h : SpellsItems values t) :
    WrittenItems (Value.trees values) t := by
  match h with
  | .last value hbehind => exact .last value.written hbehind
  | .more value hbehind hbefore others =>
      exact .more value.written hbehind hbefore others.written

theorem SpellsMembers.written {pairs : List (Text × Value)} {t : Text}
    (h : SpellsMembers pairs t) : WrittenMembers (Value.namedTrees pairs) t := by
  match h with
  | .last hleft hright value hbehind =>
      rw [writeText_append]
      exact .last (denotes_flatMap_writeChar _) hleft hright value.written hbehind
  | .more hleft hright value hbehind hbefore others =>
      rw [writeText_append]
      exact .more (denotes_flatMap_writeChar _) hleft hright value.written hbehind hbefore
        others.written

end

/-- A spelling of a value, with white space around it, is a JSON text of its tree. -/
theorem Spells.isText {v : Value} {before t behind : Text} (h : Spells v t) (hbefore : Gap before)
    (hbehind : Gap behind) : IsText v.tree (before ++ t ++ behind) :=
  .mk hbefore h.written hbehind

/-- A value is found in each of its spellings. -/
theorem Spells.reads {v : Value} {before t behind : Text} (h : Spells v t) (hbefore : Gap before)
    (hbehind : Gap behind) :
    ∃ node, read (before ++ t ++ behind) = (node, none) ∧ Node.Shows node v := by
  obtain ⟨node, hread, hmirrors⟩ := (h.isText hbefore hbehind).reads
  exact ⟨node, hread, v.shows_of_mirrors hmirrors⟩

/-- A text spells one value. -/
theorem Spells.unique {v v' : Value} {t : Text} (h : Spells v t) (h' : Spells v' t) : v = v' := by
  obtain ⟨node, hread, hshows⟩ := h.reads gap_nil gap_nil
  obtain ⟨node', hread', hshows'⟩ := h'.reads gap_nil gap_nil
  obtain rfl : node = node' := congrArg Prod.fst (hread.symm.trans hread')
  exact hshows.unique hshows'

/-- Decoding a spelling of a value takes the value in; white space around it does not count. -/
theorem decode_spells {α : Type} {decoder : Decoder α} {v : Value} {a : α} {before t behind : Text}
    (h : Spells v t) (hbefore : Gap before) (hbehind : Gap behind) (taken : decoder.Takes v a) :
    decode decoder (before ++ t ++ behind) = .ok (a, []) := by
  obtain ⟨node, hread, hshows⟩ := h.reads hbefore hbehind
  exact decode_eq_ok.mpr ⟨node, hread, taken.reads [] node hshows⟩

/-! ## What the writer spells -/

theorem gap_space : Gap [' '] := List.forall_mem_singleton.mpr rfl

theorem gap_newLine (level : Nat) : Gap (newLine level) := by
  refine List.forall_mem_cons.mpr ⟨rfl, fun c hc => ?_⟩
  rw [List.eq_of_mem_replicate hc]
  rfl

mutual

theorem spells_compact : ∀ v : Value, Spells v (compact v)
  | .null => .null
  | .flag b => .flag b
  | .text t => .text t
  | .list [] => .noItems gap_nil
  | .list (v :: rest) => .list gap_nil (spells_compactItems (v :: rest) (List.cons_ne_nil _ _))
  | .table [] => .noMembers gap_nil
  | .table (m :: rest) =>
      .table gap_nil (spells_compactMembers (m :: rest) (List.cons_ne_nil _ _))

theorem spells_compactItems :
    ∀ values : List Value, values ≠ [] → SpellsItems values (compactItems values)
  | [], h => absurd rfl h
  | [v], _ => by
      have hlast := SpellsItems.last (spells_compact v) gap_nil
      rwa [List.append_nil] at hlast
  | v :: w :: rest, _ =>
      .more (spells_compact v) gap_nil gap_nil
        (spells_compactItems (w :: rest) (List.cons_ne_nil _ _))

theorem spells_compactMembers :
    ∀ pairs : List (Text × Value), pairs ≠ [] → SpellsMembers pairs (compactMembers pairs)
  | [], h => absurd rfl h
  | [(key, v)], _ => by
      have hlast : SpellsMembers [(key, v)] (writeText key ++ ':' :: (compact v ++ [])) :=
        .last gap_nil gap_nil (spells_compact v) gap_nil
      rwa [List.append_nil] at hlast
  | (key, v) :: m :: rest, _ => by
      rw [compactMembers, List.append_assoc]
      · exact .more gap_nil gap_nil (spells_compact v) gap_nil gap_nil
          (spells_compactMembers (m :: rest) (List.cons_ne_nil _ _))
      · nofun

end

mutual

theorem spells_pretty (level : Nat) : ∀ v : Value, Spells v (pretty level v)
  | .null => .null
  | .flag b => .flag b
  | .text t => .text t
  | .list [] => .noItems gap_nil
  | .list (v :: rest) => by
      obtain ⟨t, ht, inside⟩ := spells_prettyItems (level + 1) (v :: rest) (List.cons_ne_nil _ _)
      have hlist := Spells.list (gap_newLine (level + 1)) (inside _ (gap_newLine level))
      rwa [← List.append_assoc, ← ht] at hlist
  | .table [] => .noMembers gap_nil
  | .table (m :: rest) => by
      obtain ⟨t, ht, inside⟩ := spells_prettyMembers (level + 1) (m :: rest) (List.cons_ne_nil _ _)
      have htable := Spells.table (gap_newLine (level + 1)) (inside _ (gap_newLine level))
      rwa [← List.append_assoc, ← ht] at htable

/-- Elements on lines of their own start with a line break; a gap may stand behind the last. -/
theorem spells_prettyItems (level : Nat) : ∀ values : List Value, values ≠ [] →
    ∃ t, prettyItems level values = newLine level ++ t ∧
      ∀ gap, Gap gap → SpellsItems values (t ++ gap)
  | [], h => absurd rfl h
  | [v], _ => ⟨_, rfl, fun _ hgap => .last (spells_pretty level v) hgap⟩
  | v :: w :: rest, _ => by
      obtain ⟨t, ht, inside⟩ := spells_prettyItems level (w :: rest) (List.cons_ne_nil _ _)
      refine ⟨pretty level v ++ ',' :: (newLine level ++ t), ?_, fun gap hgap => ?_⟩
      · rw [prettyItems, ht, List.append_assoc]
        nofun
      · have hmore := SpellsItems.more (spells_pretty level v) gap_nil (gap_newLine level)
          (inside gap hgap)
        simpa only [List.append_assoc, List.cons_append, List.nil_append] using hmore

theorem spells_prettyMembers (level : Nat) : ∀ pairs : List (Text × Value), pairs ≠ [] →
    ∃ t, prettyMembers level pairs = newLine level ++ t ∧
      ∀ gap, Gap gap → SpellsMembers pairs (t ++ gap)
  | [], h => absurd rfl h
  | [(key, v)], _ => by
      refine ⟨writeText key ++ ':' :: ' ' :: pretty level v, ?_, fun gap hgap => ?_⟩
      · rw [prettyMembers, List.append_assoc, List.append_assoc]
        rfl
      · rw [List.append_assoc]
        exact .last gap_nil gap_space (spells_pretty level v) hgap
  | (key, v) :: m :: rest, _ => by
      obtain ⟨t, ht, inside⟩ := spells_prettyMembers level (m :: rest) (List.cons_ne_nil _ _)
      refine ⟨writeText key ++ ':' :: ' ' :: (pretty level v ++ ',' :: (newLine level ++ t)), ?_,
        fun gap hgap => ?_⟩
      · rw [prettyMembers, ht]
        · simp only [List.append_assoc]
          rfl
        · nofun
      · have hmore : SpellsMembers ((key, v) :: m :: rest) _ := .more gap_nil gap_space
          (spells_pretty level v) gap_nil (gap_newLine level) (inside gap hgap)
        simpa only [List.append_assoc, List.cons_append, List.nil_append] using hmore

end

end Signpost.Json
