import Signpost.Proofs.Json.Grammar

/-!
# What is read is JSON

A found value that can be passed over was read from a text of some tree, so the reader follows no
text to its end that the grammar does not allow.
-/

namespace Signpost.Json

open Document

/-! ## Tokens -/

theorem skipSpace_eq (t : Text) : ∃ gap, Gap gap ∧ t = gap ++ skipSpace t :=
  ⟨t.takeWhile isSpace, List.all_eq_true.mp List.all_takeWhile,
    List.takeWhile_append_dropWhile.symm⟩

section Tokens

variable {t rest : Text} {node : Node}

theorem readWord_eq {word : Spot → Node} {letters : Text}
    (h : readWord word letters t = (node, rest)) (hpass : node.passing = none) :
    t = letters ++ rest := by
  induction letters generalizing t with
  | nil => exact (Prod.mk.inj h).2
  | cons a letters ih =>
      cases t with
      | nil =>
          obtain ⟨rfl, -⟩ := Prod.mk.inj h
          cases hpass
      | cons c t =>
          rw [readWord] at h
          split at h
          next hc => rw [hc, List.cons_append, ← ih h]
          next =>
            obtain ⟨rfl, -⟩ := Prod.mk.inj h
            cases hpass

theorem isMagnitude_of_numberNode {negative : Bool} (h : numberNode negative t = (node, rest))
    (hpass : node.passing = none) : ∃ u, t = u ++ rest ∧ IsMagnitude u := by
  refine isMagnitude_of_passNumber ?_
  rw [numberNode] at h
  split at h
  next hread =>
    obtain ⟨-, rfl⟩ := Prod.mk.inj h
    exact passNumber_of_readNumber hread
  next hread =>
    obtain ⟨-, rfl⟩ := Prod.mk.inj h
    exact passNumber_of_readNumber hread
  · split at h
    next hread =>
      obtain ⟨-, rfl⟩ := Prod.mk.inj h
      exact hread
    next =>
      obtain ⟨rfl, -⟩ := Prod.mk.inj h
      cases hpass

/-- What is found between quotes, be it taken in or passed over, is a body. -/
theorem Finds.isBody {found : Except Fault Text} (h : Finds t found rest) :
    ∃ body, t = body ++ '"' :: rest ∧ IsBody body := by
  cases found with
  | ok text =>
      obtain ⟨body, hbody, hdenotes⟩ := denotes_of_readQuoted h
      exact ⟨body, hbody, hdenotes.isBody⟩
  | error fault => exact isBody_of_passQuoted h.2

theorem isBody_of_textNode (h : textNode t = (node, rest)) (hpass : node.passing = none) :
    ∃ body, t = body ++ '"' :: rest ∧ IsBody body := by
  rw [textNode] at h
  split at h
  next text _ hread =>
    obtain ⟨-, rfl⟩ := Prod.mk.inj h
    have hfinds : Finds t (.ok text) _ := hread
    exact hfinds.isBody
  next fault hread =>
    split at h
    next hquoted =>
      obtain ⟨-, rfl⟩ := Prod.mk.inj h
      have hfinds : Finds t (.error fault) _ := ⟨hread, hquoted⟩
      exact hfinds.isBody
    next =>
      obtain ⟨rfl, -⟩ := Prod.mk.inj h
      cases hpass

theorem finds_of_key {found : Except Fault Text}
    (h : (match readQuoted 0 t with
      | .ok (text, rest) => .ok (.ok text, rest)
      | .error reading =>
        match passQuoted 0 t with
        | .ok rest => .ok (.error reading, rest)
        | .error passing => .error (reading, passing) :
          Except (Fault × Fault) (Except Fault Text × Text)) = .ok (found, rest)) :
    Finds t found rest := by
  split at h
  next hread =>
    obtain ⟨rfl, rfl⟩ := Prod.mk.inj (Except.ok.inj h)
    exact hread
  next hread =>
    split at h
    next hquoted =>
      obtain ⟨rfl, rfl⟩ := Prod.mk.inj (Except.ok.inj h)
      exact ⟨hread, hquoted⟩
    next => cases h

end Tokens

/-! ## What a step of the reader found -/

section Steps

variable {fuel : Nat} {t rest : Text} {node : Node} {items : Items} {members : Members}

theorem readValue_list_eq (h : readValue (fuel + 1) ('[' :: t) = (node, rest)) :
    ∃ items, node = .list ⟨'[' :: t, 0⟩ items ∧
      ((∃ reading passing, items = .cut reading passing) ∨
        (skipSpace t = ']' :: rest ∧ ∃ after, items = .close after) ∨
        readItems fuel (skipSpace t) = (items, rest)) := by
  rw [readValue] at h
  dsimp only at h
  split at h
  next =>
    obtain ⟨rfl, -⟩ := Prod.mk.inj h
    exact ⟨_, rfl, .inl ⟨_, _, rfl⟩⟩
  next hclose =>
    obtain ⟨rfl, rfl⟩ := Prod.mk.inj h
    exact ⟨_, rfl, .inr (.inl ⟨hclose, _, rfl⟩)⟩
  next =>
    obtain ⟨rfl, rfl⟩ := Prod.mk.inj h
    exact ⟨_, rfl, .inr (.inr rfl)⟩

theorem readValue_table_eq (h : readValue (fuel + 1) ('{' :: t) = (node, rest)) :
    ∃ members, node = .table ⟨'{' :: t, 0⟩ members ∧
      ((∃ reading passing, members = .cut reading passing) ∨
        (skipSpace t = '}' :: rest ∧ ∃ after, members = .close after) ∨
        ∃ u, skipSpace t = '"' :: u ∧ readMembers fuel u = (members, rest)) := by
  rw [readValue] at h
  dsimp only at h
  split at h
  next =>
    obtain ⟨rfl, -⟩ := Prod.mk.inj h
    exact ⟨_, rfl, .inl ⟨_, _, rfl⟩⟩
  next hclose =>
    obtain ⟨rfl, rfl⟩ := Prod.mk.inj h
    exact ⟨_, rfl, .inr (.inl ⟨hclose, _, rfl⟩)⟩
  next hquote =>
    obtain ⟨rfl, rfl⟩ := Prod.mk.inj h
    exact ⟨_, rfl, .inr (.inr ⟨_, hquote, rfl⟩)⟩
  next =>
    obtain ⟨rfl, -⟩ := Prod.mk.inj h
    exact ⟨_, rfl, .inl ⟨_, _, rfl⟩⟩

theorem followOf_other (h : ∀ rest, skipSpace t ≠ ']' :: rest) : (followOf t).surplus ≠ none := by
  rw [followOf]
  split
  · exact Option.some_ne_none _
  next heq => exact absurd heq (h _)
  · exact Option.some_ne_none _
  · exact Option.some_ne_none _

theorem readItems_eq (h : readItems (fuel + 1) t = (items, rest)) :
    ∃ node behind others, readValue fuel t = (node, behind) ∧
      items = .item node (followOf behind) others ∧
        (((∃ reading passing, others = .cut reading passing) ∧ (followOf behind).surplus ≠ none) ∨
          (skipSpace behind = ']' :: rest ∧ ∃ after, others = .close after) ∨
          ∃ next, skipSpace behind = ',' :: next ∧
            readItems fuel (skipSpace next) = (others, rest)) := by
  cases hvalue : readValue fuel t with
  | mk node behind =>
      refine ⟨node, behind, ?_⟩
      have hother := @followOf_other behind
      rw [readItems, hvalue] at h
      dsimp only at h
      split at h
      next heq =>
        obtain ⟨rfl, rfl⟩ := Prod.mk.inj h
        rw [heq] at hother
        exact ⟨_, rfl, rfl, .inl ⟨⟨_, _, rfl⟩, hother fun _ => (List.cons_ne_nil _ _).symm⟩⟩
      next hclose =>
        obtain ⟨rfl, rfl⟩ := Prod.mk.inj h
        exact ⟨_, rfl, rfl, .inr (.inl ⟨hclose, _, rfl⟩)⟩
      next more hcomma =>
        have hmore := followOf_more hcomma
        split at h
        next =>
          obtain ⟨rfl, rfl⟩ := Prod.mk.inj h
          exact ⟨_, rfl, rfl, .inl ⟨⟨_, _, rfl⟩, hmore⟩⟩
        next =>
          obtain ⟨rfl, rfl⟩ := Prod.mk.inj h
          exact ⟨_, rfl, rfl, .inl ⟨⟨_, _, rfl⟩, hmore⟩⟩
        next =>
          obtain ⟨rfl, rfl⟩ := Prod.mk.inj h
          exact ⟨_, rfl, rfl, .inr (.inr ⟨more, hcomma, rfl⟩)⟩
      next hclose _ =>
        obtain ⟨rfl, rfl⟩ := Prod.mk.inj h
        exact ⟨_, rfl, rfl, .inl ⟨⟨_, _, rfl⟩, hother hclose⟩⟩

theorem readMembers_eq (h : readMembers (fuel + 1) t = (members, rest)) :
    (∃ reading passing, members = .cut reading passing) ∨
      ∃ found behindText node others, Finds t found behindText ∧
        members = .member ⟨found, behindKey behindText⟩ node others ∧
          (((∃ reading passing, node = .cut reading passing) ∧
              ∃ reading passing, others = .cut reading passing) ∨
            ∃ right behind, skipSpace behindText = ':' :: right ∧
              readValue fuel (skipSpace right) = (node, behind) ∧
                ((∃ reading passing, others = .cut reading passing) ∨
                  (skipSpace behind = '}' :: rest ∧ ∃ after, others = .close after) ∨
                  ∃ next u, skipSpace behind = ',' :: next ∧ skipSpace next = '"' :: u ∧
                    readMembers fuel u = (others, rest))) := by
  rw [readMembers] at h
  dsimp only at h
  split at h
  next =>
    obtain ⟨rfl, -⟩ := Prod.mk.inj h
    exact .inl ⟨_, _, rfl⟩
  next found behindText hfound =>
    refine .inr ⟨found, behindText, ?_⟩
    have hkey := finds_of_key hfound
    split at h
    next =>
      obtain ⟨rfl, rfl⟩ := Prod.mk.inj h
      exact ⟨_, _, hkey, rfl, .inl ⟨⟨_, _, rfl⟩, _, _, rfl⟩⟩
    next right hcolon =>
      cases hvalue : readValue fuel (skipSpace right) with
      | mk node behind =>
          rw [hvalue] at h
          refine ⟨node, ?_⟩
          dsimp only at h
          split at h
          next =>
            obtain ⟨rfl, rfl⟩ := Prod.mk.inj h
            exact ⟨_, hkey, rfl, .inr ⟨right, behind, hcolon, hvalue, .inl ⟨_, _, rfl⟩⟩⟩
          next hclose =>
            obtain ⟨rfl, rfl⟩ := Prod.mk.inj h
            exact ⟨_, hkey, rfl, .inr ⟨right, behind, hcolon, hvalue, .inr (.inl ⟨hclose, _, rfl⟩)⟩⟩
          next next hcomma =>
            split at h
            next =>
              obtain ⟨rfl, rfl⟩ := Prod.mk.inj h
              exact ⟨_, hkey, rfl, .inr ⟨right, behind, hcolon, hvalue, .inl ⟨_, _, rfl⟩⟩⟩
            next u hquote =>
              obtain ⟨rfl, rfl⟩ := Prod.mk.inj h
              exact ⟨_, hkey, rfl,
                .inr ⟨right, behind, hcolon, hvalue, .inr (.inr ⟨next, u, hcomma, hquote, rfl⟩)⟩⟩
            next =>
              obtain ⟨rfl, rfl⟩ := Prod.mk.inj h
              exact ⟨_, hkey, rfl, .inr ⟨right, behind, hcolon, hvalue, .inl ⟨_, _, rfl⟩⟩⟩
            next =>
              obtain ⟨rfl, rfl⟩ := Prod.mk.inj h
              exact ⟨_, hkey, rfl, .inr ⟨right, behind, hcolon, hvalue, .inl ⟨_, _, rfl⟩⟩⟩
          next =>
            obtain ⟨rfl, rfl⟩ := Prod.mk.inj h
            exact ⟨_, hkey, rfl, .inr ⟨right, behind, hcolon, hvalue, .inl ⟨_, _, rfl⟩⟩⟩
    next =>
      obtain ⟨rfl, rfl⟩ := Prod.mk.inj h
      exact ⟨_, _, hkey, rfl, .inl ⟨⟨_, _, rfl⟩, _, _, rfl⟩⟩

end Steps

/-! ## Whatever can be passed over is written by the grammar -/

mutual

theorem written_of_readValue : ∀ (fuel : Nat) {t rest : Text} {node : Node},
    readValue fuel t = (node, rest) → node.passing = none →
      ∃ tree u, t = u ++ rest ∧ Written tree u
  | 0, t, rest, node, h, hpass => by
      rw [readValue] at h
      obtain ⟨rfl, -⟩ := Prod.mk.inj h
      cases hpass
  | fuel + 1, t, rest, node, h, hpass => by
      have hread := h
      rw [readValue.eq_def] at h
      dsimp only at h
      split at h
      next =>
        obtain ⟨rfl, -⟩ := Prod.mk.inj h
        cases hpass
      next =>
        obtain rfl := readWord_eq h hpass
        exact ⟨_, _, rfl, .null⟩
      next =>
        obtain rfl := readWord_eq h hpass
        exact ⟨_, _, rfl, .flag true⟩
      next =>
        obtain rfl := readWord_eq h hpass
        exact ⟨_, _, rfl, .flag false⟩
      next =>
        obtain ⟨body, rfl, hbody⟩ := isBody_of_textNode h hpass
        obtain ⟨content, hcontent⟩ := hbody.names
        refine ⟨_, '"' :: (body ++ ['"']), ?_, .text hcontent⟩
        rw [List.cons_append, List.append_assoc, List.singleton_append]
      next =>
        obtain ⟨u, rfl, hu⟩ := isMagnitude_of_numberNode h hpass
        exact ⟨_, _, rfl, .number (.minus hu)⟩
      next t =>
        obtain ⟨gap, hgap, ht⟩ := skipSpace_eq t
        obtain ⟨items, rfl, ⟨_, _, rfl⟩ | ⟨hclose, -⟩ | hitems⟩ := readValue_list_eq hread
        · cases hpass
        · refine ⟨_, '[' :: (gap ++ [']']), ?_, .noItems hgap⟩
          rw [ht, hclose, List.cons_append, List.append_assoc, List.singleton_append]
        · obtain ⟨trees, u, hu, inside⟩ := written_of_readItems fuel hitems hpass
          refine ⟨_, '[' :: (gap ++ u ++ [']']), ?_, .list hgap inside⟩
          rw [ht, hu]
          simp only [List.cons_append, List.append_assoc, List.nil_append]
      next t =>
        obtain ⟨gap, hgap, ht⟩ := skipSpace_eq t
        obtain ⟨members, rfl, ⟨_, _, rfl⟩ | ⟨hclose, -⟩ | ⟨v, hquote, hmembers⟩⟩ :=
          readValue_table_eq hread
        · cases hpass
        · refine ⟨_, '{' :: (gap ++ ['}']), ?_, .noMembers hgap⟩
          rw [ht, hclose, List.cons_append, List.append_assoc, List.singleton_append]
        · obtain ⟨pairs, u, hu, inside⟩ := written_of_readMembers fuel hmembers hpass
          refine ⟨_, '{' :: (gap ++ u ++ ['}']), ?_, .table hgap inside⟩
          rw [ht, hquote, hu]
          simp only [List.cons_append, List.append_assoc, List.nil_append]
      next =>
        split at h
        next =>
          obtain ⟨u, hu, hspelled⟩ := isMagnitude_of_numberNode h hpass
          exact ⟨_, u, hu, .number (.plain hspelled)⟩
        next =>
          obtain ⟨rfl, -⟩ := Prod.mk.inj h
          cases hpass

theorem written_of_readItems : ∀ (fuel : Nat) {t rest : Text} {items : Items},
    readItems fuel t = (items, rest) → items.passing = none →
      ∃ trees u, t = u ++ ']' :: rest ∧ WrittenItems trees u
  | 0, t, rest, items, h, hpass => by
      rw [readItems] at h
      obtain ⟨rfl, -⟩ := Prod.mk.inj h
      cases hpass
  | fuel + 1, t, rest, items, h, hpass => by
      obtain ⟨node, behind, others, hvalue, rfl, hothers⟩ := readItems_eq h
      obtain ⟨hnode, hpassing⟩ := Option.or_eq_none_iff.mp hpass
      obtain ⟨tree, u, rfl, value⟩ := written_of_readValue fuel hvalue hnode
      obtain ⟨gap, hgap, hbehind⟩ := skipSpace_eq behind
      rcases hothers with ⟨⟨_, _, rfl⟩, -⟩ | ⟨hclose, -⟩ | ⟨next, hcomma, hitems⟩
      · cases hpassing
      · rw [hclose] at hbehind
        exact ⟨_, _, by rw [hbehind, List.append_assoc], .last value hgap⟩
      · obtain ⟨before, hbefore, hnext⟩ := skipSpace_eq next
        obtain ⟨trees, u', hu', others⟩ := written_of_readItems fuel hitems hpassing
        refine ⟨_, _, ?_, .more value hgap hbefore others⟩
        rw [hbehind, hcomma, hnext, hu']
        simp only [List.cons_append, List.append_assoc]

theorem written_of_readMembers : ∀ (fuel : Nat) {t rest : Text} {members : Members},
    readMembers fuel t = (members, rest) → members.passing = none →
      ∃ pairs u, '"' :: t = u ++ '}' :: rest ∧ WrittenMembers pairs u
  | 0, t, rest, items, h, hpass => by
      rw [readMembers] at h
      obtain ⟨rfl, -⟩ := Prod.mk.inj h
      cases hpass
  | fuel + 1, t, rest, members, h, hpass => by
      obtain ⟨_, _, rfl⟩ | ⟨found, behindText, node, others, hkey, rfl, hmember⟩ := readMembers_eq h
      · cases hpass
      obtain ⟨hnode, hpassing⟩ := Option.or_eq_none_iff.mp hpass
      obtain ⟨body, rfl, hbody⟩ := hkey.isBody
      obtain ⟨name, hname⟩ := hbody.names
      obtain ⟨left, hleft, hbehindText⟩ := skipSpace_eq behindText
      rcases hmember with ⟨⟨_, _, rfl⟩, -⟩ | ⟨afterColon, behind, hcolon, hvalue, hothers⟩
      · cases hnode
      obtain ⟨tree, u, hu, value⟩ := written_of_readValue fuel hvalue hnode
      obtain ⟨right, hright, hafter⟩ := skipSpace_eq afterColon
      obtain ⟨gap, hgap, hbehind⟩ := skipSpace_eq behind
      rcases hothers with ⟨_, _, rfl⟩ | ⟨hclose, -⟩ | ⟨next, v, hcomma, hquote, hmembers⟩
      · cases hpassing
      · refine ⟨_, _, ?_, .last hname hleft hright value hgap⟩
        rw [hbehindText, hcolon, hafter, hu, hbehind, hclose]
        simp only [List.cons_append, List.append_assoc]
      · obtain ⟨before, hbefore, hnext⟩ := skipSpace_eq next
        obtain ⟨pairs, u', hu', others⟩ := written_of_readMembers fuel hmembers hpassing
        refine ⟨_, _, ?_, .more hname hleft hright value hgap hbefore others⟩
        rw [hbehindText, hcolon, hafter, hu, hbehind, hcomma, hnext, hquote, hu']
        simp only [List.cons_append, List.append_assoc]

end

/-! ## What the reader finds is coherent -/

section Tokens

variable {t rest : Text} {node : Node}

theorem coherent_readWord {word : Spot → Node} {letters : Text}
    (h : readWord word letters t = (node, rest)) (hword : ∀ spot, (word spot).Coherent) :
    node.Coherent := by
  induction letters generalizing t with
  | nil =>
      obtain ⟨rfl, -⟩ := Prod.mk.inj h
      exact hword _
  | cons a letters ih =>
      cases t with
      | nil =>
          obtain ⟨rfl, -⟩ := Prod.mk.inj h
          trivial
      | cons c t =>
          rw [readWord] at h
          split at h
          next => exact ih h
          next =>
            obtain ⟨rfl, -⟩ := Prod.mk.inj h
            trivial

theorem coherent_numberNode {negative : Bool} (h : numberNode negative t = (node, rest)) :
    node.Coherent := by
  rw [numberNode] at h
  split at h
  all_goals
    try split at h
    all_goals
      obtain ⟨rfl, -⟩ := Prod.mk.inj h
      trivial

theorem coherent_textNode (h : textNode t = (node, rest)) : node.Coherent := by
  rw [textNode] at h
  split at h
  all_goals
    try split at h
    all_goals
      obtain ⟨rfl, -⟩ := Prod.mk.inj h
      trivial

end Tokens

mutual

theorem coherent_readValue : ∀ (fuel : Nat) (t : Text), (readValue fuel t).1.Coherent
  | 0, t => by
      rw [readValue]
      trivial
  | fuel + 1, t => by
      cases hread : readValue (fuel + 1) t with
      | mk node rest =>
          have h := hread
          rw [readValue.eq_def] at h
          dsimp only at h
          split at h
          next =>
            obtain ⟨rfl, -⟩ := Prod.mk.inj h
            trivial
          next => exact coherent_readWord h fun _ => trivial
          next => exact coherent_readWord h fun _ => trivial
          next => exact coherent_readWord h fun _ => trivial
          next => exact coherent_textNode h
          next => exact coherent_numberNode h
          next t =>
            obtain ⟨items, rfl, ⟨_, _, rfl⟩ | ⟨-, _, rfl⟩ | hitems⟩ := readValue_list_eq hread
            · trivial
            · trivial
            · have hinside := coherent_readItems fuel (skipSpace t)
              rwa [hitems] at hinside
          next t =>
            obtain ⟨members, rfl, ⟨_, _, rfl⟩ | ⟨-, _, rfl⟩ | ⟨u, -, hmembers⟩⟩ :=
              readValue_table_eq hread
            · trivial
            · trivial
            · have hinside := coherent_readMembers fuel u
              rwa [hmembers] at hinside
          next =>
            split at h
            next => exact coherent_numberNode h
            next =>
              obtain ⟨rfl, -⟩ := Prod.mk.inj h
              trivial

theorem coherent_readItems : ∀ (fuel : Nat) (t : Text), (readItems fuel t).1.Coherent
  | 0, t => by
      rw [readItems]
      trivial
  | fuel + 1, t => by
      cases hread : readItems (fuel + 1) t with
      | mk items rest =>
          obtain ⟨node, behind, others, hvalue, rfl, hothers⟩ := readItems_eq hread
          have hnode := coherent_readValue fuel t
          rw [hvalue] at hnode
          rcases hothers with ⟨⟨_, _, rfl⟩, hmore⟩ | ⟨-, _, rfl⟩ | ⟨next, hcomma, hitems⟩
          · exact ⟨hnode, trivial, fun h => absurd h hmore⟩
          · exact ⟨hnode, trivial, fun _ => rfl⟩
          · have hrest := coherent_readItems fuel (skipSpace next)
            rw [hitems] at hrest
            exact ⟨hnode, hrest, fun h => absurd h (followOf_more hcomma)⟩

theorem coherent_readMembers : ∀ (fuel : Nat) (t : Text), (readMembers fuel t).1.Coherent
  | 0, t => by
      rw [readMembers]
      trivial
  | fuel + 1, t => by
      cases hread : readMembers (fuel + 1) t with
      | mk members rest =>
          obtain ⟨_, _, rfl⟩ | ⟨found, behindText, node, others, -, rfl, hmember⟩ :=
            readMembers_eq hread
          · trivial
          rcases hmember with ⟨⟨_, _, rfl⟩, _, _, rfl⟩ | ⟨right, behind, -, hvalue, hothers⟩
          · exact ⟨trivial, trivial⟩
          have hnode := coherent_readValue fuel (skipSpace right)
          rw [hvalue] at hnode
          rcases hothers with ⟨_, _, rfl⟩ | ⟨-, _, rfl⟩ | ⟨next, u, -, -, hmembers⟩
          · exact ⟨hnode, trivial⟩
          · exact ⟨hnode, trivial⟩
          · have hrest := coherent_readMembers fuel u
            rw [hmembers] at hrest
            exact ⟨hnode, hrest⟩

end

theorem coherent_read (t : Text) : (read t).1.Coherent := by
  have h := coherent_readValue (2 * t.length + 1) (skipSpace t)
  rw [read]
  cases hvalue : readValue (2 * t.length + 1) (skipSpace t) with
  | mk node rest =>
      rw [hvalue] at h
      dsimp only
      split <;> exact h

/-- A text that is read to its end, as a value that can be passed over, is JSON. -/
theorem isText_of_read {t : Text} {node : Node} (h : read t = (node, none))
    (hpass : node.passing = none) : ∃ tree, IsText tree t := by
  obtain ⟨before, hbefore, ht⟩ := skipSpace_eq t
  cases hvalue : readValue (2 * t.length + 1) (skipSpace t) with
  | mk found rest =>
      rw [read, hvalue] at h
      dsimp only at h
      split at h
      next hend =>
        obtain ⟨rfl, -⟩ := Prod.mk.inj h
        obtain ⟨tree, u, hu, value⟩ := written_of_readValue _ hvalue hpass
        obtain ⟨behind, hbehind, hrest⟩ := skipSpace_eq rest
        rw [hend, List.append_nil] at hrest
        refine ⟨tree, ?_⟩
        rw [ht, hu, hrest, ← List.append_assoc]
        exact .mk hbefore value hbehind
      next =>
        obtain ⟨-, hnone⟩ := Prod.mk.inj h
        cases hnone

end Signpost.Json
