import Signpost.Json.Decode
import Signpost.Proofs.Document.Trees
import Signpost.Proofs.Json.Numbers

/-!
# The grammar of JSON

A text is a JSON text of a tree when it is made of the tokens of the tree in order, with any white
space between them. The grammar is stated apart from the reader: the reader finds the tree in each
of its texts, and whatever it can follow to the end is a text of some tree.
-/

namespace Signpost.Json

open Document

/-- White space between tokens. -/
def Gap (t : Text) : Prop := ∀ c ∈ t, isSpace c = true

mutual

/-- The text is the tree, written without white space around it. -/
inductive Written : Tree → Text → Prop where
  | null : Written .null "null".toList
  | flag (b : Bool) : Written (.flag b) (if b then "true".toList else "false".toList)
  | number {t : Text} (h : IsNumber t) : Written (.number t) t
  | text {body : Text} {content : Option Text} (h : Names body content) :
      Written (.text content) ('"' :: (body ++ ['"']))
  | noItems {gap : Text} (hgap : Gap gap) : Written (.list []) ('[' :: (gap ++ [']']))
  | list {gap t : Text} {trees : List Tree} (hgap : Gap gap) (inside : WrittenItems trees t) :
      Written (.list trees) ('[' :: (gap ++ t ++ [']']))
  | noMembers {gap : Text} (hgap : Gap gap) : Written (.table []) ('{' :: (gap ++ ['}']))
  | table {gap t : Text} {pairs : List (Option Text × Tree)} (hgap : Gap gap)
      (inside : WrittenMembers pairs t) : Written (.table pairs) ('{' :: (gap ++ t ++ ['}']))

/-- The text is the elements with commas between them. -/
inductive WrittenItems : List Tree → Text → Prop where
  | last {tree : Tree} {t behind : Text} (value : Written tree t) (hbehind : Gap behind) :
      WrittenItems [tree] (t ++ behind)
  | more {tree : Tree} {t behind before t' : Text} {trees : List Tree} (value : Written tree t)
      (hbehind : Gap behind) (hbefore : Gap before) (others : WrittenItems trees t') :
      WrittenItems (tree :: trees) (t ++ (behind ++ ',' :: (before ++ t')))

/-- The text is the members with commas between them. -/
inductive WrittenMembers : List (Option Text × Tree) → Text → Prop where
  | last {name : Option Text} {tree : Tree} {body left right t behind : Text}
      (hname : Names body name) (hleft : Gap left) (hright : Gap right) (value : Written tree t)
      (hbehind : Gap behind) :
      WrittenMembers [(name, tree)]
        ('"' :: (body ++ '"' :: (left ++ ':' :: (right ++ (t ++ behind)))))
  | more {name : Option Text} {tree : Tree} {body left right t behind before t' : Text}
      {pairs : List (Option Text × Tree)} (hname : Names body name) (hleft : Gap left)
      (hright : Gap right) (value : Written tree t) (hbehind : Gap behind) (hbefore : Gap before)
      (others : WrittenMembers pairs t') :
      WrittenMembers ((name, tree) :: pairs) ('"' :: (body ++ '"' :: (left ++ ':' ::
        (right ++ (t ++ (behind ++ ',' :: (before ++ t')))))))

end

/-- The text is a JSON text of the tree. -/
inductive IsText (tree : Tree) : Text → Prop where
  | mk {before t behind : Text} (hbefore : Gap before) (value : Written tree t)
      (hbehind : Gap behind) : IsText tree (before ++ t ++ behind)

/-! ## Where a value starts and stops -/

theorem skipSpace_gap {gap t : Text} {c : Char} (hgap : Gap gap) (hc : isSpace c = false) :
    skipSpace (gap ++ c :: t) = c :: t := by
  rw [skipSpace, List.dropWhile_append_of_pos hgap, List.dropWhile_cons, hc]
  rfl

theorem gap_nil : Gap [] := List.forall_mem_nil _

theorem isSpace_eq_true {c : Char} (h : isSpace c = true) :
    c = ' ' ∨ c = '\n' ∨ c = '\t' ∨ c = '\r' := by
  simpa [isSpace, or_assoc] using h

theorem isSpace_of_isDigit {c : Char} (h : Text.isDigit c = true) : isSpace c = false := by
  rw [Bool.eq_false_iff]
  intro hspace
  rcases isSpace_eq_true hspace with rfl | rfl | rfl | rfl <;> cases h

theorem IsWhole.head {t : Text} (h : IsWhole t) : ∃ c u, t = c :: u ∧ Text.isDigit c = true := by
  cases h with
  | zero => exact ⟨'0', [], rfl, rfl⟩
  | digits h hc => exact h.head

theorem IsMagnitude.head {t : Text} (h : IsMagnitude t) :
    ∃ c u, t = c :: u ∧ Text.isDigit c = true := by
  cases h with
  | mk hwhole =>
      obtain ⟨c, u, rfl, hc⟩ := hwhole.head
      exact ⟨c, _, rfl, hc⟩

/-- A value starts with a character that is neither white space nor a closing bracket. -/
theorem Written.head {tree : Tree} {t : Text} (h : Written tree t) :
    ∃ c u, t = c :: u ∧ isSpace c = false ∧ c ≠ ']' := by
  cases h with
  | null => exact ⟨'n', _, rfl, by decide, by decide⟩
  | flag b => cases b with
    | true => exact ⟨'t', _, rfl, by decide, by decide⟩
    | false => exact ⟨'f', _, rfl, by decide, by decide⟩
  | number h => cases h with
    | plain h =>
        obtain ⟨c, u, rfl, hc⟩ := h.head
        exact ⟨c, u, rfl, isSpace_of_isDigit hc, ne_of_isDigit hc rfl⟩
    | minus => exact ⟨'-', _, rfl, by decide, by decide⟩
  | text => exact ⟨'"', _, rfl, by decide, by decide⟩
  | noItems | list => exact ⟨'[', _, rfl, by decide, by decide⟩
  | noMembers | table => exact ⟨'{', _, rfl, by decide, by decide⟩

theorem WrittenItems.head {trees : List Tree} {t : Text} (h : WrittenItems trees t) :
    trees ≠ [] ∧ ∃ c u, t = c :: u ∧ isSpace c = false ∧ c ≠ ']' := by
  cases h with
  | last value | more value =>
    obtain ⟨c, u, rfl, hc⟩ := value.head
    exact ⟨List.cons_ne_nil _ _, c, _, rfl, hc⟩

/-- A number ends where white space or a mark follows. -/
theorem stops_gap {gap rest : Text} (hgap : Gap gap) (hrest : Stops rest) : Stops (gap ++ rest) := by
  cases gap with
  | nil => exact hrest
  | cons c gap =>
      rintro _ ⟨⟩
      rcases isSpace_eq_true (hgap c List.mem_cons_self) with rfl | rfl | rfl | rfl <;> decide

theorem stops_nil : Stops [] := nofun

/-! ## Steps of the reader -/

/-- What is found between quotes is the name, be it one that can be taken in or not. -/
def Finds (t : Text) (found : Except Fault Text) (rest : Text) : Prop :=
  match found with
  | .ok text => readQuoted 0 t = .ok (text, rest)
  | .error fault => readQuoted 0 t = .error fault ∧ passQuoted 0 t = .ok rest

theorem Names.finds {body : Text} {name : Option Text} (h : Names body name) (rest : Text) :
    ∃ found, Finds (body ++ '"' :: rest) found rest ∧ ∀ after, Key.Names ⟨found, after⟩ name := by
  cases name with
  | some t => exact ⟨.ok t, Denotes.reads h rest, fun after => .readable t after⟩
  | none =>
      obtain ⟨fault, hread⟩ := h.refuses rest
      exact ⟨.error fault, ⟨hread, h.1.passes rest⟩, fun after => .unreadable fault after⟩

section Steps

variable {fuel : Nat} {t u rest behind next : Text} {c : Char} {node : Node}

theorem readValue_noItems (h : skipSpace t = ']' :: rest) :
    readValue (fuel + 1) ('[' :: t) = (.list ⟨'[' :: t, 0⟩ (.close ⟨rest, 0⟩), rest) := by
  rw [readValue]
  simp only [h]

theorem readValue_list (h : skipSpace t = c :: u) (hc : c ≠ ']') :
    readValue (fuel + 1) ('[' :: t) =
      (.list ⟨'[' :: t, 0⟩ (readItems fuel (c :: u)).1, (readItems fuel (c :: u)).2) := by
  rw [readValue]
  simp only [h]
  split
  · contradiction
  · rename_i heq
    exact absurd (List.cons.inj heq).1 hc
  · rfl

theorem readValue_noMembers (h : skipSpace t = '}' :: rest) :
    readValue (fuel + 1) ('{' :: t) = (.table ⟨'{' :: t, 0⟩ (.close ⟨rest, 0⟩), rest) := by
  rw [readValue]
  simp only [h]

theorem readValue_table (h : skipSpace t = '"' :: u) :
    readValue (fuel + 1) ('{' :: t) =
      (.table ⟨'{' :: t, 0⟩ (readMembers fuel u).1, (readMembers fuel u).2) := by
  rw [readValue]
  simp only [h]

theorem readItems_last (hvalue : readValue fuel t = (node, behind))
    (h : skipSpace behind = ']' :: rest) :
    readItems (fuel + 1) t = (.item node (followOf behind) (.close ⟨rest, 0⟩), rest) := by
  rw [readItems]
  simp only [hvalue, h]

theorem readItems_more (hvalue : readValue fuel t = (node, behind))
    (h : skipSpace behind = ',' :: next) (hnext : skipSpace next = c :: u) (hc : c ≠ ']') :
    readItems (fuel + 1) t =
      (.item node (followOf behind) (readItems fuel (c :: u)).1, (readItems fuel (c :: u)).2) := by
  rw [readItems]
  simp only [hvalue, h, hnext]
  split
  · contradiction
  · rename_i heq
    exact absurd (List.cons.inj heq).1 hc
  · rfl

theorem readValue_digit (hc : Text.isDigit c = true) :
    readValue (fuel + 1) (c :: t) = numberNode false (c :: t) := by
  rw [readValue.eq_def]
  dsimp only
  split
  case h_9 heq =>
    obtain ⟨rfl, rfl⟩ := List.cons.inj heq
    exact if_pos hc
  case h_1 heq => cases heq
  all_goals
    rename_i heq
    obtain ⟨rfl, -⟩ := List.cons.inj heq
    cases hc

theorem followOf_last (h : skipSpace behind = ']' :: rest) : (followOf behind).surplus = none := by
  rw [followOf]
  simp only [h]

theorem followOf_more (h : skipSpace behind = ',' :: next) : (followOf behind).surplus ≠ none := by
  rw [followOf]
  simp only [h]
  exact Option.some_ne_none _

variable {found : Except Fault Text} {behindText right : Text}

theorem readMembers_last (hkey : Finds t found behindText)
    (hcolon : skipSpace behindText = ':' :: right)
    (hvalue : readValue fuel (skipSpace right) = (node, behind))
    (h : skipSpace behind = '}' :: rest) :
    readMembers (fuel + 1) t =
      (.member ⟨found, behindKey behindText⟩ node (.close ⟨rest, 0⟩), rest) := by
  rw [readMembers]
  cases found with
  | ok text => simp only [show readQuoted 0 t = _ from hkey, hcolon, hvalue, h]
  | error fault => simp only [hkey.1, hkey.2, hcolon, hvalue, h]

theorem readMembers_more (hkey : Finds t found behindText)
    (hcolon : skipSpace behindText = ':' :: right)
    (hvalue : readValue fuel (skipSpace right) = (node, behind))
    (h : skipSpace behind = ',' :: next) (hnext : skipSpace next = '"' :: u) :
    readMembers (fuel + 1) t =
      (.member ⟨found, behindKey behindText⟩ node (readMembers fuel u).1,
        (readMembers fuel u).2) := by
  rw [readMembers]
  cases found with
  | ok text => simp only [show readQuoted 0 t = _ from hkey, hcolon, hvalue, h, hnext]
  | error fault => simp only [hkey.1, hkey.2, hcolon, hvalue, h, hnext]

end Steps

/-! ## The reader finds the tree -/

theorem Written.fuel_pos {tree : Tree} {t : Text} (h : Written tree t) (fuel : Nat)
    (hfuel : 2 * t.length ≤ fuel + 1) : ∃ n, fuel = n + 1 := by
  obtain ⟨c, u, rfl, -⟩ := h.head
  rw [List.length_cons] at hfuel
  exact ⟨fuel - 1, by omega⟩

theorem IsNumber.reads {t rest : Text} (h : IsNumber t) (fuel : Nat) (hrest : Stops rest) :
    ∃ node, readValue (fuel + 1) (t ++ rest) = (node, rest) ∧ Node.Mirrors node (.number t) := by
  obtain ⟨negative, u, hread, hu⟩ : ∃ negative u,
      readValue (fuel + 1) (t ++ rest) = numberNode negative (u ++ rest) ∧ IsMagnitude u := by
    cases h with
    | plain h =>
        obtain ⟨c, u, rfl, hc⟩ := h.head
        exact ⟨false, c :: u, readValue_digit hc, h⟩
    | minus h => exact ⟨true, _, rfl, h⟩
  obtain ⟨node, hnode, hfound⟩ := hu.found hrest
  refine ⟨node, hread.trans hnode, ?_⟩
  rcases hfound with ⟨n, after, rfl⟩ | ⟨x, after, rfl⟩ | ⟨fault, rfl⟩
  · exact .integer n after t
  · exact .float x after t
  · exact .number fault t

theorem Names.reads {body : Text} {content : Option Text} (h : Names body content) (rest : Text) :
    ∃ node, textNode (body ++ '"' :: rest) = (node, rest) ∧ Node.Mirrors node (.text content) := by
  rw [textNode]
  cases content with
  | some t =>
      rw [Denotes.reads h rest]
      exact ⟨_, rfl, .text t _⟩
  | none =>
      obtain ⟨fault, hread⟩ := h.refuses rest
      rw [hread, h.1.passes rest]
      exact ⟨_, rfl, .unreadable fault⟩

mutual

/-- A tree is found in each of its texts; what follows must not go on where the tree is a number. -/
theorem Written.reads {tree : Tree} {t : Text} (h : Written tree t) (fuel : Nat)
    (hfuel : 2 * t.length ≤ fuel + 1) (rest : Text)
    (hrest : ∀ spelling, tree = .number spelling → Stops rest) :
    ∃ node, readValue fuel (t ++ rest) = (node, rest) ∧ Node.Mirrors node tree := by
  obtain ⟨fuel, rfl⟩ := h.fuel_pos fuel hfuel
  match h with
  | .null => exact ⟨_, rfl, .null _⟩
  | .flag true => exact ⟨_, rfl, .flag _ _⟩
  | .flag false => exact ⟨_, rfl, .flag _ _⟩
  | .number h => exact h.reads fuel (hrest _ rfl)
  | @Written.text body content h =>
      obtain ⟨node, hnode, hmirrors⟩ := h.reads rest
      refine ⟨node, ?_, hmirrors⟩
      rw [List.cons_append, List.append_assoc]
      exact hnode
  | @Written.noItems gap hgap =>
      have hskip : skipSpace (gap ++ [']'] ++ rest) = ']' :: rest := by
        rw [List.append_assoc]
        exact skipSpace_gap hgap (by decide)
      exact ⟨_, readValue_noItems hskip, .list _ (.close _)⟩
  | @Written.list gap t _ hgap inside =>
      rw [List.length_cons, List.length_append, List.length_append] at hfuel
      obtain ⟨items, hitems, hmirrors⟩ := inside.reads fuel (by omega) rest
      obtain ⟨-, c, u, rfl, hspace, hc⟩ := inside.head
      have hskip : skipSpace (gap ++ (c :: u) ++ [']'] ++ rest) = c :: (u ++ ']' :: rest) := by
        rw [List.append_assoc, List.append_assoc]
        exact skipSpace_gap hgap hspace
      rw [List.cons_append] at hitems
      have hlist := @readValue_list fuel _ _ _ hskip hc
      rw [hitems] at hlist
      exact ⟨_, hlist, .list _ hmirrors⟩
  | @Written.noMembers gap hgap =>
      have hskip : skipSpace (gap ++ ['}'] ++ rest) = '}' :: rest := by
        rw [List.append_assoc]
        exact skipSpace_gap hgap (by decide)
      exact ⟨_, readValue_noMembers hskip, .table _ (.close _)⟩
  | @Written.table gap t _ hgap inside =>
      rw [List.length_cons, List.length_append, List.length_append] at hfuel
      obtain ⟨u, hu, members, hmembers, hmirrors⟩ := inside.reads fuel (by omega) rest
      have hskip : skipSpace (gap ++ t ++ ['}'] ++ rest) = '"' :: (u ++ '}' :: rest) := by
        rw [hu, List.append_assoc, List.append_assoc]
        exact skipSpace_gap hgap (by decide)
      have htable := @readValue_table fuel _ _ hskip
      rw [hmembers] at htable
      exact ⟨_, htable, .table _ hmirrors⟩

/-- The elements are found in each of their texts. -/
theorem WrittenItems.reads {trees : List Tree} {t : Text} (h : WrittenItems trees t) (fuel : Nat)
    (hfuel : 2 * t.length ≤ fuel) (rest : Text) :
    ∃ items, readItems fuel (t ++ ']' :: rest) = (items, rest) ∧ Items.Mirrors items trees := by
  match h with
  | @WrittenItems.last tree t behind value hbehind =>
      rw [List.length_append] at hfuel
      obtain ⟨fuel, rfl⟩ := value.fuel_pos fuel (by omega)
      obtain ⟨node, hnode, hmirrors⟩ := value.reads fuel (by omega) (behind ++ ']' :: rest)
        fun _ _ => stops_gap hbehind (by rintro _ ⟨⟩; decide)
      have hskip : skipSpace (behind ++ ']' :: rest) = ']' :: rest :=
        skipSpace_gap hbehind (by decide)
      have hlast := readItems_last hnode hskip
      rw [← List.append_assoc] at hlast
      exact ⟨_, hlast, .item hmirrors (.close _) (iff_of_true (followOf_last hskip) rfl)⟩
  | @WrittenItems.more tree t behind before t' trees value hbehind hbefore others =>
      simp only [List.length_append, List.length_cons] at hfuel
      obtain ⟨fuel, rfl⟩ := value.fuel_pos fuel (by omega)
      obtain ⟨node, hnode, hmirrors⟩ :=
        value.reads fuel (by omega) (behind ++ ',' :: (before ++ (t' ++ ']' :: rest)))
        fun _ _ => stops_gap hbehind (by rintro _ ⟨⟩; decide)
      obtain ⟨items, hitems, hothers⟩ := others.reads fuel (by omega) rest
      obtain ⟨hne, c, u, rfl, hspace, hc⟩ := others.head
      have hskip : skipSpace (behind ++ ',' :: (before ++ ((c :: u) ++ ']' :: rest))) = _ :=
        skipSpace_gap hbehind (by decide)
      have hmore := readItems_more (u := u ++ ']' :: rest) hnode hskip
        (skipSpace_gap hbefore hspace) hc
      rw [List.cons_append] at hitems
      rw [hitems] at hmore
      have hmirror := Items.Mirrors.item hmirrors hothers (iff_of_false (followOf_more hskip) hne)
      simp only [List.append_assoc, List.cons_append] at hmore ⊢
      exact ⟨_, hmore, hmirror⟩

/-- The members are found in each of their texts, from behind the first quote on. -/
theorem WrittenMembers.reads {pairs : List (Option Text × Tree)} {t : Text}
    (h : WrittenMembers pairs t) (fuel : Nat) (hfuel : 2 * t.length ≤ fuel) (rest : Text) :
    ∃ u, t = '"' :: u ∧ ∃ members,
      readMembers fuel (u ++ '}' :: rest) = (members, rest) ∧ Members.Mirrors members pairs := by
  match h with
  | @WrittenMembers.last name tree body left right t behind hname hleft hright value hbehind =>
      simp only [List.length_append, List.length_cons] at hfuel
      obtain ⟨fuel, rfl⟩ := value.fuel_pos fuel (by omega)
      obtain ⟨node, hnode, hmirrors⟩ := value.reads fuel (by omega) (behind ++ '}' :: rest)
        fun _ _ => stops_gap hbehind (by rintro _ ⟨⟩; decide)
      obtain ⟨c, u, rfl, hspace, -⟩ := value.head
      obtain ⟨found, hkey, hnames⟩ :=
        hname.finds (left ++ ':' :: (right ++ ((c :: u) ++ (behind ++ '}' :: rest))))
      have hskip : skipSpace (right ++ ((c :: u) ++ (behind ++ '}' :: rest))) =
          (c :: u) ++ (behind ++ '}' :: rest) := skipSpace_gap hright hspace
      rw [← hskip] at hnode
      have hlast := readMembers_last hkey (skipSpace_gap hleft (by decide)) hnode
        (skipSpace_gap hbehind (by decide))
      refine ⟨_, rfl, ?_⟩
      simp only [List.append_assoc, List.cons_append] at hlast ⊢
      exact ⟨_, hlast, .member (hnames _) hmirrors (.close _)⟩
  | @WrittenMembers.more name tree body left right t behind before t' _ hname hleft hright value
      hbehind hbefore others =>
      simp only [List.length_append, List.length_cons] at hfuel
      obtain ⟨fuel, rfl⟩ := value.fuel_pos fuel (by omega)
      obtain ⟨node, hnode, hmirrors⟩ :=
        value.reads fuel (by omega) (behind ++ ',' :: (before ++ (t' ++ '}' :: rest)))
        fun _ _ => stops_gap hbehind (by rintro _ ⟨⟩; decide)
      obtain ⟨u', rfl, members, hmembers, hothers⟩ := others.reads fuel (by omega) rest
      obtain ⟨c, u, rfl, hspace, -⟩ := value.head
      obtain ⟨found, hkey, hnames⟩ := hname.finds (left ++ ':' :: (right ++
        ((c :: u) ++ (behind ++ ',' :: (before ++ ('"' :: u' ++ '}' :: rest))))))
      have hskip : skipSpace (right ++ ((c :: u) ++ (behind ++ ',' :: (before ++
          ('"' :: u' ++ '}' :: rest))))) = (c :: u) ++ (behind ++ ',' :: (before ++
          ('"' :: u' ++ '}' :: rest))) := skipSpace_gap hright hspace
      rw [← hskip] at hnode
      have hmore := readMembers_more (u := u' ++ '}' :: rest) hkey
        (skipSpace_gap hleft (by decide)) hnode (skipSpace_gap hbehind (by decide))
        (skipSpace_gap hbefore (by decide))
      rw [hmembers] at hmore
      refine ⟨_, rfl, ?_⟩
      simp only [List.append_assoc, List.cons_append] at hmore ⊢
      exact ⟨_, hmore, .member (hnames _) hmirrors hothers⟩

end

/-- A JSON text of a tree is read as a value that mirrors it, to its end. -/
theorem IsText.reads {tree : Tree} {t : Text} (h : IsText tree t) :
    ∃ node, read t = (node, none) ∧ Node.Mirrors node tree := by
  cases h with
  | @mk before t behind hbefore value hbehind =>
      have hlen : 2 * t.length ≤ 2 * (before ++ t ++ behind).length + 1 + 1 := by
        simp only [List.length_append]
        omega
      have hstops : Stops behind := by
        have := stops_gap hbehind stops_nil
        rwa [List.append_nil] at this
      obtain ⟨node, hnode, hmirrors⟩ := value.reads _ hlen behind fun _ _ => hstops
      obtain ⟨c, u, rfl, hspace, -⟩ := value.head
      have hskip : skipSpace (before ++ (c :: u) ++ behind) = (c :: u) ++ behind := by
        rw [List.append_assoc]
        exact skipSpace_gap hbefore hspace
      have hend : skipSpace behind = [] := by
        rw [skipSpace, ← List.append_nil behind, List.dropWhile_append_of_pos hbehind]
        rfl
      refine ⟨node, ?_, hmirrors⟩
      rw [read, hskip, hnode]
      simp only [hend]

theorem decode_eq_ok {α : Type} {value : Decoder α} {t : Text} {r : α × List FieldPath} :
    decode value t = .ok r ↔ ∃ node, read t = (node, none) ∧ value [] node = Except.ok r := by
  rw [decode]
  cases hread : read t with
  | mk node trailing =>
      constructor
      · intro h
        dsimp only at h
        split at h
        · cases h
        · cases h
        next hvalue => exact ⟨node, rfl, hvalue.trans (congrArg _ (Except.ok.inj h))⟩
      · rintro ⟨_, ⟨⟩, hvalue⟩
        dsimp only
        rw [hvalue]

/-- The texts of a tree are decoded as what mirrors the tree. -/
theorem IsText.exists_node {tree : Tree} {t : Text} (h : IsText tree t) :
    ∃ node, node.Mirrors tree ∧ ∀ {α : Type} {value : Decoder α} {r : α × List FieldPath},
      decode value t = .ok r ↔ value [] node = Except.ok r := by
  obtain ⟨node, hread, hnode⟩ := h.reads
  refine ⟨node, hnode, ?_⟩
  intro α value r
  rw [decode_eq_ok]
  constructor
  · intro hsome
    obtain ⟨found, hfound, hvalue⟩ := hsome
    obtain rfl : node = found := congrArg Prod.fst (hread.symm.trans hfound)
    exact hvalue
  · intro hvalue
    exact ⟨node, hread, hvalue⟩

end Signpost.Json
