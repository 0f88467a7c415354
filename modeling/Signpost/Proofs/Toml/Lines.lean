import Signpost.Proofs.Toml.Keys

/-!
# Reading written lines

A table is written as lines: its plain values under its header, then the tables inside it. The
lines are read back as the parts that make up the document, in the order in which they were written.
-/

namespace Signpost.Toml

open Document

/-! ## Lines -/

/-- The text is read as these lines, given enough fuel. -/
def Reads (t : Text) (lines : List Line) : Prop :=
  ∀ fuel, t.length < fuel → readDocument? fuel t = some lines

theorem reads_nil : Reads [] [] := by
  intro fuel hfuel
  obtain ⟨fuel, rfl⟩ := Nat.exists_eq_add_one_of_ne_zero (Nat.ne_of_gt hfuel)
  rfl

/-- A blank line in front does not count. -/
theorem Reads.newline {t : Text} {lines : List Line} (h : Reads t lines) :
    Reads ('\n' :: t) lines := by
  intro fuel hfuel
  obtain ⟨fuel, rfl⟩ := Nat.exists_eq_add_one_of_ne_zero (Nat.ne_zero_of_lt hfuel)
  have hstep : readDocument? (fuel + 1) ('\n' :: t) = readDocument? fuel t := rfl
  rw [List.length_cons] at hfuel
  rw [hstep, h fuel (by omega)]

theorem Reads.of_newline {t : Text} {lines : List Line} (h : Reads ('\n' :: t) lines) :
    Reads t lines := by
  intro fuel hfuel
  exact h (fuel + 1) (by rw [List.length_cons]; omega)

theorem endsKey_bracket (t : Text) : EndsKey (']' :: t) where
  bare := by
    rintro c ⟨⟩
    rfl
  dot u h := by
    rw [dropBlanks, List.dropWhile_cons, if_neg (by decide)] at h
    exact absurd (List.cons.inj h).1 (by decide)

theorem endsKey_equals (t : Text) : EndsKey (" = ".toList ++ t) where
  bare := by
    rintro c ⟨⟩
    rfl
  dot u h := absurd (List.cons.inj h).1 (by decide)

section Steps

variable {fuel : Nat} {c : Char} {u rest : Text} {line : Line} {lines : List Line}

theorem readDocument?_rows (hread : readHeader? true u = some (line, rest))
    (hrest : readDocument? fuel rest = some lines) :
    readDocument? (fuel + 1) ('[' :: '[' :: u) = some (line :: lines) := by
  rw [readDocument?, dropBlanks, List.dropWhile_cons, if_neg (by decide)]
  dsimp only
  rw [if_neg (by decide)]
  split
  · rename_i heq
    rw [← (List.cons.inj heq).2, hread]
    simp only [bind, Option.bind_some, hrest]
    rfl
  · rename_i h
    exact (h _ rfl).elim
  · rename_i h
    exact (h _ rfl rfl).elim

theorem readDocument?_header (hc : c ≠ '[') (hread : readHeader? false (c :: u) = some (line, rest))
    (hrest : readDocument? fuel rest = some lines) :
    readDocument? (fuel + 1) ('[' :: c :: u) = some (line :: lines) := by
  rw [readDocument?, dropBlanks, List.dropWhile_cons, if_neg (by decide)]
  dsimp only
  rw [if_neg (by decide)]
  split
  · rename_i heq
    exact absurd (List.cons.inj heq).1 hc
  · rw [hread]
    simp only [bind, Option.bind_some, hrest]
    rfl
  · rename_i h _
    exact (h rfl).elim

theorem readDocument?_pair (hc : c ∉ " \t\n\r#[.".toList)
    (hread : readPair? (c :: u) = some (line, rest))
    (hrest : readDocument? fuel rest = some lines) :
    readDocument? (fuel + 1) (c :: u) = some (line :: lines) := by
  have hstart : (decide (c = '#') || decide (c = '\n') || decide (c = '\r')) = false := by
    simp at hc
    simp [hc]
  have hbracket : c ≠ '[' := by
    simp at hc
    exact hc.2.2.2.2.2.1
  rw [readDocument?, dropBlanks_cons hc]
  dsimp only
  rw [hstart, if_neg (by decide)]
  split
  · exact absurd rfl hbracket
  · exact absurd rfl hbracket
  · rw [hread]
    simp only [bind, Option.bind_some, hrest]
    rfl

end Steps

theorem length_lt_of_header {u t : Text} {fuel : Nat} {c d e : Char}
    (h : (c :: (u ++ d :: e :: t)).length < fuel + 1) : t.length < fuel := by
  simp only [List.length_cons, List.length_append] at h
  omega

/-- The header of a table on a line of its own. -/
theorem Reads.header {path : List Text} {k t : Text} {lines : List Line}
    (hlen : path.length + 1 < depthLimit) (h : Reads t lines) :
    Reads ('[' :: (writePath (path ++ [k]) ++ ']' :: '\n' :: t)) (.header false path k :: lines) := by
  intro fuel hfuel
  obtain ⟨fuel, rfl⟩ := Nat.exists_eq_add_one_of_ne_zero (Nat.ne_zero_of_lt hfuel)
  have hread : readHeader? false (writePath (path ++ [k]) ++ ']' :: '\n' :: t) =
      some (.header false path k, t) := by
    rw [readHeader?, key?_writePath path k hlen (endsKey_bracket _)]
    rfl
  obtain ⟨c, u, heq, hc⟩ := writePath_head path k
  rw [heq, List.cons_append] at hread ⊢
  refine readDocument?_header ?_ hread (h fuel ?_)
  · rintro rfl
    exact hc (by decide)
  · rw [heq] at hfuel
    exact length_lt_of_header hfuel

/-- The header of one table of a list. -/
theorem Reads.rowHeader {path : List Text} {k t : Text} {lines : List Line}
    (hlen : path.length + 1 < depthLimit) (h : Reads t lines) :
    Reads ('[' :: '[' :: (writePath (path ++ [k]) ++ ']' :: ']' :: '\n' :: t))
      (.header true path k :: lines) := by
  intro fuel hfuel
  obtain ⟨fuel, rfl⟩ := Nat.exists_eq_add_one_of_ne_zero (Nat.ne_zero_of_lt hfuel)
  have hread : readHeader? true (writePath (path ++ [k]) ++ ']' :: ']' :: '\n' :: t) =
      some (.header true path k, t) := by
    rw [readHeader?, key?_writePath path k hlen (endsKey_bracket _)]
    rfl
  refine readDocument?_rows hread (h fuel ?_)
  simp only [List.length_cons, List.length_append] at hfuel
  omega

/-! ## Values on one line -/

/-- A value that is written within a line here: a scalar, or a list without elements. -/
inductive Plain : Value → Prop where
  | flag (b : Bool) : Plain (.flag b)
  | text (t : Text) : Plain (.text t)
  | noItems : Plain (.list [])

/-- What such a value is found as. -/
def lineNode : Value → Node
  | .flag b => .flag b .nowhere
  | .text t => .text t .nowhere
  | _ => .list .nowhere (.close .nowhere)

theorem writeText_head (t : Text) : ∃ c u, writeText t = c :: u ∧ (c = '"' ∨ c = '\'') := by
  rw [writeText]
  cases TextForm.best t with
  | basic => exact ⟨'"', _, rfl, .inl rfl⟩
  | literal => exact ⟨'\'', _, rfl, .inr rfl⟩
  | basicLines => exact ⟨'"', _, rfl, .inl rfl⟩
  | literalLines => exact ⟨'\'', _, rfl, .inr rfl⟩

theorem readValue?_text (fuel depth : Nat) (t rest : Text) :
    readValue? (fuel + 1) depth (writeText t ++ '\n' :: rest) =
      some (.text t .nowhere, '\n' :: rest) := by
  have hread := readText?_writeText t rest
  obtain ⟨c, u, heq, hc⟩ := writeText_head t
  rw [heq, List.cons_append] at hread ⊢
  rcases hc with rfl | rfl
  all_goals
    rw [readValue?]
    · rw [if_pos (by decide), hread]
      rfl
    · exact fun _ h => absurd h (by decide)
    · exact fun _ h => absurd h (by decide)
    · exact fun h => absurd h (by decide)
    · exact fun h => absurd h (by decide)

theorem readValue?_inlineText {v : Value} (h : Plain v) (fuel depth : Nat) (rest : Text) :
    readValue? (fuel + 2) (depth + 1) (inlineText v ++ '\n' :: rest) =
      some (lineNode v, '\n' :: rest) := by
  cases h with
  | flag b => cases b <;> rfl
  | text t => exact readValue?_text (fuel + 1) (depth + 1) t rest
  | noItems => rfl

/-- A value on one line starts with no blank. -/
theorem dropBlanks_inlineText {v : Value} (h : Plain v) (rest : Text) :
    dropBlanks (inlineText v ++ rest) = inlineText v ++ rest := by
  cases h with
  | flag b => cases b <;> rfl
  | text t =>
      obtain ⟨c, u, heq, hc⟩ := writeText_head t
      rw [inlineText, heq, List.cons_append]
      rcases hc with rfl | rfl <;> rfl
  | noItems => rfl

/-- A value under a key on a line of its own. -/
theorem Reads.pair {k t : Text} {v : Value} {lines : List Line} (hv : Plain v) (h : Reads t lines) :
    Reads (writeKey k ++ (" = ".toList ++ (inlineText v ++ '\n' :: t)))
      (.pair [] k (lineNode v) :: lines) := by
  intro fuel hfuel
  obtain ⟨fuel, rfl⟩ := Nat.exists_eq_add_one_of_ne_zero (Nat.ne_zero_of_lt hfuel)
  have hkey : key? (writeKey k ++ (" = ".toList ++ (inlineText v ++ '\n' :: t))) =
      some (([], k), '=' :: ' ' :: (inlineText v ++ '\n' :: t)) :=
    key?_writePath [] k (by decide) (endsKey_equals _)
  have hvalue (n : Nat) : readValue? (2 * (n + 1) + 1) depthLimit
      (dropBlanks (' ' :: (inlineText v ++ '\n' :: t))) = some (lineNode v, '\n' :: t) := by
    have hblank : dropBlanks (' ' :: (inlineText v ++ '\n' :: t)) =
        dropBlanks (inlineText v ++ '\n' :: t) := rfl
    rw [hblank, dropBlanks_inlineText hv]
    exact readValue?_inlineText hv (2 * n + 1) 79 t
  have hread : readPair? (writeKey k ++ (" = ".toList ++ (inlineText v ++ '\n' :: t))) =
      some (.pair [] k (lineNode v), t) := by
    rw [readPair?, hkey]
    show Option.bind (readValue? (2 * ((inlineText v ++ '\n' :: t).length + 1) + 1) depthLimit
      (dropBlanks (' ' :: (inlineText v ++ '\n' :: t)))) _ = _
    rw [hvalue]
    rfl
  obtain ⟨c, u, heq, hc⟩ := writeKey_head_not_mem k
  rw [heq, List.cons_append] at hread ⊢
  refine readDocument?_pair hc hread (h fuel ?_)
  simp only [List.length_append, List.length_cons] at hfuel
  omega

/-! ## Tables -/

mutual

/-- The value can be laid out below a header with at most `room` parts more: it is a scalar, a list
without elements, a list of tables or a table, and no table has a key twice. -/
def Fits : (room : Nat) → Value → Prop
  | _, .null => False
  | _, .flag _ => True
  | _, .text _ => True
  | _, .list [] => True
  | 0, .list _ => False
  | room + 1, .list items => RowsFit room items
  | 0, .table _ => False
  | room + 1, .table members => MembersFit room members

/-- Every element is a table whose members can be laid out. -/
def RowsFit (room : Nat) : List Value → Prop
  | [] => True
  | .table members :: rest => MembersFit room members ∧ RowsFit room rest
  | _ :: _ => False

/-- No key stands twice, and every value can be laid out. -/
def MembersFit (room : Nat) : List (Text × Value) → Prop
  | [] => True
  | (k, v) :: rest => k ∉ rest.map Prod.fst ∧ Fits room v ∧ MembersFit room rest

end

theorem membersFit_iff {room : Nat} {members : List (Text × Value)} :
    MembersFit room members ↔ (members.map Prod.fst).Nodup ∧ ∀ m ∈ members, Fits room m.2 := by
  induction members with
  | nil => exact iff_of_true trivial ⟨.nil, List.forall_mem_nil _⟩
  | cons m rest ih =>
      obtain ⟨k, v⟩ := m
      rw [MembersFit, ih, List.map_cons, List.nodup_cons, List.forall_mem_cons, and_assoc]
      exact and_congr_right fun _ => and_left_comm

theorem RowsFit.all {room : Nat} {items : List Value} (h : RowsFit room items) :
    items.all isTable = true := by
  induction items with
  | nil => rfl
  | cons v rest ih =>
      match v, h with
      | .table _, h => exact ih h.2

theorem RowsFit.isRows {room : Nat} {v : Value} {rest : List Value} (h : RowsFit room (v :: rest)) :
    Toml.isRows (.list (v :: rest)) = true := by
  rw [Toml.isRows, ← List.all_cons]
  exact h.all

/-- The values of a table that stand on lines of their own, as they are found. -/
def linePairs (members : List (Text × Value)) : List (List Text × Text × Node) :=
  (members.filter (isPlainValue ·.2)).map fun (k, v) => ([], k, lineNode v)

/-- The part inside the table with a key. -/
def Part.under (k : Text) (part : Part) : Part := { part with path := k :: part.path }

mutual

/-- The parts that the tables inside a table are written as; their paths start in that table. -/
def innerParts : List (Text × Value) → List Part
  | [] => []
  | (k, v) :: rest => memberParts k v ++ innerParts rest

/-- The parts of one member. A table has a part of its own when it has a header. -/
def memberParts (k : Text) : Value → List Part
  | .table members =>
    (if members.isEmpty || members.any (isPlainValue ·.2) then [⟨false, [], k, linePairs members⟩]
      else []) ++ (innerParts members).map (Part.under k)
  | .list items => if isRows (.list items) then rowParts k items else []
  | _ => []

/-- The parts of a list of tables. -/
def rowParts (k : Text) : List Value → List Part
  | [] => []
  | .table members :: rest =>
    ⟨true, [], k, linePairs members⟩ :: (innerParts members).map (Part.under k) ++ rowParts k rest
  | _ :: rest => rowParts k rest

end

/-- The lines of values. -/
def pairLines (pairs : List (List Text × Text × Node)) : List Line :=
  pairs.map fun (path, k, node) => .pair path k node

/-- The lines of a part in the table that `path` leads to. -/
def Part.lines (path : List Text) (part : Part) : List Line :=
  .header part.row (path ++ part.path) part.key :: pairLines part.pairs

theorem Part.lines_under (path : List Text) (k : Text) (part : Part) :
    (part.under k).lines path = part.lines (path ++ [k]) := by
  rw [Part.lines, Part.lines, Part.under, List.append_assoc]
  rfl

theorem flatMap_lines_under (path : List Text) (k : Text) (inner : List Part) :
    (inner.map (Part.under k)).flatMap (Part.lines path) =
      inner.flatMap (Part.lines (path ++ [k])) := by
  rw [List.flatMap_map]
  exact congrArg (inner.flatMap ·) (funext fun part => Part.lines_under path k part)

theorem Fits.plain {room : Nat} {v : Value} (h : Fits room v) (hplain : isPlainValue v = true) :
    Plain v := by
  match room, v, h with
  | _, .flag b, _ => exact .flag b
  | _, .text t, _ => exact .text t
  | _, .list [], _ => exact .noItems
  | _ + 1, .list (v :: rest), h =>
      have hrows : isRows (.list (v :: rest)) = true := RowsFit.isRows h
      simp [isPlainValue, hrows] at hplain

theorem valueLines_cons (k : Text) (v : Value) (rest : List (Text × Value)) :
    valueLines ((k, v) :: rest) = (if isPlainValue v then
      writeKey k ++ (" = ".toList ++ (inlineText v ++ ['\n'])) else []) ++ valueLines rest := by
  rw [valueLines, valueLines, List.filter_cons]
  split
  · rw [List.flatMap_cons]
    simp only [List.append_assoc]
  · rfl

theorem linePairs_cons (k : Text) (v : Value) (rest : List (Text × Value)) :
    linePairs ((k, v) :: rest) =
      (if isPlainValue v then [([], k, lineNode v)] else []) ++ linePairs rest := by
  rw [linePairs, List.filter_cons]
  split <;> rfl

theorem Reads.valueLines {room : Nat} {members : List (Text × Value)} {t : Text} {lines : List Line}
    (hfit : MembersFit room members) (h : Reads t lines) :
    Reads (valueLines members ++ t) (pairLines (linePairs members) ++ lines) := by
  induction members with
  | nil => exact h
  | cons m rest ih =>
      obtain ⟨k, v⟩ := m
      obtain ⟨-, hv, hrest⟩ := hfit
      rw [valueLines_cons, linePairs_cons]
      split
      · rename_i hplain
        have hpair := Reads.pair (k := k) (hv.plain hplain) (ih hrest)
        simpa only [List.append_assoc, List.cons_append, List.nil_append, pairLines, List.map_cons]
          using hpair
      · exact ih hrest

/-- The header of a table, where it has one, and the values below it. -/
theorem Reads.tableHeader {room : Nat} {path : List Text} {k : Text} {members : List (Text × Value)}
    {t : Text} {lines : List Line} (hlen : path.length + 1 < depthLimit)
    (hfit : MembersFit room members) (h : Reads t lines) :
    Reads (tableHeader (path ++ [k]) members ++ (Toml.valueLines members ++ t))
      ((if members.isEmpty || members.any (isPlainValue ·.2) then
        [Part.mk false [] k (linePairs members)] else []).flatMap (Part.lines path) ++ lines) := by
  rw [Toml.tableHeader]
  split
  · have hheader := ((h.valueLines hfit).header hlen (k := k)).newline
    simpa [Part.lines] using hheader
  · rename_i hno
    simp only [Bool.or_eq_true, List.any_eq_true, not_or, not_exists, not_and] at hno
    have hnone : ∀ m ∈ members, ¬isPlainValue m.2 = true := hno.2
    rw [Toml.valueLines, List.filter_eq_nil_iff.mpr hnone]
    exact h

theorem Reads.rows {room : Nat} {path : List Text} {k : Text} {members : List (Text × Value)}
    {t : Text} {lines : List Line} (hlen : path.length + 1 < depthLimit)
    (hfit : MembersFit room members) (h : Reads t lines) :
    Reads (Toml.rowHeader (path ++ [k]) ++ (Toml.valueLines members ++ t))
      ((Part.mk true [] k (linePairs members)).lines path ++ lines) := by
  rw [Toml.rowHeader]
  have hheader := ((h.valueLines hfit).rowHeader hlen (k := k)).newline
  simpa [Part.lines] using hheader

mutual

theorem reads_innerTables (members : List (Text × Value)) {room : Nat} {path : List Text}
    (hlen : path.length + room < depthLimit) (hfit : MembersFit room members) {t : Text}
    {lines : List Line} (h : Reads t lines) :
    Reads (innerTables path members ++ t)
      ((innerParts members).flatMap (Part.lines path) ++ lines) := by
  match members, hfit with
  | [], _ => exact h
  | (k, v) :: rest, hfit =>
      rw [innerTables, innerParts, List.append_assoc, List.flatMap_append, List.append_assoc]
      exact reads_memberTables k v hlen hfit.2.1 (reads_innerTables rest hlen hfit.2.2 h)

theorem reads_memberTables (k : Text) (v : Value) {room : Nat} {path : List Text}
    (hlen : path.length + room < depthLimit) (hfit : Fits room v) {t : Text}
    {lines : List Line} (h : Reads t lines) :
    Reads (memberTables (path ++ [k]) v ++ t)
      ((memberParts k v).flatMap (Part.lines path) ++ lines) := by
  match room, v, hfit with
  | _, .flag _, _ => exact h
  | _, .text _, _ => exact h
  | _, .list [], _ => exact h
  | room + 1, .list (v :: rest), hfit =>
      rw [memberTables, memberParts, if_pos (RowsFit.isRows hfit), if_pos (RowsFit.isRows hfit)]
      exact reads_rowTables k (v :: rest) hlen hfit h
  | room + 1, .table members, hfit =>
      have hinner : (path ++ [k]).length + room < depthLimit := by
        rw [List.length_append, List.length_singleton]
        omega
      have hheader : path.length + 1 < depthLimit := by omega
      have hread := (reads_innerTables members hinner hfit h).tableHeader (k := k) hheader hfit
      rw [memberTables, memberParts, List.flatMap_append, flatMap_lines_under]
      simpa only [List.append_assoc] using hread

theorem reads_rowTables (k : Text) (items : List Value) {room : Nat} {path : List Text}
    (hlen : path.length + (room + 1) < depthLimit) (hfit : RowsFit room items) {t : Text}
    {lines : List Line} (h : Reads t lines) :
    Reads (rowTables (path ++ [k]) items ++ t)
      ((rowParts k items).flatMap (Part.lines path) ++ lines) := by
  match items, hfit with
  | [], _ => exact h
  | .table members :: rest, hfit =>
      have hheader : path.length + 1 < depthLimit := by omega
      have hinner : (path ++ [k]).length + room < depthLimit := by
        rw [List.length_append, List.length_singleton]
        omega
      have hrest := reads_rowTables k rest hlen hfit.2 h
      have hread := (reads_innerTables members hinner hfit.1 hrest).rows (k := k) hheader hfit.1
      rw [rowTables, rowParts, List.flatMap_append, List.flatMap_cons, flatMap_lines_under]
      simpa only [List.append_assoc] using hread

end

/-! ## Documents -/

theorem parts_pair (path : List Text) (k : Text) (node : Node) (lines : List Line) :
    parts (.pair path k node :: lines) = ((path, k, node) :: (parts lines).1, (parts lines).2) :=
  rfl

theorem parts_header (row : Bool) (path : List Text) (k : Text) (lines : List Line) :
    parts (.header row path k :: lines) =
      ([], ⟨row, path, k, (parts lines).1⟩ :: (parts lines).2) := rfl

theorem parts_pairLines (pairs : List (List Text × Text × Node)) {lines : List Line}
    {inner : List Part} (h : parts lines = ([], inner)) :
    parts (pairLines pairs ++ lines) = (pairs, inner) := by
  induction pairs with
  | nil => exact h
  | cons pair rest ih =>
      rw [pairLines, List.map_cons, List.cons_append, parts_pair, ← pairLines, ih]

/-- Lines go to the part whose header they stand below. -/
theorem parts_lines (inner : List Part) : parts (inner.flatMap (Part.lines [])) = ([], inner) := by
  induction inner with
  | nil => rfl
  | cons part rest ih =>
      rw [List.flatMap_cons, Part.lines, List.cons_append, parts_header,
        parts_pairLines part.pairs ih]
      rfl

theorem Reads.no_mark {t : Text} {lines : List Line} (h : Reads t lines) (u : Text) :
    t ≠ '\uFEFF' :: u := by
  rintro rfl
  have hnone : readDocument? (('\uFEFF' :: u).length + 1) ('\uFEFF' :: u) = none := rfl
  exact nomatch hnone.symm.trans (h _ (Nat.lt_succ_self _))

/-- A document is read as the values and parts that were written. -/
theorem read?_write {room : Nat} {members : List (Text × Value)} (hroom : room < depthLimit)
    (hfit : MembersFit room members) :
    read? (write (.table members)) = do
      let cells ← Cells.addValues (linePairs members) []
      let cells ← (innerParts members).foldlM (fun cells part => part.add cells) cells
      return .table .nowhere (membersOf cells) := by
  have hlen : ([] : List Text).length + room < depthLimit := by simpa using hroom
  have htables := reads_innerTables members hlen hfit reads_nil
  rw [List.append_nil, List.append_nil] at htables
  have hlines := htables.valueLines hfit
  have hparts := parts_pairLines (linePairs members) (parts_lines (innerParts members))
  have hwrite : Reads (write (.table members))
      (pairLines (linePairs members) ++ (innerParts members).flatMap (Part.lines [])) := by
    rw [write]
    split
    · rename_i heq
      rw [heq] at hlines
      exact hlines.of_newline
    · exact hlines
  rw [read?, hwrite _ (Nat.lt_succ_self _)]
  · simp only [bind, Option.bind_some, hparts]
  · exact hwrite.no_mark

end Signpost.Toml
