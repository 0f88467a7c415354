import Signpost.Proofs.Text.Hex
import Signpost.Toml.Writer

/-!
# Reading written texts

A text is read back from the form it was written in, whatever characters it holds: in double quotes
because every character stands for itself or is escaped, in single quotes because the form is only
chosen for texts that need no escape. In forms of several lines no three quotes of the text stand
in a row without an escape, and the ones in front of the closing quotes are counted to the text.
-/

namespace Signpost.Toml

/-! ## Between double quotes -/

/-- Behind a backslash the text is read as an escape of the character, with nothing left over. -/
structure Escapes (e : Text) (c : Char) : Prop where
  escape : ∀ rest, escape? (e ++ rest) = some (c, e.length)
  unfolded : ∀ rest, foldedLength? (e ++ rest) = none

theorem dropNewline?_cons {c : Char} {t : Text} (hfeed : c ≠ '\n') (hreturn : c ≠ '\r') :
    dropNewline? (c :: t) = none := by
  rw [dropNewline?.eq_def]
  split
  · rename_i heq
    exact absurd (List.cons.inj heq).1 hfeed
  · rename_i heq
    exact absurd (List.cons.inj heq).1 hreturn
  · rfl

theorem foldedLength?_letter {c : Char} {t : Text} (hblank : isBlank c = false) (hfeed : c ≠ '\n')
    (hreturn : c ≠ '\r') : foldedLength? (c :: t) = none := by
  rw [foldedLength?, List.dropWhile_cons, hblank]
  show Option.map _ (dropNewline? (c :: t)) = none
  rw [dropNewline?_cons hfeed hreturn]
  rfl

/-- The number of a control spells it by four digits. -/
theorem escapes_number {c : Char} (h : c.toNat < 128) :
    Escapes ('u' :: Text.padStart 4 '0' (Text.upper (Text.hex c.toNat))) c := by
  have hlen := (Text.length_padStart_hex c.toNat h).2
  have hvalue := (Text.mapM_hexValue?_padStart c.toNat h).2
  constructor
  · intro rest
    have htake : (Text.padStart 4 '0' (Text.upper (Text.hex c.toNat)) ++ rest).take 4 =
        Text.padStart 4 '0' (Text.upper (Text.hex c.toNat)) := by
      rw [List.take_append_of_le_length (Nat.le_of_eq hlen.symm), List.take_of_length_le]
      exact Nat.le_of_eq hlen
    have hsum : [0, 0, c.toNat / 16, c.toNat % 16].foldl (fun n d => n * 16 + d) 0 = c.toNat := by
      simp only [List.foldl_cons, List.foldl_nil]
      omega
    have hvalid : c.toNat.isValidChar := c.valid
    show numbered? 4 (Text.padStart 4 '0' (Text.upper (Text.hex c.toNat)) ++ rest) = _
    simp only [numbered?, htake, hvalue, bind, Option.bind_some, hsum]
    rw [if_pos ⟨rfl, hvalid⟩, Char.ofNat_toNat, List.length_cons, hlen]
  · exact fun rest => foldedLength?_letter (by decide) (by decide) (by decide)

theorem isPlain_of_needsEscape {c : Char} (h : needsEscape c = false) (hfeed : c ≠ '\n') :
    isPlain c = true := by
  by_cases htab : c = '\t'
  · subst htab
    rfl
  · simpa [needsEscape, isPlain, htab, hfeed] using h

/-- A character between double quotes stands for itself or is escaped, but for a quote that may
still stand as it is. -/
theorem writeBasic_cons (lines : Bool) (quotes : Nat) {c : Char}
    (h : c = '"' → lines = false ∨ 2 ≤ quotes) (t : Text) :
    (writeBasic lines quotes (c :: t) = c :: writeBasic lines 0 t ∧ c ≠ '"' ∧ c ≠ '\\' ∧
        (isPlain c = true ∨ lines = true ∧ c = '\n')) ∨
      ∃ e, writeBasic lines quotes (c :: t) = '\\' :: (e ++ writeBasic lines 0 t) ∧ Escapes e c := by
  have letter : ∀ x, isBlank x = false → x ≠ '\n' → x ≠ '\r' →
      (∀ rest, escape? (x :: rest) = some (c, 1)) → Escapes [x] c := fun x hb hf hr he =>
    ⟨he, fun rest => foldedLength?_letter hb hf hr⟩
  rw [writeBasic]
  split
  · rename_i hc
    subst hc
    right
    have hq : (lines && quotes < 2) = false := by
      rcases h rfl with rfl | hq
      · rfl
      · simp; omega
    rw [hq]
    exact ⟨['"'], rfl, letter _ (by decide) (by decide) (by decide) fun _ => rfl⟩
  split
  · subst_vars
    exact .inr ⟨['\\'], rfl, letter _ (by decide) (by decide) (by decide) fun _ => rfl⟩
  split
  · subst_vars
    exact .inr ⟨['t'], rfl, letter _ (by decide) (by decide) (by decide) fun _ => rfl⟩
  split
  · subst_vars
    cases lines with
    | true => exact .inl ⟨rfl, by decide, by decide, .inr ⟨rfl, rfl⟩⟩
    | false =>
      exact .inr ⟨['n'], rfl, letter _ (by decide) (by decide) (by decide) fun _ => rfl⟩
  split
  · subst_vars
    exact .inr ⟨['b'], rfl, letter _ (by decide) (by decide) (by decide) fun _ => rfl⟩
  split
  · subst_vars
    exact .inr ⟨['f'], rfl, letter _ (by decide) (by decide) (by decide) fun _ => rfl⟩
  split
  · subst_vars
    exact .inr ⟨['r'], rfl, letter _ (by decide) (by decide) (by decide) fun _ => rfl⟩
  split
  · rename_i hneeds
    have hlt : c.toNat < 128 := by
      simp [needsEscape] at hneeds
      omega
    exact .inr ⟨_, rfl, escapes_number hlt⟩
  · rename_i hquote hbackslash _ hfeed _ _ _ hneeds
    rw [Bool.not_eq_true] at hneeds
    exact .inl ⟨rfl, hquote, hbackslash, .inl (isPlain_of_needsEscape hneeds hfeed)⟩

theorem readBasic_append (skipped t : Text) :
    readBasic skipped.length (skipped ++ t) = readBasic 0 t := by
  induction skipped with
  | nil => rfl
  | cons c rest ih => exact ih

theorem readBasic_escape {e : Text} {c : Char} (h : Escapes e c) (t : Text) :
    readBasic 0 ('\\' :: (e ++ t)) = (readBasic 0 t).map fun (text, rest) => (c :: text, rest) := by
  rw [readBasic, if_neg (by decide), if_pos rfl, h.escape]
  exact congrArg (Option.map _) (readBasic_append e t)

/-- A text of one line is read back from between double quotes. -/
theorem readBasic_writeBasic (quotes : Nat) (t rest : Text) :
    readBasic 0 (writeBasic false quotes t ++ '"' :: rest) = some (t, rest) := by
  induction t generalizing quotes with
  | nil => rfl
  | cons c t ih =>
      rcases writeBasic_cons false quotes (fun _ => .inl rfl) t with
        ⟨heq, hquote, hbackslash, hplain⟩ | ⟨e, heq, hescapes⟩
      · have hplain : isPlain c = true := hplain.resolve_right fun h => nomatch h.1
        rw [heq, List.cons_append, readBasic, if_neg hquote, if_neg hbackslash, if_pos hplain, ih]
        rfl
      · rw [heq, List.cons_append, List.append_assoc, readBasic_escape hescapes, ih]
        rfl

/-! ## Between single quotes -/

/-- A text of plain characters without a single quote is read back from between single quotes. -/
theorem readLiteral_append {t : Text} (hplain : ∀ c ∈ t, isPlain c = true) (hquote : '\'' ∉ t)
    (rest : Text) : readLiteral (t ++ '\'' :: rest) = some (t, rest) := by
  induction t with
  | nil => rfl
  | cons c t ih =>
      obtain ⟨hc, hplain⟩ := List.forall_mem_cons.mp hplain
      obtain ⟨hne, hquote⟩ := List.ne_and_not_mem_of_not_mem_cons hquote
      rw [List.cons_append, readLiteral, if_neg (Ne.symm hne), if_pos hc, ih hplain hquote]
      rfl

/-! ## Over several lines -/

/-- The run of quotes that ends a text holds the last quotes of the text and the closing three. -/
theorem closeRun?_replicate {quote : Char} {n : Nat} {rest : Text} (hn : n ≤ 2)
    (hrest : rest.head? ≠ some quote) :
    closeRun? quote (List.replicate n quote ++ quote :: quote :: quote :: rest) =
      some (List.replicate n quote, rest) := by
  have hrun : (List.replicate n quote ++ quote :: quote :: quote :: rest) =
      List.replicate (n + 3) quote ++ rest := by
    rw [← List.replicate_append_replicate, List.append_assoc]
    rfl
  have htake : (List.replicate (n + 3) quote ++ rest).takeWhile (· == quote) =
      List.replicate (n + 3) quote := by
    rw [List.takeWhile_append_of_pos (by simp)]
    cases rest with
    | nil => simp
    | cons c rest =>
      have hc : c ≠ quote := fun h => hrest (congrArg some h)
      simp [hc]
  rw [hrun, closeRun?, htake, List.length_replicate, if_pos (by omega)]
  simp

section Lines

variable {quote : Char} {escapes : Bool} {c : Char} {t rest : Text}

theorem readLines_append (skipped t : Text) :
    readLines quote escapes skipped.length (skipped ++ t) = readLines quote escapes 0 t := by
  induction skipped with
  | nil => rfl
  | cons c rest ih => exact ih

theorem readLines_close {n : Nat} (hn : n ≤ 2) (hrest : rest.head? ≠ some quote) :
    readLines quote escapes 0 (List.replicate n quote ++ quote :: quote :: quote :: rest) =
      some (List.replicate n quote, rest) := by
  have hclose := closeRun?_replicate hn hrest
  match n, hn with
  | 0, _ | 1, _ | 2, _ =>
    rw [← hclose]
    simp [List.replicate, readLines, Text.startsWith]

/-- A quote that two more do not follow belongs to the text. -/
theorem readLines_quote (hplain : isPlain quote = true) (hbackslash : quote ≠ '\\')
    (hreturn : quote ≠ '\r') (h : Text.startsWith [quote, quote] t = false) :
    readLines quote escapes 0 (quote :: t) =
      (readLines quote escapes 0 t).map fun (text, rest) => (quote :: text, rest) := by
  rw [readLines, h]
  simp [hbackslash, hreturn, hplain]

theorem readLines_char (hquote : c ≠ quote) (hbackslash : c = '\\' → escapes = false)
    (hplain : isPlain c = true ∨ c = '\n') :
    readLines quote escapes 0 (c :: t) =
      (readLines quote escapes 0 t).map fun (text, rest) => (c :: text, rest) := by
  have hreturn : c ≠ '\r' := by
    rintro rfl
    exact absurd hplain (by decide)
  have hescape : (decide (c = '\\') && escapes) = false := by
    by_cases h : c = '\\'
    · simp [hbackslash h]
    · simp [h]
  rw [readLines, hescape]
  rcases hplain with h | rfl
  · simp [hquote, hreturn, h]
  · simp [hquote]

theorem readLines_escape {e : Text} (h : Escapes e c) (hquote : quote ≠ '\\') :
    readLines quote true 0 ('\\' :: (e ++ t)) =
      (readLines quote true 0 t).map fun (text, rest) => (c :: text, rest) := by
  rw [readLines, h.unfolded, h.escape]
  simp only [readLines_append]
  simp [Ne.symm hquote]

end Lines

/-- What is written behind two quotes does not start with a third. -/
theorem head_writeBasic (quotes : Nat) {c : Char} (h : c = '"' → 2 ≤ quotes) (t : Text) :
    ∃ d u, writeBasic true quotes (c :: t) = d :: u ∧ d ≠ '"' := by
  rcases writeBasic_cons true quotes (fun hc => .inr (h hc)) t with
    ⟨heq, hquote, -, -⟩ | ⟨e, heq, -⟩
  · exact ⟨c, _, heq, hquote⟩
  · exact ⟨'\\', _, heq, by decide⟩

theorem startsWith_ne {quote d : Char} {u : Text} (h : d ≠ quote) :
    Text.startsWith [quote, quote] (d :: u) = false := by
  simp [Text.startsWith, List.isPrefixOf, Ne.symm h]

theorem startsWith_second_ne {quote d : Char} {u : Text} (h : d ≠ quote) :
    Text.startsWith [quote, quote] (quote :: d :: u) = false := by
  simp [Text.startsWith, List.isPrefixOf, Ne.symm h]

/-- Two more quotes follow a quote only at the end of a text, where the closing ones stand. -/
theorem ending_of_writeBasic {quotes : Nat} {t rest : Text}
    (h : Text.startsWith ['"', '"'] (writeBasic true (quotes + 1) t ++ rest) = true) :
    t = [] ∨ t = ['"'] ∧ quotes = 0 := by
  cases t with
  | nil => exact .inl rfl
  | cons c t =>
      right
      by_cases hc : c = '"' → 2 ≤ quotes + 1
      · obtain ⟨d, u, heq, hd⟩ := head_writeBasic _ hc t
        rw [heq, List.cons_append, startsWith_ne hd] at h
        exact nomatch h
      · obtain ⟨rfl, hq⟩ := Classical.not_imp.mp hc
        obtain rfl : quotes = 0 := by omega
        refine ⟨?_, rfl⟩
        cases t with
        | nil => rfl
        | cons c t =>
            obtain ⟨d, u, heq, hd⟩ := head_writeBasic 2 (fun _ => Nat.le_refl 2) t
            have hcons : writeBasic true 1 ('"' :: c :: t) = '"' :: writeBasic true 2 (c :: t) := rfl
            rw [hcons, heq, List.cons_append, List.cons_append, startsWith_second_ne hd] at h
            exact nomatch h

/-- A text of several lines is read back from between triple double quotes. The quotes counted are
those that stand in front of what is written. -/
theorem readLines_writeBasic (quotes : Nat) (t : Text) {rest : Text} (hrest : rest.head? ≠ some '"') :
    readLines '"' true 0 (writeBasic true quotes t ++ '"' :: '"' :: '"' :: rest) =
      some (t, rest) := by
  induction t generalizing quotes with
  | nil => exact readLines_close (n := 0) (by omega) hrest
  | cons c t ih =>
      by_cases hc : c = '"' ∧ quotes < 2
      · obtain ⟨rfl, hq⟩ := hc
        have heq : writeBasic true quotes ('"' :: t) = '"' :: writeBasic true (quotes + 1) t := by
          rw [writeBasic, if_pos rfl, if_pos (by simpa using hq)]
        rw [heq, List.cons_append]
        by_cases hstart : Text.startsWith ['"', '"']
            (writeBasic true (quotes + 1) t ++ '"' :: '"' :: '"' :: rest) = true
        · rcases ending_of_writeBasic hstart with rfl | ⟨rfl, rfl⟩
          · exact readLines_close (n := 1) (by omega) hrest
          · exact readLines_close (n := 2) (by omega) hrest
        · rw [readLines_quote rfl (by decide) (by decide) (by simpa using hstart), ih]
          rfl
      · have h : c = '"' → 2 ≤ quotes := fun hc' => by
          have : ¬quotes < 2 := fun hq => hc ⟨hc', hq⟩
          omega
        rcases writeBasic_cons true quotes (fun hc => .inr (h hc)) t with
          ⟨heq, hquote, hbackslash, hplain⟩ | ⟨e, heq, hescapes⟩
        · rw [heq, List.cons_append, readLines_char hquote (fun h => absurd h hbackslash)
            (hplain.imp_right And.right), ih]
          rfl
        · rw [heq, List.cons_append, List.append_assoc, readLines_escape hescapes (by decide), ih]
          rfl

theorem le_longestRun (x : Char) (run : Nat) (t : Text) : run ≤ longestRun x run t := by
  induction t generalizing run with
  | nil => exact Nat.le_refl run
  | cons c t ih =>
      rw [longestRun]
      split
      · exact Nat.le_trans (Nat.le_succ run) (ih (run + 1))
      · exact Nat.le_max_left _ _

theorem ending_of_longestRun {quote : Char} {run : Nat} {t rest : Text}
    (hrun : longestRun quote (run + 1) t ≤ 2) (h : Text.startsWith [quote, quote] (t ++ rest) = true) :
    t = [] ∨ t = [quote] := by
  match t with
  | [] => exact .inl rfl
  | [c] =>
      by_cases hc : c = quote
      · exact .inr (congrArg (fun c => [c]) hc)
      · rw [List.singleton_append, startsWith_ne hc] at h
        exact nomatch h
  | c :: d :: t =>
      by_cases hc : c = quote
      · subst hc
        by_cases hd : d = c
        · subst hd
          rw [longestRun, if_pos rfl, longestRun, if_pos rfl] at hrun
          have hle := le_longestRun d (run + 1 + 1 + 1) t
          omega
        · rw [List.cons_append, List.cons_append, startsWith_second_ne hd] at h
          exact nomatch h
      · rw [List.cons_append, startsWith_ne hc] at h
        exact nomatch h

/-- A text of plain characters and line breaks is read back from between triple single quotes when
at most two single quotes stand in a row. -/
theorem readLines_literal {run : Nat} {t rest : Text} (hrun : longestRun '\'' run t ≤ 2)
    (hplain : ∀ c ∈ t, isPlain c = true ∨ c = '\n') (hrest : rest.head? ≠ some '\'') :
    readLines '\'' false 0 (t ++ '\'' :: '\'' :: '\'' :: rest) = some (t, rest) := by
  induction t generalizing run with
  | nil => exact readLines_close (n := 0) (by omega) hrest
  | cons c t ih =>
      obtain ⟨hc, hothers⟩ := List.forall_mem_cons.mp hplain
      rw [longestRun] at hrun
      by_cases hquote : c = '\''
      · subst hquote
        rw [if_pos rfl] at hrun
        rw [List.cons_append]
        by_cases hstart : Text.startsWith ['\'', '\''] (t ++ '\'' :: '\'' :: '\'' :: rest) = true
        · rcases ending_of_longestRun hrun hstart with rfl | rfl
          · exact readLines_close (n := 1) (by omega) hrest
          · exact readLines_close (n := 2) (by omega) hrest
        · rw [readLines_quote rfl (by decide) (by decide) (by simpa using hstart), ih hrun hothers]
          rfl
      · rw [if_neg hquote] at hrun
        have hrun' := Nat.le_trans (Nat.le_max_right run _) hrun
        rw [List.cons_append, readLines_char hquote (fun _ => rfl) hc, ih hrun' hothers]
        rfl

/-! ## The chosen form -/

theorem longestRun_eq_zero {x : Char} {t : Text} (h : longestRun x 0 t = 0) : x ∉ t := by
  induction t with
  | nil => exact List.not_mem_nil
  | cons c t ih =>
      rw [longestRun] at h
      split at h
      · have hle := le_longestRun x (0 + 1) t
        omega
      · rename_i hne
        rw [Nat.zero_max] at h
        exact List.not_mem_cons_of_ne_of_not_mem (Ne.symm hne) (ih h)

theorem isPlain_of_any_needsEscape {t : Text} (h : t.any needsEscape = false) :
    ∀ c ∈ t, isPlain c = true ∨ c = '\n' := by
  intro c hc
  by_cases hfeed : c = '\n'
  · exact .inr hfeed
  · have hneeds := (List.any_eq_false.mp h) c hc
    exact .inl (isPlain_of_needsEscape (by simpa using hneeds) hfeed)

/-- One line between single quotes is chosen for plain characters without a single quote. -/
theorem of_best_literal {t : Text} (h : TextForm.best t = .literal) :
    (∀ c ∈ t, isPlain c = true) ∧ '\'' ∉ t := by
  have hchosen : t.any needsEscape = false ∧ longestRun '\'' 0 t = 0 ∧
      t.any (· == '\n') = false := by
    simp only [TextForm.best] at h
    split at h
    · exact nomatch h
    split at h
    · rename_i _ hif
      simpa [and_assoc] using hif
    split at h
    · exact nomatch h
    split at h
    · exact nomatch h
    split at h <;> exact nomatch h
  obtain ⟨hescapes, hrun, hfeed⟩ := hchosen
  refine ⟨fun c hc => ?_, longestRun_eq_zero hrun⟩
  refine (isPlain_of_any_needsEscape hescapes c hc).resolve_right ?_
  rintro rfl
  exact (List.any_eq_false.mp hfeed) _ hc rfl

/-- Several lines between single quotes are chosen for plain characters and line breaks with at most
two single quotes in a row. -/
theorem of_best_literalLines {t : Text} (h : TextForm.best t = .literalLines) :
    (∀ c ∈ t, isPlain c = true ∨ c = '\n') ∧ longestRun '\'' 0 t ≤ 2 := by
  have hchosen : t.any needsEscape = false ∧ longestRun '\'' 0 t ≤ 2 := by
    simp only [TextForm.best] at h
    split at h
    · exact nomatch h
    split at h
    · exact nomatch h
    split at h
    · exact nomatch h
    split at h
    · rename_i hif
      simpa using hif
    split at h <;> exact nomatch h
  exact ⟨isPlain_of_any_needsEscape hchosen.1, hchosen.2⟩

/-- The line break behind the opening quotes is dropped; without one nothing is. -/
theorem dropNewline?_opening {t u : Text}
    (h : t.any (· == '\n') = false → ∃ c v, u = c :: v ∧ c ≠ '\n' ∧ c ≠ '\r') :
    (dropNewline? ((if t.any (· == '\n') then ['\n'] else []) ++ u)).getD
      ((if t.any (· == '\n') then ['\n'] else []) ++ u) = u := by
  by_cases hfeed : t.any (· == '\n') = true
  · rw [if_pos hfeed]
    rfl
  · obtain ⟨c, v, rfl, hc, hc'⟩ := h (by rwa [Bool.not_eq_true] at hfeed)
    rw [if_neg hfeed, List.nil_append, dropNewline?_cons hc hc']
    rfl

theorem isPlain_ne_return {c : Char} (h : isPlain c = true) : c ≠ '\r' := by
  rintro rfl
  exact nomatch h

theorem first_writeBasic {t : Text} (h : t.any (· == '\n') = false) (rest : Text) :
    ∃ c v, writeBasic true 0 t ++ '"' :: rest = c :: v ∧ c ≠ '\n' ∧ c ≠ '\r' := by
  cases t with
  | nil => exact ⟨'"', _, rfl, by decide, by decide⟩
  | cons c t =>
      rw [List.any_cons, Bool.or_eq_false_iff, beq_eq_false_iff_ne] at h
      by_cases hc : c = '"'
      · subst hc
        exact ⟨'"', _, rfl, by decide, by decide⟩
      · rcases writeBasic_cons true 0 (fun hc' => absurd hc' hc) t with
          ⟨heq, -, -, hplain⟩ | ⟨e, heq, -⟩
        · have hplain := hplain.resolve_right fun hfeed => h.1 hfeed.2
          exact ⟨c, _, by rw [heq]; rfl, h.1, isPlain_ne_return hplain⟩
        · exact ⟨'\\', _, by rw [heq]; rfl, by decide, by decide⟩

theorem first_literal {t : Text} (hplain : ∀ c ∈ t, isPlain c = true ∨ c = '\n')
    (h : t.any (· == '\n') = false) (rest : Text) :
    ∃ c v, t ++ '\'' :: rest = c :: v ∧ c ≠ '\n' ∧ c ≠ '\r' := by
  cases t with
  | nil => exact ⟨'\'', _, rfl, by decide, by decide⟩
  | cons c t =>
      rw [List.any_cons, Bool.or_eq_false_iff, beq_eq_false_iff_ne] at h
      have hc := (hplain c List.mem_cons_self).resolve_right h.1
      exact ⟨c, _, rfl, h.1, isPlain_ne_return hc⟩

theorem readText?_double {u : Text} (h : ∀ v, u ≠ '"' :: '"' :: v) :
    readText? ('"' :: u) = readBasic 0 u := by
  rw [readText?.eq_def]
  split
  · rename_i heq
    exact absurd (List.cons.inj heq).2 (h _)
  · rename_i heq
    exact absurd (List.cons.inj heq).1 (by decide)
  · rfl

theorem readText?_single {u : Text} (h : ∀ v, u ≠ '\'' :: '\'' :: v) :
    readText? ('\'' :: u) = readLiteral u := by
  rw [readText?.eq_def]
  split
  · rename_i heq
    exact absurd (List.cons.inj heq).1 (by decide)
  · rename_i heq
    exact absurd (List.cons.inj heq).2 (h _)
  · rfl

/-- A text is read back from the form that was chosen for it, in front of a line break. -/
theorem readText?_writeText (t rest : Text) :
    readText? (writeText t ++ '\n' :: rest) = some (t, '\n' :: rest) := by
  rw [writeText]
  cases hbest : TextForm.best t with
  | basic =>
      rw [writeAs, List.append_assoc, List.cons_append, readText?_double ?_]
      · exact readBasic_writeBasic 0 t _
      · intro v
        cases t with
        | nil => exact fun h => absurd (List.cons.inj (List.cons.inj h).2).1 (by decide)
        | cons c t =>
            rcases writeBasic_cons false 0 (fun _ => .inl rfl) t with
              ⟨heq, hquote, -, -⟩ | ⟨e, heq, -⟩
            · rw [heq]
              exact fun h => hquote (List.cons.inj h).1
            · rw [heq]
              exact fun h => absurd (List.cons.inj h).1 (by decide)
  | literal =>
      obtain ⟨hplain, hquote⟩ := of_best_literal hbest
      rw [writeAs, List.append_assoc, List.cons_append, readText?_single ?_]
      · exact readLiteral_append hplain hquote _
      · intro v
        cases t with
        | nil => exact fun h => absurd (List.cons.inj (List.cons.inj h).2).1 (by decide)
        | cons c t => exact fun h => hquote ((List.cons.inj h).1 ▸ List.mem_cons_self)
  | basicLines =>
      have hrest : ('\n' :: rest).head? ≠ some '"' := by simp
      have hread := readLines_writeBasic 0 t hrest
      rw [← dropNewline?_opening fun h => first_writeBasic h _] at hread
      rw [writeAs, List.append_assoc, List.append_assoc, List.append_assoc]
      exact hread
  | literalLines =>
      obtain ⟨hplain, hrun⟩ := of_best_literalLines hbest
      have hrest : ('\n' :: rest).head? ≠ some '\'' := by simp
      have hread := readLines_literal hrun hplain hrest
      rw [← dropNewline?_opening fun h => first_literal hplain h _] at hread
      rw [writeAs, List.append_assoc, List.append_assoc, List.append_assoc]
      exact hread

end Signpost.Toml
