import Signpost.Proofs.Toml.Quoted

/-!
# Reading written keys

A key is read back part by part, whichever form each part is written in, up to the character that
ends it. A key of 80 parts or more is not read at all.
-/

namespace Signpost.Toml

/-- A part of a key is read back, whichever of its forms it is written in. -/
theorem keyPart?_writeKey (k : Text) {stop : Text}
    (hstop : ∀ c, stop.head? = some c → isBareKeyChar c = false) :
    keyPart? (writeKey k ++ stop) = some (k, stop) := by
  rw [writeKey]
  by_cases hbare : (!k.isEmpty && k.all isBareKeyChar) = true
  · rw [if_pos hbare]
    simp only [Bool.and_eq_true, Bool.not_eq_true', List.isEmpty_eq_false_iff] at hbare
    obtain ⟨hne, hall⟩ := hbare
    have htake : (k ++ stop).takeWhile isBareKeyChar = k := by
      rw [List.takeWhile_append_of_pos (List.all_eq_true.mp hall)]
      cases stop with
      | nil => simp
      | cons c stop => simp [hstop c rfl]
    obtain ⟨c, u, rfl⟩ := List.exists_cons_of_ne_nil hne
    have hc := List.all_eq_true.mp hall c List.mem_cons_self
    rw [keyPart?.eq_def]
    split
    · rename_i heq
      rw [(List.cons.inj heq).1] at hc
      exact absurd hc (by decide)
    · rename_i heq
      rw [(List.cons.inj heq).1] at hc
      exact absurd hc (by decide)
    · rw [htake]
      simp
  · rw [if_neg hbare]
    split
    · rename_i hbest
      obtain ⟨hplain, hquote⟩ := of_best_literal hbest
      rw [writeAs, List.append_assoc]
      exact readLiteral_append hplain hquote stop
    · rw [writeAs, List.append_assoc]
      exact readBasic_writeBasic 0 k stop

/-- A key starts with a bare character or a quote. -/
theorem writeKey_head (k : Text) :
    ∃ c u, writeKey k = c :: u ∧ (isBareKeyChar c = true ∨ c = '"' ∨ c = '\'') := by
  rw [writeKey]
  split
  · rename_i hbare
    simp only [Bool.and_eq_true, Bool.not_eq_true', List.isEmpty_eq_false_iff] at hbare
    obtain ⟨c, u, rfl⟩ := List.exists_cons_of_ne_nil hbare.1
    exact ⟨c, u, rfl, .inl (List.all_eq_true.mp hbare.2 c List.mem_cons_self)⟩
  · split
    · exact ⟨'\'', _, rfl, .inr (.inr rfl)⟩
    · exact ⟨'"', _, rfl, .inr (.inl rfl)⟩

/-- So a key starts with none of the characters that have a meaning in front of one. -/
theorem writeKey_head_not_mem (k : Text) :
    ∃ c u, writeKey k = c :: u ∧ c ∉ " \t\n\r#[.".toList := by
  obtain ⟨c, u, heq, hc⟩ := writeKey_head k
  refine ⟨c, u, heq, fun hmem => ?_⟩
  have hall : " \t\n\r#[.".toList.all
      (fun c => !(isBareKeyChar c || c == '"' || c == '\'')) = true := rfl
  have hno := List.all_eq_true.mp hall c hmem
  rw [Bool.not_eq_true', Bool.or_eq_false_iff, Bool.or_eq_false_iff] at hno
  rcases hc with hbare | rfl | rfl
  · exact nomatch hno.1.1.symm.trans hbare
  · exact nomatch hno.1.2
  · exact nomatch hno.2

theorem dropBlanks_cons {c : Char} (h : c ∉ " \t\n\r#[.".toList) (t : Text) :
    dropBlanks (c :: t) = c :: t := by
  have hblank : isBlank c = false := by
    simp at h
    simp [isBlank, h]
  rw [dropBlanks, List.dropWhile_cons, hblank]
  rfl

theorem dropBlanks_writeKey (k t : Text) : dropBlanks (writeKey k ++ t) = writeKey k ++ t := by
  obtain ⟨c, u, heq, hc⟩ := writeKey_head_not_mem k
  rw [heq, List.cons_append, dropBlanks_cons hc]

/-! ## Paths -/

theorem writePath_singleton (k : Text) : writePath [k] = writeKey k := rfl

theorem writePath_cons_cons (k k' : Text) (ks : List Text) :
    writePath (k :: k' :: ks) = writeKey k ++ '.' :: writePath (k' :: ks) := by
  show writeKey k ++ ['.'] ++ writePath (k' :: ks) = _
  rw [List.append_assoc]
  rfl

theorem writePath_head (path : List Text) (k : Text) :
    ∃ c u, writePath (path ++ [k]) = c :: u ∧ c ∉ " \t\n\r#[.".toList := by
  match path with
  | [] => exact writeKey_head_not_mem k
  | first :: others =>
      obtain ⟨c, u, heq, hc⟩ := writeKey_head_not_mem first
      obtain ⟨k', ks, hks⟩ := List.exists_cons_of_ne_nil (List.concat_ne_nil k others)
      rw [List.cons_append, hks, writePath_cons_cons, heq]
      exact ⟨c, _, rfl, hc⟩

/-- Every part of a key takes a character. -/
theorem length_le_writePath (ks : List Text) : ks.length ≤ (writePath ks).length := by
  induction ks with
  | nil => exact Nat.le_refl 0
  | cons k ks ih =>
      obtain ⟨c, u, heq, -⟩ := writeKey_head k
      cases ks with
      | nil =>
          rw [writePath_singleton, heq]
          simp
      | cons k' ks =>
          rw [writePath_cons_cons, heq]
          simp at ih ⊢
          omega

/-- What may stand behind a key: neither a bare character nor, after blanks, a dot. -/
structure EndsKey (stop : Text) : Prop where
  bare : ∀ c, stop.head? = some c → isBareKeyChar c = false
  dot : ∀ u, dropBlanks stop ≠ '.' :: u

theorem keyParts?_writePath (k : Text) (ks : List Text) (fuel : Nat) (hfuel : ks.length < fuel)
    {stop : Text} (hstop : EndsKey stop) :
    keyParts? fuel (writePath (k :: ks) ++ stop) = some (k :: ks, dropBlanks stop) := by
  induction ks generalizing k fuel with
  | nil =>
      obtain ⟨fuel, rfl⟩ := Nat.exists_eq_add_one_of_ne_zero (Nat.ne_of_gt hfuel)
      rw [writePath_singleton, keyParts?, dropBlanks_writeKey, keyPart?_writeKey k hstop.bare]
      simp only [bind, Option.bind_some]
      split
      · rename_i heq
        exact absurd heq (hstop.dot _)
      · rfl
  | cons k' ks ih =>
      obtain ⟨fuel, rfl⟩ := Nat.exists_eq_add_one_of_ne_zero (Nat.ne_zero_of_lt hfuel)
      have hdot : ∀ c, ('.' :: (writePath (k' :: ks) ++ stop)).head? = some c →
          isBareKeyChar c = false := by
        rintro c ⟨⟩
        rfl
      rw [List.length_cons] at hfuel
      rw [writePath_cons_cons, List.append_assoc, List.cons_append, keyParts?, dropBlanks_writeKey,
        keyPart?_writeKey k hdot]
      simp only [bind, Option.bind_some]
      rw [dropBlanks, List.dropWhile_cons, if_neg (by decide)]
      simp only [ih k' fuel (by omega), Option.bind_some]
      rfl

/-- A key of fewer than 80 parts is read back, with blanks behind it dropped. -/
theorem key?_writePath (path : List Text) (k : Text) (hlen : path.length + 1 < depthLimit)
    {stop : Text} (hstop : EndsKey stop) :
    key? (writePath (path ++ [k]) ++ stop) = some ((path, k), dropBlanks stop) := by
  have hle := length_le_writePath (path ++ [k])
  have hparts : keyParts? ((writePath (path ++ [k]) ++ stop).length + 1)
      (writePath (path ++ [k]) ++ stop) = some (path ++ [k], dropBlanks stop) := by
    obtain ⟨first, others, heq⟩ := List.exists_cons_of_ne_nil (List.concat_ne_nil k path)
    rw [heq] at hle ⊢
    refine keyParts?_writePath first others _ ?_ hstop
    rw [List.length_cons] at hle
    rw [List.length_append]
    omega
  rw [key?, hparts]
  simp only [bind, Option.bind_some, List.getLast?_concat, List.dropLast_concat,
    List.length_append, List.length_singleton]
  rw [if_neg (Nat.not_le.mpr hlen)]

end Signpost.Toml
