import Mathlib.Data.List.Infix
import Signpost.Proofs.FieldPath
import Signpost.Proofs.Text.Quoted
import Signpost.Site.Problem

/-!
# Paths and the beginnings of their texts

A text is asked for by comparing characters, yet what is found is a matter of steps. Every step but
the first starts with a dot or a bracket, and its text shows where it ends: a name at the next dot
or bracket, a position at the end of its digits, a key at the quote that is not escaped. So where
the text of one path goes on from the text of another at the start of a step, the steps of the
second are the first steps of the other.
-/

namespace Signpost

namespace Text

theorem stripStart?_eq_some {lead t r : Text} : stripStart? lead t = some r ↔ t = lead ++ r := by
  induction lead generalizing t with
  | nil => exact Option.some.injEq t r ▸ Iff.rfl
  | cons a lead ih =>
      cases t with
      | nil => exact ⟨nofun, nofun⟩
      | cons b t =>
          rw [stripStart?, List.cons_append, List.cons.injEq]
          split
          next h =>
            subst h
            rw [ih]
            exact ⟨fun h => ⟨rfl, h⟩, fun h => h.2⟩
          next h => exact ⟨nofun, fun heq => absurd heq.1.symm h⟩

theorem ofNat_append_inj {i j : Nat} {c d : Char} {x y : Text} (hc : c.isDigit = false)
    (hd : d.isDigit = false) (h : ofNat i ++ c :: x = ofNat j ++ d :: y) :
    i = j ∧ c :: x = d :: y := by
  have hdigits (n : Nat) : ∀ c ∈ ofNat n, c.isDigit = true := fun c hc =>
    Nat.isDigit_of_mem_toDigits (by decide) (by decide) hc
  have htake (n : Nat) {c : Char} (hc : c.isDigit = false) (x : Text) :
      (ofNat n ++ c :: x).takeWhile Char.isDigit = ofNat n := by
    rw [List.takeWhile_append_of_pos (hdigits n),
      List.takeWhile_cons_of_neg (Bool.eq_false_iff.mp hc), List.append_nil]
  have hsame : ofNat i = ofNat j := by
    rw [← htake i hc x, h, htake j hd y]
  refine ⟨?_, List.append_cancel_left (hsame ▸ h)⟩
  rw [← Nat.ofDigitChars_ten_toDigits (n := i), ← Nat.ofDigitChars_ten_toDigits (n := j)]
  exact congrArg (Nat.ofDigitChars 10 · 0) hsame

end Text

namespace Step

/-- The characters that start the text of a step. -/
def starts (c : Char) : Bool := c == '.' || c == '['

/-- The name of a field is there and goes on to where the next step starts. -/
def IsProper : Step → Prop
  | .field name => name ≠ [] ∧ ∀ c ∈ name, starts c = false
  | .index _ | .key _ => True

theorem isProper_field_iff {name : Text} :
    (!name.isEmpty && name.all (!starts ·)) = true ↔ (Step.field name).IsProper := by
  rw [IsProper, Bool.and_eq_true, Bool.not_eq_true', List.isEmpty_eq_false_iff, List.all_eq_true]
  simp only [Bool.not_eq_true']

instance : DecidablePred IsProper
  | .field _ => decidable_of_iff _ isProper_field_iff
  | .index _ | .key _ => isTrue trivial

/-- What a step adds to the text of the steps in front of it. -/
def text : Step → Text
  | .field name => '.' :: name
  | .index i => '[' :: (Text.ofNat i ++ [']'])
  | .key k => '[' :: (Quoted.encode k ++ [']'])

/-- The text of a step that comes first. -/
def firstText : Step → Text
  | .field name => name
  | s => s.text

/-- What a step has in front of it unless it comes first. -/
def lead : Step → Text
  | .field _ => ['.']
  | .index _ | .key _ => []

theorem text_eq (s : Step) : s.text = s.lead ++ s.firstText := by
  cases s <;> rfl

end Step

namespace FieldPath

variable {p q : FieldPath} {s s' : Step} {t x y : Text}

/-- All field names are proper. -/
def Proper (p : FieldPath) : Prop := ∀ s ∈ p, s.IsProper

instance : DecidablePred Proper := fun p => inferInstanceAs (Decidable (∀ s ∈ p, s.IsProper))

/-- The text is at its end or at the start of a step. -/
def AtStep (t : Text) : Prop := ∀ c ∈ t.head?, Step.starts c = true

theorem proper_cons : Proper (s :: p) ↔ s.IsProper ∧ p.Proper := List.forall_mem_cons

/-! ## The text of a path, step by step -/

theorem extend_nil (s : Step) : extend [] s = s.firstText := by
  cases s <;> rfl

theorem extend_of_ne_nil (ht : t ≠ []) (s : Step) : extend t s = t ++ s.text := by
  cases s with
  | field name => exact if_neg (by rwa [List.isEmpty_iff])
  | index i => exact List.append_assoc ..
  | key k => exact List.append_assoc ..

theorem foldl_extend (ht : t ≠ []) (p : FieldPath) :
    p.foldl extend t = t ++ p.flatMap Step.text := by
  induction p generalizing t with
  | nil => exact (List.append_nil t).symm
  | cons s p ih =>
      rw [List.foldl_cons, extend_of_ne_nil ht, ih (List.append_ne_nil_of_left_ne_nil ht _),
        List.flatMap_cons, List.append_assoc]

theorem firstText_ne_nil (hs : s.IsProper) : s.firstText ≠ [] := by
  cases s with
  | field name => exact hs.1
  | index i => exact List.cons_ne_nil _ _
  | key k => exact List.cons_ne_nil _ _

theorem render_cons (hs : s.IsProper) (p : FieldPath) :
    render (s :: p) = s.firstText ++ p.flatMap Step.text := by
  rw [render, List.foldl_cons, extend_nil, foldl_extend (firstText_ne_nil hs)]

theorem render_ne_nil (hp : p.Proper) (h : p ≠ []) : p.render ≠ [] := by
  cases p with
  | nil => exact absurd rfl h
  | cons s p =>
      have hs := (proper_cons.mp hp).1
      rw [render_cons hs]
      exact List.append_ne_nil_of_left_ne_nil (firstText_ne_nil hs) _

theorem render_append (hp : p.Proper) (h : p ≠ []) (r : FieldPath) :
    render (p ++ r) = p.render ++ r.flatMap Step.text := by
  rw [render, List.foldl_append, ← render, foldl_extend (render_ne_nil hp h)]

theorem atStep_nil : AtStep [] := nofun

theorem atStep_append_text (p : FieldPath) (ht : AtStep t) :
    AtStep (p.flatMap Step.text ++ t) := by
  cases p with
  | nil => exact ht
  | cons s p =>
      intro c hc
      cases s <;> cases hc <;> rfl

theorem atStep_text (p : FieldPath) : AtStep (p.flatMap Step.text) := by
  rw [← List.append_nil (p.flatMap Step.text)]
  exact atStep_append_text p atStep_nil

/-! ## Where a step ends -/

theorem takeWhile_name (hname : ∀ c ∈ t, Step.starts c = false) (hx : AtStep x) :
    (t ++ x).takeWhile (fun c => !Step.starts c) = t := by
  rw [List.takeWhile_append_of_pos fun c hc => by rw [hname c hc]; rfl]
  cases x with
  | nil => exact List.append_nil t
  | cons c x =>
      rw [List.takeWhile_cons_of_neg (by rw [hx c rfl]; decide), List.append_nil]

theorem name_append_inj {name name' : Text} (hname : ∀ c ∈ name, Step.starts c = false)
    (hname' : ∀ c ∈ name', Step.starts c = false) (hx : AtStep x) (hy : AtStep y)
    (h : name ++ x = name' ++ y) : name = name' ∧ x = y := by
  have hsame : name = name' := by
    rw [← takeWhile_name hname hx, h, takeWhile_name hname' hy]
  exact ⟨hsame, List.append_cancel_left (hsame ▸ h)⟩

theorem index_append_ne_key (i : Nat) (k x y : Text) :
    (Step.index i).text ++ x ≠ (Step.key k).text ++ y := by
  obtain ⟨d, ds, hd, hne⟩ := ofNat_eq_cons i
  rw [Step.text, Step.text, hd, Quoted.encode]
  intro h
  exact hne (List.cons.inj (List.cons.inj h).2).1

/-- The text of a step shows which step it is and where it ends. -/
theorem text_append_inj (hs : s.IsProper) (hs' : s'.IsProper) (hx : AtStep x) (hy : AtStep y)
    (h : s.text ++ x = s'.text ++ y) : s = s' ∧ x = y := by
  cases s with
  | field name =>
      cases s' with
      | field name' =>
          obtain ⟨rfl, hrest⟩ := name_append_inj hs.2 hs'.2 hx hy (List.cons.inj h).2
          exact ⟨rfl, hrest⟩
      | index j => exact absurd (List.cons.inj h).1 (by decide)
      | key k => exact absurd (List.cons.inj h).1 (by decide)
  | index i =>
      cases s' with
      | field name => exact absurd (List.cons.inj h).1 (by decide)
      | index j =>
          have hbehind : Text.ofNat i ++ ']' :: x = Text.ofNat j ++ ']' :: y := by
            simpa [Step.text] using h
          obtain ⟨rfl, hrest⟩ := Text.ofNat_append_inj (by decide) (by decide) hbehind
          exact ⟨rfl, (List.cons.inj hrest).2⟩
      | key k => exact absurd h (index_append_ne_key i k x y)
  | key k =>
      cases s' with
      | field name => exact absurd (List.cons.inj h).1 (by decide)
      | index j => exact absurd h.symm (index_append_ne_key j k y x)
      | key k' =>
          have hbehind : Quoted.encode k ++ ']' :: x = Quoted.encode k' ++ ']' :: y := by
            simpa [Step.text] using h
          obtain ⟨rfl, hrest⟩ := Quoted.encode_append_inj hbehind
          exact ⟨rfl, (List.cons.inj hrest).2⟩

/-- A text that starts with a bracket starts with a position or a key. -/
theorem lead_eq (hs : s.IsProper) (x : Text) :
    s.lead = if (s.firstText ++ x).head? = some '[' then [] else ['.'] := by
  cases s with
  | field name =>
      obtain ⟨c, rest, rfl⟩ := List.exists_cons_of_ne_nil hs.1
      rw [if_neg]
      · rfl
      · intro h
        rw [Option.some.inj h] at hs
        exact absurd (hs.2 '[' List.mem_cons_self) (by decide)
  | index i => rfl
  | key k => rfl

theorem firstText_append_inj (hs : s.IsProper) (hs' : s'.IsProper) (hx : AtStep x) (hy : AtStep y)
    (h : s.firstText ++ x = s'.firstText ++ y) : s = s' ∧ x = y := by
  have hlead : s.lead = s'.lead := by rw [lead_eq hs x, h, ← lead_eq hs' y]
  -- with what leads to them in front the two steps read as any others
  refine text_append_inj hs hs' hx hy ?_
  rw [Step.text_eq, Step.text_eq, List.append_assoc, List.append_assoc, h, hlead]

/-! ## What is found below a path -/

theorem prefix_of_flatMap_text (hp : p.Proper) (hq : q.Proper) (ht : AtStep t)
    (h : p.flatMap Step.text = q.flatMap Step.text ++ t) : q <+: p := by
  induction q generalizing p with
  | nil => exact List.nil_prefix
  | cons s' q ih =>
      rw [List.flatMap_cons, List.append_assoc] at h
      cases p with
      | nil => cases s' <;> cases h
      | cons s p =>
          obtain ⟨rfl, hrest⟩ := text_append_inj (proper_cons.mp hp).1 (proper_cons.mp hq).1
            (atStep_text p) (atStep_append_text q ht) h
          exact (List.prefix_cons_inj s).mpr
            (ih (proper_cons.mp hp).2 (proper_cons.mp hq).2 hrest)

theorem prefix_of_render (hp : p.Proper) (hq : q.Proper) (ht : AtStep t)
    (h : p.render = q.render ++ t) (hroot : q ≠ []) : q <+: p := by
  cases q with
  | nil => exact absurd rfl hroot
  | cons s' q =>
      have hs' := (proper_cons.mp hq).1
      rw [render_cons hs', List.append_assoc] at h
      cases p with
      | nil => exact absurd (List.append_eq_nil_iff.mp h.symm).1 (firstText_ne_nil hs')
      | cons s p =>
          have hs := (proper_cons.mp hp).1
          rw [render_cons hs] at h
          obtain ⟨rfl, hrest⟩ :=
            firstText_append_inj hs hs' (atStep_text p) (atStep_append_text q ht) h
          exact (List.prefix_cons_inj s).mpr
            (prefix_of_flatMap_text (proper_cons.mp hp).2 (proper_cons.mp hq).2 ht hrest)

theorem isUnder_iff {other : Text} :
    p.isUnder other = true ↔ ∃ t, p.render = other ++ t ∧ AtStep t := by
  rw [isUnder]
  split
  next h =>
    rw [Text.stripStart?_eq_some] at h
    exact ⟨fun _ => ⟨[], h, atStep_nil⟩, fun _ => rfl⟩
  next c t h =>
    rw [Text.stripStart?_eq_some] at h
    constructor
    · exact fun hc => ⟨c :: t, h, fun d hd => Option.some.inj hd ▸ hc⟩
    · rintro ⟨u, hu, hstep⟩
      obtain rfl : c :: t = u := List.append_cancel_left (h.symm.trans hu)
      exact hstep c rfl
  next h =>
    refine ⟨nofun, ?_⟩
    rintro ⟨u, hu, -⟩
    rw [Text.stripStart?_eq_some.mpr hu] at h
    cases h

theorem isUnder_render_iff (hp : p.Proper) (hq : q.Proper) (hroot : q ≠ []) :
    p.isUnder q.render = true ↔ q <+: p := by
  rw [isUnder_iff]
  constructor
  · rintro ⟨t, h, ht⟩
    exact prefix_of_render hp hq ht h hroot
  · rintro ⟨r, rfl⟩
    exact ⟨_, render_append hq hroot r, atStep_text r⟩

/-- Different paths have different texts. -/
theorem render_inj (hp : p.Proper) (hq : q.Proper) (h : p.render = q.render) : p = q := by
  have below {p q : FieldPath} (hp : p.Proper) (hq : q.Proper) (h : p.render = q.render) :
      q <+: p := by
    cases q with
    | nil => exact List.nil_prefix
    | cons s q =>
        rw [← List.append_nil (render (s :: q))] at h
        exact prefix_of_render hp hq atStep_nil h (List.cons_ne_nil s q)
  exact (below hq hp h.symm).eq_of_length_le (below hp hq h).length_le

/-- Which diagnostics are found at or below a field is a matter of their steps. -/
theorem mentions_render_iff {diagnostics : List Diagnostic} (hroot : q ≠ [])
    (hproper : ∀ d ∈ diagnostics, d.field.Proper) (hq : q.Proper) :
    Diagnostic.mentions diagnostics q.render = true ↔ ∃ d ∈ diagnostics, q <+: d.field := by
  rw [Diagnostic.mentions, List.any_eq_true]
  exact exists_congr fun d => and_congr_right fun hd =>
    isUnder_render_iff (hproper d hd) hq hroot

/-- A field path is found below another by its text exactly when it is below it by its steps, so no
key, name or number is ever cut. -/
theorem found_by_steps (hp : p.Proper) (hq : q.Proper) (hroot : q ≠ []) :
    (p.isUnder q.render = true ↔ q <+: p) ∧ (p.render = q.render → p = q) ∧
      ∀ diagnostics : List Diagnostic, (∀ d ∈ diagnostics, d.field.Proper) →
        (Diagnostic.mentions diagnostics q.render = true ↔ ∃ d ∈ diagnostics, q <+: d.field) :=
  ⟨isUnder_render_iff hp hq hroot, render_inj hp hq,
    fun _ hproper => mentions_render_iff hroot hproper hq⟩

/-- A key may hold what looks like its own end and more steps behind it. -/
theorem found_by_steps_bracket_in_key :
    let p : FieldPath := [.field "sidebar".toList, .key "a\"][0]".toList, .index 0]
    let q : FieldPath := [.field "sidebar".toList, .key "a".toList]
    p.Proper ∧ q.Proper ∧ q ≠ [] ∧ p.isUnder q.render = false ∧ p.isUnder p.render = true := by
  refine ⟨by decide, by decide, by decide, Bool.eq_false_iff.mpr fun h => ?_, ?_⟩
  · exact absurd ((found_by_steps (by decide) (by decide) (by decide)).1.mp h) (by decide)
  · exact (found_by_steps (by decide) (by decide) (by decide)).1.mpr (List.prefix_refl _)

end FieldPath

end Signpost
