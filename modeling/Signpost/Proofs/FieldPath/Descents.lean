import Signpost.Proofs.FieldPath.Prefixes

/-!
# The way to a value

From the root of a config text a value in it is reached by descending through the values around it.
The path of a value shows by which members and elements it is reached. Keys are shown in one of two
spellings, as they are plain or not, and still the text of the path shows every one of these steps.
-/

namespace Signpost

/-- One step down to a value. -/
inductive Descent where
  /-- Into the member of a table with a key. -/
  | member (key : Text)
  /-- Into the element of a list at a position. -/
  | element (i : Nat)
  /-- Into an optional value that is there. -/
  | present
  /-- Into a value that is all there is to the value around it. -/
  | wrapped
deriving DecidableEq, Repr

namespace Descent

/-- The step that a path shows, unless the value stands where the value around it stands. -/
def step? : Descent → Option Step
  | .member key => some (FieldPath.keyStep key)
  | .element i => some (.index i)
  | .present | .wrapped => none

def IsShown (d : Descent) : Prop := d.step?.isSome = true

instance : DecidablePred IsShown := fun d => inferInstanceAs (Decidable (d.step?.isSome = true))

/-- The descent that a shown step stands for. -/
def ofStep : Step → Descent
  | .field name => .member name
  | .index i => .element i
  | .key k => .member k

theorem ofStep_of_step? {d : Descent} {s : Step} (h : d.step? = some s) : ofStep s = d := by
  cases d with
  | member key =>
      obtain rfl := Option.some.inj h
      rw [FieldPath.keyStep]
      split
      · rfl
      · rfl
  | element i =>
      obtain rfl := Option.some.inj h
      rfl
  | present => cases h
  | wrapped => cases h

end Descent

namespace FieldPath

variable {way way' : List Descent} {p q : FieldPath}

/-- The path of the value that a way leads to. -/
def along (way : List Descent) : FieldPath := way.filterMap Descent.step?

theorem along_cons_some {d : Descent} {s : Step} (hd : d.step? = some s) :
    along (d :: way) = s :: along way := List.filterMap_cons_some hd

theorem along_cons_none {d : Descent} (hd : d.step? = none) : along (d :: way) = along way :=
  List.filterMap_cons_none hd

/-- What a path shows of a way. -/
theorem map_ofStep_along (way : List Descent) :
    (along way).map Descent.ofStep = way.filter Descent.IsShown := by
  induction way with
  | nil => rfl
  | cons d way ih =>
      cases hd : d.step? with
      | none =>
          have hhidden : ¬d.IsShown := by simp [Descent.IsShown, hd]
          rw [along_cons_none hd, List.filter_cons_of_neg (by simpa using hhidden), ih]
      | some s =>
          have hshown : d.IsShown := by simp [Descent.IsShown, hd]
          rw [along_cons_some hd, List.filter_cons_of_pos (by simpa using hshown), List.map_cons,
            Descent.ofStep_of_step? hd, ih]

/-- A path shows nothing else of a way. -/
theorem along_filter (way : List Descent) : along (way.filter Descent.IsShown) = along way := by
  rw [along, List.filterMap_filter]
  refine List.filterMap_congr fun d _ => ?_
  cases hd : d.step? with
  | none => simp [Descent.IsShown, hd]
  | some s => simp [Descent.IsShown, hd]

theorem along_eq_iff :
    along way = along way' ↔ way.filter Descent.IsShown = way'.filter Descent.IsShown := by
  constructor
  · intro h
    rw [← map_ofStep_along, h, map_ofStep_along]
  · intro h
    rw [← along_filter way, h, along_filter]

/-! ## The texts of paths -/

/-- A plain key holds no character that a step starts with. -/
theorem isProper_keyStep (k : Text) : (keyStep k).IsProper := by
  rw [keyStep]
  split
  next hplain =>
    obtain ⟨hne, hall⟩ := Bool.and_eq_true_iff.mp hplain
    refine ⟨by simpa using hne, fun c hc => ?_⟩
    have hplain := List.all_eq_true.mp hall c hc
    rw [Bool.eq_false_iff]
    intro hstarts
    rcases Bool.or_eq_true_iff.mp hstarts with heq | heq
    · rw [beq_iff_eq.mp heq] at hplain
      exact absurd hplain (by decide)
    · rw [beq_iff_eq.mp heq] at hplain
      exact absurd hplain (by decide)
  next => trivial

theorem proper_along (way : List Descent) : (along way).Proper := by
  intro s hs
  obtain ⟨d, -, hd⟩ := List.mem_filterMap.mp hs
  cases d with
  | member key => exact Option.some.inj hd ▸ isProper_keyStep key
  | element i =>
      obtain rfl := Option.some.inj hd
      trivial
  | present => cases hd
  | wrapped => cases hd

/-- The text of a path shows the members and elements on the way, and nothing else of it. -/
theorem render_along_eq_iff : (along way).render = (along way').render ↔
    way.filter Descent.IsShown = way'.filter Descent.IsShown := by
  rw [← along_eq_iff]
  exact ⟨render_inj (proper_along way) (proper_along way'), congrArg render⟩

/-! ## Paths below a path -/

/-- The value at the second path is reached from the value at the first. -/
def IsBelow (p q : FieldPath) : Prop := ∃ way, q = p ++ along way

theorem IsBelow.refl (p : FieldPath) : p.IsBelow p := ⟨[], (List.append_nil p).symm⟩

theorem IsBelow.of_push {d : Descent} {s : Step} (hd : d.step? = some s)
    (h : (p.push s).IsBelow q) : p.IsBelow q := by
  obtain ⟨way, rfl⟩ := h
  exact ⟨d :: way, by rw [along_cons_some hd, push, List.append_assoc, List.singleton_append]⟩

theorem IsBelow.of_member {k : Text} (h : (p.push (keyStep k)).IsBelow q) : p.IsBelow q :=
  h.of_push (d := .member k) rfl

theorem IsBelow.of_element {i : Nat} (h : (p.push (.index i)).IsBelow q) : p.IsBelow q :=
  h.of_push (d := .element i) rfl

end FieldPath

end Signpost
