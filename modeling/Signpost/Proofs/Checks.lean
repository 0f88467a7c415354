import Mathlib.Data.List.Forall2
import Signpost.Site.Problem

/-!
# When a check accepts

A check accepts with a value when it gives the value and meets no problem, that is, when it equals
`pure` of the value. Each law below says of one way to build a check when the result accepts.
Acceptance never depends on the field that a problem would be reported at, so a list of checks
accepts exactly when its elements do, whatever their positions.

A check that does not accept reports something. The laws at the end say where: which fields a check
reports at or below, and that a part which keeps to its own field is not heard of at another.
-/

namespace Signpost.Checked

variable {α β : Type}

theorem eq_pure_iff {c : Checked α} {a : α} : c = pure a ↔ c.value = a ∧ c.problems = [] := by
  cases c
  exact Checked.mk.injEq _ _ _ _ ▸ Iff.rfl

theorem pure_inj {a b : α} : (pure a : Checked α) = pure b ↔ a = b := by
  rw [eq_pure_iff]
  exact and_iff_left rfl

theorem pure_bind {a : α} {f : α → Checked β} : (pure a : Checked α) >>= f = f a := rfl

theorem bind_assoc {γ : Type} {c : Checked α} {f : α → Checked β} {g : β → Checked γ} :
    c >>= f >>= g = c >>= fun a => f a >>= g :=
  congrArg (Checked.mk _) (List.append_assoc _ _ _)

theorem bind_eq_pure {c : Checked α} {f : α → Checked β} {b : β} :
    c >>= f = pure b ↔ ∃ a, c = pure a ∧ f a = pure b := by
  constructor
  · intro h
    obtain ⟨hv, hp⟩ := eq_pure_iff.mp h
    obtain ⟨hc, hf⟩ := List.append_eq_nil_iff.mp hp
    exact ⟨c.value, eq_pure_iff.mpr ⟨rfl, hc⟩, eq_pure_iff.mpr ⟨hv, hf⟩⟩
  · rintro ⟨a, rfl, h⟩
    obtain ⟨hv, hp⟩ := eq_pure_iff.mp h
    exact eq_pure_iff.mpr ⟨hv, hp⟩

/-- A check that reports something accepts nothing, whatever comes behind it. -/
theorem report_bind_ne_pure {field : FieldPath} {problem : Problem} {f : Unit → Checked β} {b : β} :
    Checked.report field problem >>= f ≠ pure b := by
  intro h
  exact absurd (eq_pure_iff.mp h).2 (List.cons_ne_nil _ _)

theorem report_ne_pure {field : FieldPath} {problem : Problem} {u : Unit} :
    Checked.report field problem ≠ pure u := by
  intro h
  exact absurd (eq_pure_iff.mp h).2 (List.cons_ne_nil _ _)

theorem reportIf_eq_pure {broken : Bool} {field : FieldPath} {problem : Problem} {u : Unit} :
    Checked.reportIf broken field problem = pure u ↔ broken = false := by
  cases broken with
  | true => exact iff_of_false report_ne_pure Bool.noConfusion
  | false => exact iff_of_true rfl rfl

theorem reportIf_bind_eq_pure {broken : Bool} {field : FieldPath} {problem : Problem}
    {f : Unit → Checked β} {b : β} :
    Checked.reportIf broken field problem >>= f = pure b ↔ broken = false ∧ f () = pure b := by
  rw [bind_eq_pure]
  constructor
  · rintro ⟨⟨⟩, h, hf⟩
    exact ⟨reportIf_eq_pure.mp h, hf⟩
  · rintro ⟨h, hf⟩
    exact ⟨(), reportIf_eq_pure.mpr h, hf⟩

theorem result_eq_ok {c : Checked α} {a : α} : c.result = .ok a ↔ c = pure a := by
  rw [eq_pure_iff, Checked.result]
  cases hp : c.problems with
  | nil => simp
  | cons d rest => simp

theorem result_eq_error {c : Checked α} {diagnostics : List Diagnostic} :
    c.result = .error diagnostics ↔ c.problems = diagnostics ∧ diagnostics ≠ [] := by
  rw [Checked.result]
  cases hp : c.problems with
  | nil => exact iff_of_false (fun h => nomatch h) fun h => h.2 h.1.symm
  | cons d rest =>
      rw [List.isEmpty_cons, if_neg Bool.false_ne_true, Except.error.injEq]
      refine ⟨?_, And.left⟩
      rintro rfl
      exact ⟨rfl, List.cons_ne_nil _ _⟩

/-- A list of checks accepts when each of them accepts; `R` says what each of them accepts. -/
theorem eachFrom_eq_pure {check : Nat → α → Checked β} {R : α → β → Prop}
    (h : ∀ i a b, check i a = pure b ↔ R a b) {i : Nat} {as : List α} {bs : List β} :
    eachFrom check i as = pure bs ↔ List.Forall₂ R as bs := by
  induction as generalizing i bs with
  | nil =>
      rw [eachFrom, pure_inj, List.forall₂_nil_left_iff]
      exact eq_comm
  | cons a rest ih =>
      simp only [eachFrom, bind_eq_pure, h, ih, pure_inj, List.forall₂_cons_left_iff]
      constructor
      · rintro ⟨b, hb, bs, hbs, rfl⟩
        exact ⟨b, bs, hb, hbs, rfl⟩
      · rintro ⟨b, bs, hb, hbs, rfl⟩
        exact ⟨b, hb, bs, hbs, rfl⟩

theorem each_eq_pure {check : Nat → α → Checked β} {R : α → β → Prop}
    (h : ∀ i a b, check i a = pure b ↔ R a b) {as : List α} {bs : List β} :
    each check as = pure bs ↔ List.Forall₂ R as bs := eachFrom_eq_pure h

theorem optional_eq_pure {check : α → Checked β} {R : α → β → Prop}
    (h : ∀ a b, check a = pure b ↔ R a b) {a : Option α} {b : Option β} :
    optional check a = pure b ↔ Option.Rel R a b := by
  cases a with
  | none =>
      rw [optional, pure_inj]
      constructor
      · rintro rfl
        exact .none
      · rintro ⟨⟩
        rfl
  | some a =>
      simp only [optional, bind_eq_pure, h, pure_inj]
      constructor
      · rintro ⟨b, hb, rfl⟩
        exact .some hb
      · rintro (⟨hb⟩ | _)
        exact ⟨_, hb, rfl⟩

/-! ## Where a check reports -/

variable {c : Checked α} {f : α → Checked β} {d : Diagnostic} {field path : FieldPath}

theorem mem_problems_bind : d ∈ (c >>= f).problems ↔ d ∈ c.problems ∨ d ∈ (f c.value).problems :=
  List.mem_append

/-- What only arranges a value has no problems of its own. -/
theorem problems_bind_pure {g : α → β} : (c >>= fun a => pure (g a)).problems = c.problems :=
  List.append_nil _

theorem result_bind_pure {g : α → β} : (c >>= fun a => pure (g a)).result = c.result.map g := by
  cases h : c.result with
  | ok a =>
      obtain rfl := result_eq_ok.mp h
      rfl
  | error diagnostics =>
      rw [result_eq_error] at h
      exact result_eq_error.mpr ⟨problems_bind_pure.trans h.1, h.2⟩

theorem mem_problems_eachFrom {check : Nat → α → Checked β} {i : Nat} {as : List α} :
    d ∈ (eachFrom check i as).problems ↔
      ∃ j a, as[j]? = some a ∧ d ∈ (check (i + j) a).problems := by
  induction as generalizing i with
  | nil => exact iff_of_false List.not_mem_nil fun ⟨_, _, h, _⟩ => nomatch h
  | cons a as ih =>
      rw [eachFrom, mem_problems_bind, mem_problems_bind, ih]
      constructor
      · rintro (h | ⟨j, b, hb, h⟩ | h)
        · exact ⟨0, a, rfl, h⟩
        · exact ⟨j + 1, b, hb, by rwa [← Nat.add_assoc, Nat.add_right_comm]⟩
        · exact nomatch h
      · rintro ⟨j, b, hb, h⟩
        cases j with
        | zero =>
            obtain rfl := Option.some.inj hb
            exact .inl h
        | succ j => exact .inr (.inl ⟨j, b, hb, by rwa [Nat.add_right_comm, Nat.add_assoc]⟩)

theorem mem_problems_each {check : Nat → α → Checked β} {as : List α} :
    d ∈ (each check as).problems ↔ ∃ i a, as[i]? = some a ∧ d ∈ (check i a).problems := by
  simp only [each, mem_problems_eachFrom, Nat.zero_add]

/-- Something is reported at a field or below it. -/
def Reports (path : FieldPath) (c : Checked α) : Prop := ∃ d ∈ c.problems, path <+: d.field

theorem not_reports_pure {a : α} : ¬Reports path (pure a) := fun ⟨_, h, _⟩ => nomatch h

theorem reports_report {problem : Problem} : Reports path (report field problem) ↔ path <+: field := by
  simp [Reports, report]

theorem reports_bind : Reports path (c >>= f) ↔ Reports path c ∨ Reports path (f c.value) := by
  simp only [Reports, mem_problems_bind, or_and_right, exists_or]

theorem reports_each {check : Nat → α → Checked β} {as : List α} :
    Reports path (each check as) ↔ ∃ i a, as[i]? = some a ∧ Reports path (check i a) := by
  simp only [Reports, mem_problems_each]
  constructor
  · rintro ⟨d, ⟨i, a, ha, hd⟩, hpath⟩
    exact ⟨i, a, ha, d, hd, hpath⟩
  · rintro ⟨i, a, ha, d, hd, hpath⟩
    exact ⟨d, ⟨i, a, ha, hd⟩, hpath⟩

/-- All that is reported is reported at a field or below it. -/
def Within (field : FieldPath) (c : Checked α) : Prop := ∀ d ∈ c.problems, field <+: d.field

theorem within_pure {a : α} : Within field (pure a) := fun _ h => nomatch h

theorem within_report {place : FieldPath} {problem : Problem} (h : field <+: place) :
    Within field (report place problem) := List.forall_mem_singleton.mpr h

theorem within_reportIf {broken : Bool} {place : FieldPath} {problem : Problem}
    (h : field <+: place) : Within field (reportIf broken place problem) := by
  cases broken with
  | true => exact within_report h
  | false => exact within_pure

theorem Within.bind (hc : Within field c) (hf : ∀ a, Within field (f a)) :
    Within field (c >>= f) :=
  fun d hd => (mem_problems_bind.mp hd).elim (hc d) (hf _ d)

/-- A problem is told and a stand-in returned. -/
theorem within_refuse {problem : Problem} {a : α} :
    Within field (do report field problem; return a) :=
  (within_report List.prefix_rfl).bind fun _ => within_pure

theorem within_refuseIf {broken : Bool} {problem : Problem} {a : α} :
    Within field (do reportIf broken field problem; return a) :=
  (within_reportIf List.prefix_rfl).bind fun _ => within_pure

theorem Within.mono {outer : FieldPath} (h : Within field c) (houter : outer <+: field) :
    Within outer c := fun d hd => houter.trans (h d hd)

theorem Within.step {s : Step} (h : Within (field.push s) c) : Within field c :=
  h.mono (List.prefix_append _ _)

theorem within_each {check : Nat → α → Checked β} {as : List α}
    (h : ∀ i a, Within (field.push (.index i)) (check i a)) : Within field (each check as) := by
  intro d hd
  obtain ⟨i, a, -, hd⟩ := mem_problems_each.mp hd
  exact (h i a).step d hd

theorem within_optional {check : α → Checked β} {a : Option α} (h : ∀ a, Within field (check a)) :
    Within field (optional check a) := by
  cases a with
  | none => exact within_pure
  | some a => exact (h a).bind fun _ => within_pure

/-- A check that keeps to a field reports there exactly when it accepts nothing. -/
theorem Within.reports_iff (h : Within field c) : Reports field c ↔ ¬∃ a, c = pure a := by
  constructor
  · rintro ⟨d, hd, -⟩ ⟨a, rfl⟩
    exact nomatch hd
  · intro hnone
    obtain ⟨d, hd⟩ := List.exists_mem_of_ne_nil c.problems fun hnil =>
      hnone ⟨c.value, eq_pure_iff.mpr ⟨rfl, hnil⟩⟩
    exact ⟨d, hd, h d hd⟩

/-- A check that keeps to one step below a field is not heard of below another. -/
theorem Within.not_reports {s t : Step} (h : Within (field.push t) c) (hne : s ≠ t)
    (hpath : field.push s <+: path) : ¬Reports path c := by
  rintro ⟨d, hd, hd'⟩
  have hs := hpath.trans hd'
  have ht := h d hd
  have heq : field.push s = field.push t :=
    (List.prefix_of_prefix_length_le hs ht (by simp [FieldPath.push])).eq_of_length
      (by simp [FieldPath.push])
  exact hne (by simpa [FieldPath.push] using heq)

/-- At one position of a list only the element there is heard of. -/
theorem reports_each_at {check : Nat → α → Checked β} {as : List α} {i : Nat}
    (h : ∀ i a, Within (field.push (.index i)) (check i a))
    (hpath : field.push (.index i) <+: path) :
    Reports path (each check as) ↔ ∃ a, as[i]? = some a ∧ Reports path (check i a) := by
  rw [reports_each]
  constructor
  · rintro ⟨j, a, ha, hr⟩
    by_cases hij : i = j
    · subst hij
      exact ⟨a, ha, hr⟩
    · exact absurd hr ((h j a).not_reports (by simpa using hij) hpath)
  · rintro ⟨a, ha, hr⟩
    exact ⟨i, a, ha, hr⟩

/-- What is reported at a field is told when the check does not accept. -/
theorem reports_iff_result {path : FieldPath} :
    Reports path c ↔ ∃ diagnostics, c.result = .error diagnostics ∧
      ∃ d ∈ diagnostics, path <+: d.field := by
  rw [Checked.result]
  cases hp : c.problems with
  | nil => simp [Reports, hp]
  | cons d rest => simp [Reports, hp]

end Signpost.Checked
