import Signpost.Command.Arguments
import Signpost.Proofs.Files.Following

/-!
# Reading arguments

When one argument can be read, and what is left of it. What is begun is only checked when something
else begins, so each step is described by what the reading settles to. Reading on never needs less
than the reading before could settle to.
-/

namespace Signpost.Command

namespace Reading

variable {side : Side} {r s next : Reading} {option : OptionName} {t value : Text}

/-! ## What has been begun -/


/-- The option that waits for its value. -/
def awaited? (r : Reading) : Option OptionName :=
  match r.pending with
  | .option name none => some name
  | _ => none

/-- What has been read up to an option that waits for its value. -/
def settled (side : Side) (r : Reading) : Except UsageError Reading :=
  match r.pending with
  | .option _ none => .ok { r with pending := .none }
  | _ => r.settle side

theorem settle_eq_ok : r.settle side = .ok s ↔ r.awaited? = none ∧ r.settled side = .ok s := by
  rw [settle, awaited?, settled, settle]
  rcases hpending : r.pending with _ | ⟨name, _ | value⟩ | texts
  · simp
  · simp
  · simp
  · simp

theorem settled_of_none (h : r.pending = .none) : r.settled side = .ok r := by
  rw [settled, h]
  simp only [settle, h, Except.ok.injEq]
  rw [← h]

theorem awaited?_eq_some : r.awaited? = some option ↔ r.pending = .option option none := by
  rw [awaited?]
  split
  next h => simp [h]
  next h => simpa using h option

theorem settled_of_awaited (h : r.pending = .option option none) :
    r.settled side = .ok { r with pending := .none } := by
  rw [settled, h]

/-- Giving an option adds it to those given before, of which it was none. -/
theorem give_eq_ok : r.give option value = .ok s ↔ r.has option = false ∧
    option.accepts value = true ∧ s = { r with given := r.given ++ [(option, value)] } := by
  rw [give]
  split
  next h => simp [h]
  next h =>
    split
    next haccepts => simp [h, haccepts, eq_comm]
    next haccepts => simp [haccepts]

/-- Whether only operands follow is of no matter for what is settled. -/
theorem settled_onlyOperands {b : Bool} : { r with onlyOperands := b }.settled side = .ok s ↔
    ∃ s₀, r.settled side = .ok s₀ ∧ s = { s₀ with onlyOperands := b } := by
  rcases hpending : r.pending with _ | ⟨name, _ | value⟩ | texts
  · simp [settled, settle, hpending, eq_comm]
  · simp [settled, hpending, eq_comm]
  · simp only [settled, settle, hpending, give_eq_ok]
    exact ⟨fun ⟨hhas, haccepts, hs⟩ => ⟨_, ⟨hhas, haccepts, rfl⟩, hs⟩,
      fun ⟨_, ⟨hhas, haccepts, hs₀⟩, hs⟩ => ⟨hhas, haccepts, by rw [hs, hs₀]⟩⟩
  · simp only [settled, settle, hpending]
    split
    next => simp [eq_comm]
    next => simp

theorem settle_keeps (h : r.settle side = .ok s) :
    s.pending = .none ∧ s.count = r.count ∧ s.onlyOperands = r.onlyOperands := by
  rw [settle] at h
  split at h
  · cases h
    exact ⟨rfl, rfl, rfl⟩
  · cases h
  · obtain ⟨-, -, rfl⟩ := give_eq_ok.mp h
    exact ⟨rfl, rfl, rfl⟩
  · split at h
    · cases h
      exact ⟨rfl, rfl, rfl⟩
    · cases h

/-! ## Steps of a reading -/

theorem giveFlag_eq_ok : r.giveFlag side option = .ok next ↔
    option ≠ .help ∧ option ≠ .version ∧
      ∃ s, r.settle side = .ok s ∧ s.give option [] = .ok next := by
  rw [giveFlag, bind_eq_ok]
  cases option <;> simp

theorem giveAttached_eq_ok : r.giveAttached side option value = .ok next ↔
    ∃ s, r.settle side = .ok s ∧ s.give option value = .ok next := by
  rw [giveAttached, bind_eq_ok]

theorem await_eq_ok : r.await side option = .ok next ↔
    ∃ s, r.settle side = .ok s ∧ next = { s with pending := .option option none } := by
  rw [await, bind_eq_ok]
  refine exists_congr fun s => and_congr_right fun _ => ?_
  exact ⟨fun h => (Except.ok.inj h).symm, fun h => congrArg _ h.symm⟩

/-- An operand is taken behind what was settled, at once or later. -/
theorem readOperand_eq_ok : r.readOperand side t = .ok next ↔ side.takesOperand r.count = true ∧
    ((∃ texts, r.pending = .operands texts ∧
        next = { r with count := r.count + 1, pending := .operands (texts ++ [t]) }) ∨
      (∀ texts, r.pending ≠ .operands texts) ∧ ∃ s, r.settle side = .ok s ∧
        next = { s with count := s.count + 1, pending := .operands [t] }) := by
  rw [readOperand]
  split
  next htakes =>
    rw [and_iff_right htakes]
    split
    next texts hpending =>
      simp only [Except.ok.injEq, hpending, Pending.operands.injEq, exists_eq_left', ne_eq,
        forall_eq', false_and, or_false, eq_comm]
    next hpending =>
      rw [bind_eq_ok]
      constructor
      · rintro ⟨s, hs, h⟩
        exact .inr ⟨hpending, s, hs, (Except.ok.inj h).symm⟩
      · rintro (⟨texts, htexts, -⟩ | ⟨-, s, hs, rfl⟩)
        · exact absurd htexts (hpending texts)
        · exact ⟨s, hs, rfl⟩
  next htakes => simp [htakes]

/-- The settled reading with one more operand. -/
def withOperand (r : Reading) (t : Text) : Reading :=
  { r with count := r.count + 1, operands := r.operands ++ [t] }

theorem settled_of_operands {texts : List Text} (h : r.pending = .operands texts) :
    r.settled side = if texts.all side.acceptsOperand then
      .ok { r with pending := .none, operands := r.operands ++ texts }
    else .error .valueInvalid := by
  rw [settled, h]
  simp only [settle, h]

theorem settle_of_operands {texts : List Text} (h : r.pending = .operands texts) :
    r.settle side = if texts.all side.acceptsOperand then
      .ok { r with pending := .none, operands := r.operands ++ texts }
    else .error .valueInvalid := by
  rw [settle, h]

theorem readOperand_settled (hok : r.readOperand side t = .ok next)
    (hnext : next.settled side = .ok s) : ∃ s₀, r.settle side = .ok s₀ ∧
      side.acceptsOperand t = true ∧ s = s₀.withOperand t := by
  obtain ⟨-, ⟨texts, hpending, rfl⟩ | ⟨-, s₀, hs₀, rfl⟩⟩ := readOperand_eq_ok.mp hok
  · rw [settled_of_operands rfl, List.all_append] at hnext
    split at hnext
    next hall =>
      rw [Bool.and_eq_true, List.all_cons, List.all_nil, Bool.and_true] at hall
      cases hnext
      refine ⟨_, (settle_of_operands hpending).trans (if_pos hall.1), hall.2, ?_⟩
      simp [withOperand]
    next => cases hnext
  · rw [settled_of_operands rfl, List.all_cons, List.all_nil, Bool.and_true] at hnext
    split at hnext
    next haccepts =>
      cases hnext
      refine ⟨s₀, hs₀, haccepts, ?_⟩
      simp [withOperand, (settle_keeps hs₀).1]
    next => cases hnext

theorem readOperand_of_settle (hs : r.settle side = .ok s)
    (htakes : side.takesOperand r.count = true) (haccepts : side.acceptsOperand t = true) :
    ∃ next, r.readOperand side t = .ok next ∧
      next.awaited? = none ∧ next.count = r.count + 1 ∧ next.onlyOperands = r.onlyOperands ∧
      next.settled side = .ok (s.withOperand t) := by
  obtain ⟨hpending, hcount, honly⟩ := settle_keeps hs
  by_cases h : ∃ texts, r.pending = .operands texts
  · obtain ⟨texts, htexts⟩ := h
    rw [settle_of_operands htexts] at hs
    split at hs
    next hall =>
      cases hs
      refine ⟨_, readOperand_eq_ok.mpr ⟨htakes, .inl ⟨texts, htexts, rfl⟩⟩, rfl, rfl, rfl, ?_⟩
      rw [settled_of_operands rfl, List.all_append, hall]
      simp [haccepts, withOperand]
    next => cases hs
  · rw [not_exists] at h
    refine ⟨_, readOperand_eq_ok.mpr ⟨htakes, .inr ⟨h, s, hs, rfl⟩⟩, rfl, ?_, honly, ?_⟩
    · rw [← hcount]
    · rw [settled_of_operands rfl]
      simp [haccepts, withOperand, hpending]

/-! ## What reading on needs -/

/-- Reading went on to the second state: what it settles to was settled in the first one, and
options may still follow if they could before. -/
structure LeadsTo (side : Side) (r next : Reading) : Prop where
  onlyOperands : next.onlyOperands = r.onlyOperands
  settles : ∀ {s}, next.settled side = .ok s → ∃ s₀, r.settled side = .ok s₀

theorem LeadsTo.trans (first : LeadsTo side r s) (second : LeadsTo side s next) :
    LeadsTo side r next where
  onlyOperands := second.onlyOperands.trans first.onlyOperands
  settles h := by
    obtain ⟨_, h'⟩ := second.settles h
    exact first.settles h'

theorem leadsTo_of_settle (h : r.settle side = .ok s) (honly : next.onlyOperands = s.onlyOperands) :
    LeadsTo side r next where
  onlyOperands := honly.trans (settle_keeps h).2.2
  settles _ := ⟨s, (settle_eq_ok.mp h).2⟩

theorem giveFlag_leadsTo (h : r.giveFlag side option = .ok next) : LeadsTo side r next := by
  obtain ⟨-, -, s, hs, hgive⟩ := giveFlag_eq_ok.mp h
  obtain ⟨-, -, rfl⟩ := give_eq_ok.mp hgive
  exact leadsTo_of_settle hs rfl

theorem giveAttached_leadsTo (h : r.giveAttached side option value = .ok next) :
    LeadsTo side r next := by
  obtain ⟨s, hs, hgive⟩ := giveAttached_eq_ok.mp h
  obtain ⟨-, -, rfl⟩ := give_eq_ok.mp hgive
  exact leadsTo_of_settle hs rfl

theorem await_leadsTo (h : r.await side option = .ok next) : LeadsTo side r next := by
  obtain ⟨s, hs, rfl⟩ := await_eq_ok.mp h
  exact leadsTo_of_settle hs rfl

theorem readLong_leadsTo (h : r.readLong side t = .ok next) : LeadsTo side r next := by
  rw [readLong] at h
  split at h
  · cases h
  · split at h
    · exact await_leadsTo h
    · exact giveFlag_leadsTo h
  · split at h
    · exact giveAttached_leadsTo h
    · cases h

theorem readShort_leadsTo (h : r.readShort side t = .ok next) : LeadsTo side r next := by
  induction t generalizing r with
  | nil =>
      cases h
      exact ⟨rfl, fun h => ⟨_, h⟩⟩
  | cons letter rest ih =>
      rw [readShort] at h
      split at h
      · cases h
      · split at h
        · split at h
          · exact await_leadsTo h
          · exact giveAttached_leadsTo h
          · exact giveAttached_leadsTo h
        · obtain ⟨flagged, hflag, hrest⟩ := bind_eq_ok.mp h
          exact (giveFlag_leadsTo hflag).trans (ih hrest)

theorem readOperand_leadsTo (h : r.readOperand side t = .ok next) : LeadsTo side r next where
  onlyOperands := by
    obtain ⟨-, ⟨texts, -, rfl⟩ | ⟨-, s, hs, rfl⟩⟩ := readOperand_eq_ok.mp h
    · rfl
    · exact (settle_keeps hs).2.2
  settles hnext := by
    obtain ⟨s₀, hs₀, -⟩ := readOperand_settled h hnext
    exact ⟨s₀, (settle_eq_ok.mp hs₀).2⟩

/-- Any argument but `--` leads on. -/
theorem readArgument_leadsTo (h : r.readArgument side t = .ok next) (ht : t ≠ "--".toList) :
    LeadsTo side r next := by
  unfold readArgument at h
  split at h
  · exact readOperand_leadsTo h
  · split at h
    · exact absurd rfl ht
    · exact readLong_leadsTo h
    · exact readShort_leadsTo h
    · split at h
      next name hpending =>
        cases h
        exact ⟨rfl, fun _ => ⟨{ r with pending := .none }, by rw [settled, hpending]⟩⟩
      next => exact readOperand_leadsTo h

theorem readArgument_settled (hok : r.readArgument side t = .ok next)
    (hnext : next.settled side = .ok s) : ∃ s₀, r.settled side = .ok s₀ := by
  by_cases ht : t = "--".toList
  · subst ht
    unfold readArgument at hok
    split at hok
    next => exact (readOperand_leadsTo hok).settles hnext
    next =>
      cases hok
      obtain ⟨s₀, hs₀, -⟩ := settled_onlyOperands.mp hnext
      exact ⟨s₀, hs₀⟩
  · exact (readArgument_leadsTo hok ht).settles hnext

theorem mayStartTask_eq : r.mayStartTask = (!r.onlyOperands && r.awaited?.isNone) := by
  rw [mayStartTask, awaited?]
  rcases r.pending with _ | ⟨name, _ | value⟩ | texts
  · rfl
  · rfl
  · rfl
  · rfl

end Reading

/-! ## Reading a whole side -/

open Reading

variable {side : Side} {r s : Reading} {args : List Text}

theorem readTaskSide_settled (h : readTaskSide side r args = .ok s) :
    ∃ s₀, r.settled side = .ok s₀ := by
  induction args generalizing r with
  | nil => exact ⟨s, (settle_eq_ok.mp h).2⟩
  | cons t args ih =>
      obtain ⟨next, ht, hrest⟩ := bind_eq_ok.mp h
      obtain ⟨s₀, hs₀⟩ := ih hrest
      exact readArgument_settled ht hs₀

/-- The task is found at this argument, or this argument is read like any other and the task is
found behind it. What is pending before the task is only settled when the task's side is read. -/
theorem readProgramSide_cons_eq_ok {t : Text} {name : TaskName} {inner : Reading} :
    readProgramSide r (t :: args) = .ok (s, some (name, inner)) ↔
      (r.mayStartTask = true ∧ t ≠ "help".toList ∧ TaskName.ofText? t = some name ∧
        readTaskSide (.task name) .start args = .ok inner ∧
        ¬(name = .sidebar ∧ inner.operands.isEmpty = true) ∧ r.settle .program = .ok s) ∨
      ((r.mayStartTask = true → t ≠ "help".toList ∧ TaskName.ofText? t = none) ∧
        ∃ next, r.readArgument .program t = .ok next ∧
          readProgramSide next args = .ok (s, some (name, inner))) := by
  rw [readProgramSide]
  cases hstart : r.mayStartTask with
  | false => simp [bind_eq_ok]
  | true =>
      by_cases hhelp : t = "help".toList
      · rw [Bool.true_and, if_pos (decide_eq_true hhelp)]
        exact ⟨nofun, fun h => absurd hhelp (h.elim (·.2.1) fun h => (h.1 rfl).1)⟩
      · rw [Bool.true_and, if_neg (by simpa using hhelp), if_pos rfl]
        cases htask : TaskName.ofText? t with
        | none =>
            simp only [bind_eq_ok]
            exact ⟨fun h => .inr ⟨fun _ => ⟨hhelp, trivial⟩, h⟩,
              fun h => h.elim (nomatch ·.2.2.1) (·.2)⟩
        | some found =>
            simp only [bind_eq_ok]
            constructor
            · rintro ⟨_, hinner, h⟩
              split at h
              next => cases h
              next hoperands =>
                obtain ⟨_, hsettle, h⟩ := bind_eq_ok.mp h
                cases h
                exact .inl ⟨trivial, hhelp, rfl, hinner, by simpa using hoperands, hsettle⟩
            · rintro (⟨-, -, ⟨⟩, hinner, hoperands, hsettle⟩ | ⟨h, -⟩)
              · refine ⟨inner, hinner, ?_⟩
                rw [if_neg (by simpa using hoperands), hsettle]
                rfl
              · cases (h trivial).2

/-- An argument that begins with a hyphen names no task. -/
theorem readProgramSide_hyphen {t : Text} {x : TaskName × Reading} (ht : t.head? = some '-') :
    readProgramSide r (t :: args) = .ok (s, some x) ↔
      ∃ next, r.readArgument .program t = .ok next ∧
        readProgramSide next args = .ok (s, some x) := by
  obtain ⟨letters, rfl⟩ := List.head?_eq_some_iff.mp ht
  have htask : TaskName.ofText? ('-' :: letters) = none := by simp [TaskName.ofText?]
  rw [readProgramSide_cons_eq_ok, htask]
  simp

/-- Behind `--` no task is found. -/
theorem readProgramSide_onlyOperands {x : TaskName × Reading} (h : r.onlyOperands = true) :
    readProgramSide r args ≠ .ok (s, some x) := by
  intro hok
  cases args with
  | nil =>
      obtain ⟨_, -, h⟩ := bind_eq_ok.mp hok
      cases h
  | cons t args =>
      rcases readProgramSide_cons_eq_ok.mp hok with ⟨hstart, -⟩ | ⟨-, next, ht, -⟩
      · rw [mayStartTask_eq, h] at hstart
        cases hstart
      · unfold readArgument at ht
        rw [if_pos h] at ht
        cases (readOperand_eq_ok.mp ht).1

theorem readProgramSide_settled {x : TaskName × Reading}
    (h : readProgramSide r args = .ok (s, some x)) : ∃ s₀, r.settled .program = .ok s₀ := by
  induction args generalizing r with
  | nil =>
      obtain ⟨s₀, hs₀, -⟩ := bind_eq_ok.mp h
      exact ⟨s₀, (settle_eq_ok.mp hs₀).2⟩
  | cons t args ih =>
      rcases readProgramSide_cons_eq_ok.mp h with ⟨-, -, -, -, -, hs⟩ | ⟨-, next, ht, hrest⟩
      · exact ⟨s, (settle_eq_ok.mp hs).2⟩
      · obtain ⟨s₀, hs₀⟩ := ih hrest
        exact readArgument_settled ht hs₀

end Signpost.Command
