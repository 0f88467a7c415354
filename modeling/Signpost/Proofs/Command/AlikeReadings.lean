import Signpost.Proofs.Command.Reading

/-!
# Readings with and without options for show

The options for colours and for details only decide how messages are shown. Two readings of which
one lacks some of these options stay alike under every step of reading: what can be given to the
fuller one can be given to the other, and whatever else was given is the same.
-/

namespace Signpost.Command

/-- Whether an option only decides how messages are shown. -/
def OptionName.isForShow : OptionName → Bool
  | color => true
  | verbose => true
  | _ => false

namespace Reading

variable {side : Side} {s full bare next : Reading} {option : OptionName} {t value : Text}

/-- The second reading lacks some options for show that the first one was given, and nothing else.
Nothing is pending in either. -/
structure Bare (full bare : Reading) : Prop where
  settled : full.pending = .none
  bareSettled : bare.pending = .none
  count : bare.count = full.count
  onlyOperands : bare.onlyOperands = full.onlyOperands
  operands : bare.operands = full.operands
  given : bare.given.Sublist full.given
  others : bare.given.filter (!·.1.isForShow) = full.given.filter (!·.1.isForShow)

/-- Two readings that wait for the same value, and of which the second is bare once they are
settled. -/
structure Alike (side : Side) (full bare : Reading) : Prop where
  awaited : bare.awaited? = full.awaited?
  count : bare.count = full.count
  onlyOperands : bare.onlyOperands = full.onlyOperands
  settles : ∀ {s}, full.settled side = .ok s → ∃ s', bare.settled side = .ok s' ∧ s.Bare s'

theorem Bare.start : start.Bare start := ⟨rfl, rfl, rfl, rfl, rfl, .refl _, rfl⟩

theorem Bare.alike (h : full.Bare bare) : Alike side full bare where
  awaited := by rw [awaited?, awaited?, h.settled, h.bareSettled]
  count := h.count
  onlyOperands := h.onlyOperands
  settles hs := by
    rw [settled_of_none h.settled] at hs
    cases hs
    exact ⟨bare, settled_of_none h.bareSettled, h⟩

theorem Bare.has (h : full.Bare bare) (hhas : full.has option = false) :
    bare.has option = false := by
  rw [Reading.has, List.any_eq_false] at hhas ⊢
  intro note hnote
  exact hhas note (h.given.subset hnote)

/-- An option that is given on both sides. -/
theorem Bare.give (h : full.Bare bare) (hok : full.give option value = .ok next) :
    ∃ next', bare.give option value = .ok next' ∧ next.Bare next' := by
  obtain ⟨hhas, haccepts, rfl⟩ := give_eq_ok.mp hok
  refine ⟨_, give_eq_ok.mpr ⟨h.has hhas, haccepts, rfl⟩, ?_⟩
  refine { h with given := h.given.append (.refl _), others := ?_ }
  rw [List.filter_append, List.filter_append, h.others]

/-- An option for show that is only given on one side. -/
theorem Bare.giveForShow (h : full.Bare bare) (hshow : option.isForShow = true)
    (hok : full.give option value = .ok next) : next.Bare bare := by
  obtain ⟨-, -, rfl⟩ := give_eq_ok.mp hok
  refine { h with given := h.given.trans (List.sublist_append_left _ _), others := ?_ }
  rw [List.filter_append, h.others]
  simp [hshow]

/-! ## One argument, read on both sides -/

namespace Alike

theorem settle (h : Alike side full bare) (hok : full.settle side = .ok s) :
    ∃ s', bare.settle side = .ok s' ∧ s.Bare s' := by
  obtain ⟨hawaited, hsettled⟩ := settle_eq_ok.mp hok
  obtain ⟨s', hbare, hs'⟩ := h.settles hsettled
  exact ⟨s', settle_eq_ok.mpr ⟨h.awaited.trans hawaited, hbare⟩, hs'⟩

theorem giveFlag (h : Alike side full bare) (hok : full.giveFlag side option = .ok next) :
    ∃ next', bare.giveFlag side option = .ok next' ∧ Alike side next next' := by
  obtain ⟨hhelp, hversion, s, hs, hgive⟩ := giveFlag_eq_ok.mp hok
  obtain ⟨s', hs', hbare⟩ := h.settle hs
  obtain ⟨next', hgive', hnext⟩ := hbare.give hgive
  exact ⟨next', giveFlag_eq_ok.mpr ⟨hhelp, hversion, s', hs', hgive'⟩, hnext.alike⟩

theorem giveAttached (h : Alike side full bare)
    (hok : full.giveAttached side option value = .ok next) :
    ∃ next', bare.giveAttached side option value = .ok next' ∧ Alike side next next' := by
  obtain ⟨s, hs, hgive⟩ := giveAttached_eq_ok.mp hok
  obtain ⟨s', hs', hbare⟩ := h.settle hs
  obtain ⟨next', hgive', hnext⟩ := hbare.give hgive
  exact ⟨next', giveAttached_eq_ok.mpr ⟨s', hs', hgive'⟩, hnext.alike⟩

theorem await (h : Alike side full bare) (hok : full.await side option = .ok next) :
    ∃ next', bare.await side option = .ok next' ∧ Alike side next next' := by
  obtain ⟨s, hs, rfl⟩ := await_eq_ok.mp hok
  obtain ⟨s', hs', hbare⟩ := h.settle hs
  refine ⟨_, await_eq_ok.mpr ⟨s', hs', rfl⟩, rfl, hbare.count, hbare.onlyOperands, ?_⟩
  rintro _ ⟨⟩
  exact ⟨_, rfl, { hbare with settled := rfl, bareSettled := rfl }⟩

theorem readLong (h : Alike side full bare) (hok : full.readLong side t = .ok next) :
    ∃ next', bare.readLong side t = .ok next' ∧ Alike side next next' := by
  rw [Reading.readLong] at hok ⊢
  split at hok
  · cases hok
  · split at hok
    next htakes =>
      rw [if_pos htakes]
      exact h.await hok
    next htakes =>
      rw [if_neg htakes]
      exact h.giveFlag hok
  · split at hok
    next htakes =>
      rw [if_pos htakes]
      exact h.giveAttached hok
    next => cases hok

theorem readShort (h : Alike side full bare) (hok : full.readShort side t = .ok next) :
    ∃ next', bare.readShort side t = .ok next' ∧ Alike side next next' := by
  induction t generalizing full bare with
  | nil =>
      cases hok
      exact ⟨bare, rfl, h⟩
  | cons letter rest ih =>
      rw [Reading.readShort] at hok ⊢
      cases hletter : side.short? letter with
      | none =>
          simp only [hletter] at hok
          cases hok
      | some option =>
          simp only [hletter] at hok ⊢
          by_cases htakes : option.takesValue = true
          · rw [if_pos htakes] at hok ⊢
            split at hok
            · exact h.await hok
            · exact h.giveAttached hok
            · exact h.giveAttached hok
          · rw [if_neg htakes, bind_eq_ok] at hok
            obtain ⟨flagged, hflag, hrest⟩ := hok
            obtain ⟨flagged', hflag', halike⟩ := h.giveFlag hflag
            obtain ⟨next', hrest', hnext⟩ := ih halike hrest
            refine ⟨next', ?_, hnext⟩
            rw [if_neg htakes, bind_eq_ok]
            exact ⟨flagged', hflag', hrest'⟩

theorem readOperand (h : Alike side full bare) (hok : full.readOperand side t = .ok next)
    (hnext : next.settled side = .ok s) :
    ∃ next', bare.readOperand side t = .ok next' ∧ Alike side next next' := by
  obtain ⟨s₀, hs₀, haccepts, rfl⟩ := readOperand_settled hok hnext
  obtain ⟨s', hs', hbare⟩ := h.settle hs₀
  have htakes := (readOperand_eq_ok.mp hok).1
  obtain ⟨full', hfull, hawaited, hcount, honly, hsettled⟩ :=
    readOperand_of_settle hs₀ htakes haccepts
  obtain rfl := Except.ok.inj (hok.symm.trans hfull)
  obtain ⟨next', hok', hawaited', hcount', honly', hsettled'⟩ :=
    readOperand_of_settle hs' (h.count ▸ htakes) haccepts
  refine ⟨next', hok', hawaited'.trans hawaited.symm, ?_, ?_, ?_⟩
  · rw [hcount, hcount', h.count]
  · rw [honly, honly', h.onlyOperands]
  · intro s hs
    obtain rfl := Except.ok.inj (hs.symm.trans hsettled)
    refine ⟨_, hsettled', { hbare with count := ?_, operands := ?_ }⟩
    · exact congrArg (· + 1) hbare.count
    · exact congrArg (· ++ [t]) hbare.operands

/-- Behind `--` both take operands only. -/
theorem onlyOperandsFollow (h : Alike side full bare) :
    Alike side { full with onlyOperands := true } { bare with onlyOperands := true } where
  awaited := h.awaited
  count := h.count
  onlyOperands := rfl
  settles hs := by
    obtain ⟨s₀, hs₀, rfl⟩ := settled_onlyOperands.mp hs
    obtain ⟨s', hs', hbare⟩ := h.settles hs₀
    exact ⟨_, settled_onlyOperands.mpr ⟨s', hs', rfl⟩, { hbare with onlyOperands := rfl }⟩

/-- Both take the value that they waited for. -/
theorem valueFollows (h : Alike side full bare) (hpending : full.pending = .option option none) :
    Alike side { full with pending := .option option (some t) }
      { bare with pending := .option option (some t) } where
  awaited := rfl
  count := h.count
  onlyOperands := h.onlyOperands
  settles {s} hs := by
    have hbare := awaited?_eq_some.mp (h.awaited.trans (awaited?_eq_some.mpr hpending))
    obtain ⟨s', hs', halike⟩ := h.settles (settled_of_awaited hpending)
    obtain rfl := Except.ok.inj ((settled_of_awaited hbare).symm.trans hs')
    exact halike.give hs

/-- Both read one more argument alike. -/
theorem readArgument (h : Alike side full bare) (hok : full.readArgument side t = .ok next)
    (hnext : next.settled side = .ok s) :
    ∃ next', bare.readArgument side t = .ok next' ∧ Alike side next next' := by
  unfold Reading.readArgument at hok ⊢
  split at hok
  next honly =>
    rw [if_pos (h.onlyOperands.trans honly)]
    exact h.readOperand hok hnext
  next honly =>
    rw [if_neg (h.onlyOperands ▸ honly)]
    split at hok
    · cases hok
      exact ⟨_, rfl, h.onlyOperandsFollow⟩
    · exact h.readLong hok
    · exact h.readShort hok
    · split at hok
      next name hpending =>
        cases hok
        have hbare := awaited?_eq_some.mp (h.awaited.trans (awaited?_eq_some.mpr hpending))
        simp only [hbare]
        exact ⟨_, rfl, h.valueFollows hpending⟩
      next hpending =>
        obtain ⟨next', hok', hnext'⟩ := h.readOperand hok hnext
        refine ⟨next', ?_, hnext'⟩
        split
        next name hbare =>
          have hfull := h.awaited.symm.trans (awaited?_eq_some.mpr hbare)
          exact absurd (awaited?_eq_some.mp hfull) (hpending name)
        next => exact hok'

end Alike

end Reading

end Signpost.Command
