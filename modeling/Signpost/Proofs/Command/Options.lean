import Signpost.Command.Run
import Signpost.Proofs.Command.AlikeReadings

/-!
# Options for show

The options for colours and for details only decide how messages are shown on the standard error.
A command line from which some of them are left out is read alike: each argument keeps the relation
between what has been read with them and without, so the same task is found with the same config.
`run_leavesOut` says what follows for the runs.
-/

namespace Signpost.Command

/-! ## Command lines without options for show -/

def ColorChoice.word : ColorChoice → Text
  | auto => "auto".toList
  | always => "always".toList
  | never => "never".toList

/-- The arguments of one option for show. -/
inductive ShowOption : List Text → Prop where
  | verbose : ShowOption ["--verbose".toList]
  | verboseLetter : ShowOption ["-v".toList]
  | color (choice : ColorChoice) : ShowOption ["--color".toList, choice.word]
  | colorAttached (choice : ColorChoice) : ShowOption ["--color=".toList ++ choice.word]

/-- The second command line is the first one without some of its options for show. Behind `--` there
are no options. -/
inductive LeavesOut : List Text → List Text → Prop where
  | nil : LeavesOut [] []
  | operands (rest : List Text) : LeavesOut ("--".toList :: rest) ("--".toList :: rest)
  | keep (t : Text) {full bare : List Text} (ht : t ≠ "--".toList) (rest : LeavesOut full bare) :
      LeavesOut (t :: full) (t :: bare)
  | leave {words full bare : List Text} (hwords : ShowOption words) (rest : LeavesOut full bare) :
      LeavesOut (words ++ full) bare
  /-- The letter for details stands between others, and the letters before it take no path. -/
  | leaveLetter {before after : Text} {full bare : List Text}
      (hbefore : ∀ letter ∈ before, letter ∉ ['-', 'C', 'o']) (hothers : before ++ after ≠ [])
      (rest : LeavesOut full bare) :
      LeavesOut (('-' :: (before ++ 'v' :: after)) :: full) (('-' :: (before ++ after)) :: bare)

namespace Reading

variable {side : Side} {s full bare next : Reading} {option : OptionName} {t value : Text}

namespace Alike

/-- An option for show is only given on one side. -/
theorem forShow (value : Text) (h : Alike side full bare) (hs : full.settle side = .ok s)
    (hshow : option.isForShow = true) (hnext : next.awaited? = none) (hcount : next.count = s.count)
    (honly : next.onlyOperands = s.onlyOperands)
    (hgives : next.settled side = s.give option value) : Alike side next bare := by
  obtain ⟨hawaited, hsettled⟩ := settle_eq_ok.mp hs
  obtain ⟨s', hs', hbare⟩ := h.settles hsettled
  obtain ⟨-, hcount', honly'⟩ := settle_keeps hs
  refine ⟨h.awaited.trans (hawaited.trans hnext.symm), ?_, ?_, fun hok => ⟨s', hs', ?_⟩⟩
  · rw [hcount, hcount', h.count]
  · rw [honly, honly', h.onlyOperands]
  · exact hbare.giveForShow hshow (hgives.symm.trans hok)

theorem giveForShow (h : Alike side full bare) (hshow : option.isForShow = true)
    (hs : full.settle side = .ok s) (hgive : s.give option value = .ok next) :
    Alike side next bare := by
  obtain ⟨-, -, hnext⟩ := give_eq_ok.mp hgive
  have hpending : next.pending = .none := by rw [hnext]; exact (settle_keeps hs).1
  refine h.forShow value hs hshow ?_ ?_ ?_ ?_
  · rw [awaited?, hpending]
  · rw [hnext]
  · rw [hnext]
  · rw [settled_of_none hpending, hgive]

end Alike

/-! ## The words of an option for show -/

variable {r : Reading} {letter : Char} {letters before after : Text} {words args : List Text}

theorem readArgument_long (h : r.onlyOperands = false) (ht : t ≠ []) :
    r.readArgument side ('-' :: '-' :: t) = r.readLong side t := by
  obtain ⟨letter, letters, rfl⟩ := List.exists_cons_of_ne_nil ht
  unfold readArgument
  rw [h]
  rfl

theorem readArgument_letters (h : r.onlyOperands = false) (hne : letter ≠ '-') :
    r.readArgument side ('-' :: letter :: letters) = r.readShort side (letter :: letters) := by
  unfold readArgument
  rw [h]
  split
  next => contradiction
  next =>
    split
    next heq => cases heq; exact absurd rfl hne
    next heq => cases heq; exact absurd rfl hne
    next heq => cases heq; rfl
    next hletters => exact (hletters _ _ rfl).elim

theorem readArgument_value (h : r.onlyOperands = false) (hpending : r.pending = .option option none)
    (ht : t.head? ≠ some '-') :
    r.readArgument side t = .ok { r with pending := .option option (some t) } := by
  unfold readArgument
  rw [h]
  split
  next => contradiction
  next =>
    split
    next => exact absurd rfl ht
    next => exact absurd rfl ht
    next => exact absurd rfl ht
    next => simp [hpending]

theorem readLong_verbose : r.readLong side "verbose".toList = r.giveFlag side .verbose := by
  rcases side with _ | ⟨_ | _ | _ | _⟩ <;> rfl

theorem readLong_color : r.readLong side "color".toList = r.await side .color := by
  rcases side with _ | ⟨_ | _ | _ | _⟩ <;> rfl

theorem readArgument_color (h : r.onlyOperands = false) :
    r.readArgument side "--color".toList = r.await side .color :=
  (readArgument_long h (t := "color".toList) (by decide)).trans readLong_color

theorem readLong_color_attached (choice : ColorChoice) :
    r.readLong side ("color=".toList ++ choice.word) =
      r.giveAttached side .color choice.word := by
  rcases side with _ | ⟨_ | _ | _ | _⟩ <;> cases choice <;> rfl

theorem short?_verbose : side.short? 'v' = some .verbose := by
  rcases side with _ | ⟨_ | _ | _ | _⟩ <;> rfl

theorem short?_hyphen : side.short? '-' = none := by
  rcases side with _ | ⟨_ | _ | _ | _⟩ <;> rfl

/-- Only the letters of options with a path, and that for a format, take what is behind them. -/
theorem takesValue_of_short? (h : side.short? letter = some option)
    (hletter : letter ∉ ['-', 'C', 'o']) (htakes : option.takesValue = true) :
    option = .format := by
  have hshort : option.short? = some letter := by
    simpa using List.find?_some h
  cases option with
  | format => rfl
  | config => cases hshort; simp at hletter
  | output => cases hshort; simp at hletter
  | color => cases hshort
  | _ => cases htakes

theorem format_accepts_eq_false (h : 'v' ∈ value) : OptionName.format.accepts value = false := by
  simp only [OptionName.accepts, formatOfName?]
  split
  next hvalue => subst hvalue; simp at h
  next =>
    split
    next hvalue => subst hvalue; simp at h
    next => rfl

theorem not_gives_format (h : 'v' ∈ value) :
    ¬∃ s, r.settle side = .ok s ∧ s.give .format value = .ok next := by
  rintro ⟨s, -, hgive⟩
  have haccepts := (give_eq_ok.mp hgive).2.1
  rw [format_accepts_eq_false h] at haccepts
  cases haccepts

theorem ne_hyphen_of_readShort (h : r.readShort side (letter :: letters) = .ok next) :
    letter ≠ '-' := by
  rintro rfl
  rw [readShort, short?_hyphen] at h
  cases h

namespace Alike

/-- The letter for details is only read on one side. -/
theorem readShort_leave (h : Alike side full bare)
    (hbefore : ∀ letter ∈ before, letter ∉ ['-', 'C', 'o'])
    (hok : full.readShort side (before ++ 'v' :: after) = .ok next) :
    ∃ next', bare.readShort side (before ++ after) = .ok next' ∧ Alike side next next' := by
  induction before generalizing full bare with
  | nil =>
      simp only [List.nil_append, Reading.readShort, short?_verbose] at hok
      obtain ⟨flagged, hflag, hrest⟩ := bind_eq_ok.mp hok
      obtain ⟨-, -, s, hs, hgive⟩ := giveFlag_eq_ok.mp hflag
      exact (h.giveForShow rfl hs hgive).readShort hrest
  | cons letter before ih =>
      rw [List.cons_append, Reading.readShort] at hok ⊢
      obtain ⟨hletter, hrest⟩ := List.forall_mem_cons.mp hbefore
      cases hshort : side.short? letter with
      | none =>
          simp only [hshort] at hok
          cases hok
      | some option =>
          simp only [hshort] at hok ⊢
          by_cases htakes : option.takesValue = true
          · -- the letter for a format would take the letter for details into a format
            obtain rfl := takesValue_of_short? hshort hletter htakes
            rw [if_pos htakes] at hok
            split at hok
            next heq => simp at heq
            next value heq =>
              have hv : 'v' ∈ '=' :: value := by rw [← heq]; simp
              exact absurd (giveAttached_eq_ok.mp hok) (not_gives_format (by simpa using hv))
            next => exact absurd (giveAttached_eq_ok.mp hok) (not_gives_format (by simp))
          · rw [if_neg htakes] at hok ⊢
            obtain ⟨flagged, hflag, hok⟩ := bind_eq_ok.mp hok
            obtain ⟨flagged', hflag', halike⟩ := h.giveFlag hflag
            obtain ⟨next', hok', hnext⟩ := ih halike hrest hok
            exact ⟨next', bind_eq_ok.mpr ⟨flagged', hflag', hok'⟩, hnext⟩

/-- So is the whole argument. -/
theorem readArgument_leave (h : Alike side full bare) (honly : full.onlyOperands = false)
    (hbefore : ∀ letter ∈ before, letter ∉ ['-', 'C', 'o']) (hothers : before ++ after ≠ [])
    (hok : full.readArgument side ('-' :: (before ++ 'v' :: after)) = .ok next) :
    ∃ next', bare.readArgument side ('-' :: (before ++ after)) = .ok next' ∧
      Alike side next next' := by
  have hfirst : ∃ letter letters, before ++ 'v' :: after = letter :: letters ∧ letter ≠ '-' := by
    cases before with
    | nil => exact ⟨'v', after, rfl, by decide⟩
    | cons letter before =>
        refine ⟨letter, _, rfl, ?_⟩
        rintro rfl
        exact hbefore '-' List.mem_cons_self List.mem_cons_self
  obtain ⟨letter, letters, heq, hne⟩ := hfirst
  rw [heq, readArgument_letters honly hne, ← heq] at hok
  obtain ⟨next', hok', hnext⟩ := h.readShort_leave hbefore hok
  obtain ⟨letter, letters, heq⟩ := List.exists_cons_of_ne_nil hothers
  rw [heq] at hok' ⊢
  refine ⟨next', ?_, hnext⟩
  rw [readArgument_letters (h.onlyOperands.trans honly) (ne_hyphen_of_readShort hok'), hok']

/-- All words of an option for show are only read on one side. -/
theorem showOption (h : Alike side full bare) (honly : full.onlyOperands = false)
    (hwords : ShowOption words)
    (hok : words.foldlM (Reading.readArgument side) full = .ok next) : Alike side next bare := by
  cases hwords with
  | verbose =>
      obtain ⟨_, ht, ⟨⟩⟩ := bind_eq_ok.mp hok
      rw [show "--verbose".toList = '-' :: '-' :: "verbose".toList from rfl,
        readArgument_long honly (by decide), readLong_verbose] at ht
      obtain ⟨-, -, s, hs, hgive⟩ := giveFlag_eq_ok.mp ht
      exact h.giveForShow rfl hs hgive
  | verboseLetter =>
      obtain ⟨_, ht, ⟨⟩⟩ := bind_eq_ok.mp hok
      rw [show "-v".toList = ['-', 'v'] from rfl, readArgument_letters honly (by decide),
        Reading.readShort, short?_verbose] at ht
      obtain ⟨_, hflag, ⟨⟩⟩ := bind_eq_ok.mp ht
      obtain ⟨-, -, s, hs, hgive⟩ := giveFlag_eq_ok.mp hflag
      exact h.giveForShow rfl hs hgive
  | color choice =>
      -- between the two words only one side waits for a value
      obtain ⟨waiting, ht, hok⟩ := bind_eq_ok.mp hok
      obtain ⟨_, hvalue, ⟨⟩⟩ := bind_eq_ok.mp hok
      rw [readArgument_color honly] at ht
      obtain ⟨s, hs, rfl⟩ := await_eq_ok.mp ht
      obtain ⟨hpending, -, honly'⟩ := settle_keeps hs
      have hchoice : choice.word.head? ≠ some '-' := by cases choice <;> decide
      cases (readArgument_value (r := { s with pending := .option .color none })
        (honly'.trans honly) rfl hchoice).symm.trans hvalue
      have hshow : OptionName.color.isForShow = true := rfl
      refine h.forShow choice.word hs hshow rfl rfl rfl ?_
      rw [Reading.settled, Reading.settle]
      rw [← hpending]
  | colorAttached choice =>
      obtain ⟨_, ht, ⟨⟩⟩ := bind_eq_ok.mp hok
      rw [show "--color=".toList ++ choice.word = '-' :: '-' :: ("color=".toList ++ choice.word)
          from rfl, readArgument_long honly (by cases choice <;> decide),
        readLong_color_attached] at ht
      obtain ⟨s, hs, hgive⟩ := giveAttached_eq_ok.mp ht
      exact h.giveForShow rfl hs hgive

end Alike

end Reading

/-! ## Whole command lines -/

open Reading

variable {side : Side} {r s full bare : Reading} {words args bareArgs : List Text}

theorem readTaskSide_append (h : readTaskSide side r (words ++ args) = .ok s) :
    ∃ next, words.foldlM (readArgument side) r = .ok next ∧
      readTaskSide side next args = .ok s := by
  induction words generalizing r with
  | nil => exact ⟨r, rfl, h⟩
  | cons t words ih =>
      obtain ⟨first, ht, hrest⟩ := bind_eq_ok.mp h
      obtain ⟨next, hwords, hargs⟩ := ih hrest
      exact ⟨next, bind_eq_ok.mpr ⟨first, ht, hwords⟩, hargs⟩

theorem Reading.Alike.readTaskSide (h : Alike side full bare)
    (hok : readTaskSide side full args = .ok s) :
    ∃ s', Command.readTaskSide side bare args = .ok s' ∧ s.Bare s' := by
  induction args generalizing full bare with
  | nil => exact h.settle hok
  | cons t args ih =>
      obtain ⟨next, ht, hrest⟩ := bind_eq_ok.mp hok
      obtain ⟨_, hnext⟩ := readTaskSide_settled hrest
      obtain ⟨next', ht', halike⟩ := h.readArgument ht hnext
      obtain ⟨s', hs', hbare⟩ := ih halike hrest
      exact ⟨s', bind_eq_ok.mpr ⟨next', ht', hs'⟩, hbare⟩

theorem letters_ne {before after : Text} : '-' :: (before ++ 'v' :: after) ≠ "--".toList := by
  intro h
  have hv : 'v' ∈ "--".toList := by rw [← h]; simp
  exact absurd hv (by decide)

/-- The side of a task is read alike without options for show. -/
theorem LeavesOut.readTaskSide (hargs : LeavesOut args bareArgs)
    (h : Alike side full bare) (honly : full.onlyOperands = false)
    (hok : readTaskSide side full args = .ok s) :
    ∃ s', Command.readTaskSide side bare bareArgs = .ok s' ∧ s.Bare s' := by
  induction hargs generalizing full bare with
  | nil => exact h.settle hok
  | operands rest => exact h.readTaskSide hok
  | keep t ht rest ih =>
      obtain ⟨next, hread, hrest⟩ := bind_eq_ok.mp hok
      obtain ⟨_, hnext⟩ := readTaskSide_settled hrest
      obtain ⟨next', hread', halike⟩ := h.readArgument hread hnext
      have honly' := (readArgument_leadsTo hread ht).onlyOperands.trans honly
      obtain ⟨s', hs', hbare⟩ := ih halike honly' hrest
      exact ⟨s', bind_eq_ok.mpr ⟨next', hread', hs'⟩, hbare⟩
  | leave hwords rest ih =>
      obtain ⟨next, hread, hrest⟩ := readTaskSide_append hok
      have halike := h.showOption honly hwords hread
      exact ih halike (halike.onlyOperands.symm.trans (h.onlyOperands.trans honly)) hrest
  | leaveLetter hbefore hothers rest ih =>
      obtain ⟨next, hread, hrest⟩ := bind_eq_ok.mp hok
      obtain ⟨next', hread', halike⟩ := h.readArgument_leave honly hbefore hothers hread
      have honly' := (readArgument_leadsTo hread letters_ne).onlyOperands.trans honly
      obtain ⟨s', hs', hbare⟩ := ih halike honly' hrest
      exact ⟨s', bind_eq_ok.mpr ⟨next', hread', hs'⟩, hbare⟩

theorem Reading.Alike.mayStartTask (h : Alike side full bare) :
    bare.mayStartTask = full.mayStartTask := by
  rw [mayStartTask_eq, mayStartTask_eq, h.awaited, h.onlyOperands]

theorem ShowOption.readProgramSide {x : TaskName × Reading} (hwords : ShowOption words)
    (honly : r.onlyOperands = false)
    (h : readProgramSide r (words ++ args) = .ok (s, some x)) :
    ∃ next, words.foldlM (readArgument .program) r = .ok next ∧
      readProgramSide next args = .ok (s, some x) := by
  cases hwords with
  | verbose =>
      obtain ⟨next, ht, hrest⟩ := (readProgramSide_hyphen rfl).mp h
      exact ⟨next, bind_eq_ok.mpr ⟨next, ht, rfl⟩, hrest⟩
  | verboseLetter =>
      obtain ⟨next, ht, hrest⟩ := (readProgramSide_hyphen rfl).mp h
      exact ⟨next, bind_eq_ok.mpr ⟨next, ht, rfl⟩, hrest⟩
  | color choice =>
      obtain ⟨waiting, ht, hrest⟩ := (readProgramSide_hyphen rfl).mp h
      obtain ⟨s₀, -, rfl⟩ := await_eq_ok.mp ((readArgument_color honly).symm.trans ht)
      rcases readProgramSide_cons_eq_ok.mp hrest with ⟨hstart, -⟩ | ⟨-, next, hvalue, hrest⟩
      · rw [mayStartTask_eq, awaited?] at hstart
        simp at hstart
      · exact ⟨next, bind_eq_ok.mpr ⟨_, ht, bind_eq_ok.mpr ⟨next, hvalue, rfl⟩⟩, hrest⟩
  | colorAttached choice =>
      obtain ⟨next, ht, hrest⟩ := (readProgramSide_hyphen rfl).mp h
      exact ⟨next, bind_eq_ok.mpr ⟨next, ht, rfl⟩, hrest⟩

/-- The side before a task is read alike without options for show, and so is that task's side. -/
theorem LeavesOut.readProgramSide {name : TaskName} {inner : Reading}
    (hargs : LeavesOut args bareArgs) (h : Alike .program full bare)
    (honly : full.onlyOperands = false)
    (hok : readProgramSide full args = .ok (s, some (name, inner))) :
    ∃ s' inner', Command.readProgramSide bare bareArgs = .ok (s', some (name, inner')) ∧
      s.Bare s' ∧ inner.Bare inner' := by
  induction hargs generalizing full bare with
  | nil => obtain ⟨_, -, ⟨⟩⟩ := bind_eq_ok.mp hok
  | operands rest =>
      obtain ⟨next, hread, hrest⟩ := (readProgramSide_hyphen rfl).mp hok
      unfold readArgument at hread
      rw [honly] at hread
      cases hread
      exact absurd hrest (readProgramSide_onlyOperands rfl)
  | keep t ht rest ih =>
      rcases readProgramSide_cons_eq_ok.mp hok with
        ⟨hstart, hhelp, htask, hinner, hoperands, hsettle⟩ | ⟨hname, next, hread, hrest⟩
      · obtain ⟨inner', hinner', hbareInner⟩ := rest.readTaskSide Bare.start.alike rfl hinner
        obtain ⟨s', hs', hbare⟩ := h.settle hsettle
        rw [← hbareInner.operands] at hoperands
        rw [← h.mayStartTask] at hstart
        exact ⟨s', inner', readProgramSide_cons_eq_ok.mpr
          (.inl ⟨hstart, hhelp, htask, hinner', hoperands, hs'⟩), hbare, hbareInner⟩
      · obtain ⟨_, hnext⟩ := readProgramSide_settled hrest
        obtain ⟨next', hread', halike⟩ := h.readArgument hread hnext
        have honly' := (readArgument_leadsTo hread ht).onlyOperands.trans honly
        obtain ⟨s', inner', hs', hbare⟩ := ih halike honly' hrest
        rw [← h.mayStartTask] at hname
        exact ⟨s', inner', readProgramSide_cons_eq_ok.mpr (.inr ⟨hname, next', hread', hs'⟩), hbare⟩
  | leave hwords rest ih =>
      obtain ⟨next, hread, hrest⟩ := hwords.readProgramSide honly hok
      have halike := h.showOption honly hwords hread
      exact ih halike (halike.onlyOperands.symm.trans (h.onlyOperands.trans honly)) hrest
  | leaveLetter hbefore hothers rest ih =>
      obtain ⟨next, hread, hrest⟩ := (readProgramSide_hyphen rfl).mp hok
      obtain ⟨next', hread', halike⟩ := h.readArgument_leave honly hbefore hothers hread
      have honly' := (readArgument_leadsTo hread letters_ne).onlyOperands.trans honly
      obtain ⟨s', inner', hs', hbare⟩ := ih halike honly' hrest
      exact ⟨s', inner', (readProgramSide_hyphen rfl).mpr ⟨next', hread', hs'⟩, hbare⟩

/-! ## Runs -/

namespace Reading

variable {option : OptionName} {name : TaskName}

theorem lookup_filter_others {given : List (OptionName × Text)} (h : option.isForShow = false) :
    (given.filter (!·.1.isForShow)).lookup option = given.lookup option := by
  induction given with
  | nil => rfl
  | cons note given ih =>
      obtain ⟨other, value⟩ := note
      by_cases heq : option = other
      · subst heq
        simp [h]
      · have hne : (option == other) = false := beq_false_of_ne heq
        cases hshow : other.isForShow with
        | true => simp [hshow, List.lookup_cons, hne, ih]
        | false => simp [hshow, List.lookup_cons, hne, ih]

theorem any_filter_others {given : List (OptionName × Text)} (h : option.isForShow = false) :
    (given.filter (!·.1.isForShow)).any (·.1 = option) = given.any (·.1 = option) := by
  rw [List.any_filter]
  refine List.any_congr rfl fun note => ?_
  by_cases heq : note.1 = option
  · simp [heq, h]
  · simp [heq]

theorem Bare.value? (h : full.Bare bare) (option : OptionName)
    (hothers : option.isForShow = false) : bare.value? option = full.value? option := by
  rw [Reading.value?, Reading.value?, ← lookup_filter_others hothers, h.others,
    lookup_filter_others hothers]

theorem Bare.has_eq (h : full.Bare bare) (option : OptionName)
    (hothers : option.isForShow = false) : bare.has option = full.has option := by
  rw [Reading.has, Reading.has, ← any_filter_others hothers, h.others, any_filter_others hothers]

theorem Bare.ofReading (h : full.Bare bare) :
    Task.ofReading name bare = Task.ofReading name full := by
  cases name with
  | check => rw [Task.ofReading, Task.ofReading, h.has_eq .strict rfl]
  | resolve =>
      rw [Task.ofReading, Task.ofReading, h.value? .format rfl, h.has_eq .pretty rfl,
        h.value? .output rfl]
  | sidebar => rw [Task.ofReading, Task.ofReading, h.has_eq .json rfl, h.operands]
  | init => rw [Task.ofReading, Task.ofReading, h.has_eq .force rfl, h.operands]

end Reading

namespace Invocation

variable {defaultConfig : Text} {i j : Invocation} {disk : Disk}

/-- Without options for show the command line asks for the same task with the same config. -/
theorem parse_of_leavesOut (hargs : LeavesOut args bareArgs)
    (hok : parse defaultConfig args = .ok i) :
    ∃ j, parse defaultConfig bareArgs = .ok j ∧ j.config = i.config ∧ j.task = i.task := by
  obtain ⟨⟨outer, found⟩, hread, hok⟩ := bind_eq_ok.mp hok
  rcases found with _ | ⟨name, inner⟩
  · dsimp only at hok
    split at hok
    · cases hok
    · cases hok
  · cases hok
    obtain ⟨outer', inner', hread', houter, hinner⟩ :=
      hargs.readProgramSide Bare.start.alike rfl hread
    refine ⟨_, bind_eq_ok.mpr ⟨_, hread', rfl⟩, ?_, hinner.ofReading⟩
    dsimp only
    rw [houter.value? .config rfl, hinner.value? .config rfl]

/-- But for what is told, a run depends on the config and the task only. -/
theorem run_congr [Pattern.SizeTest] (hconfig : j.config = i.config) (htask : j.task = i.task) :
    { j.run disk with errors := (i.run disk).errors } = i.run disk := by
  rw [run, run, hconfig, htask]

end Invocation

/-- A command line that is understood is also understood without its options for show. Those that
only differ in such options lead to the same outcome, but for what is told on the standard error:
to the same exit code, the same output and the same disk. -/
theorem run_leavesOut [Pattern.SizeTest] {args bare : List Text} {i : Invocation}
    (hargs : LeavesOut args bare) (hi : Invocation.parse Site.fileName args = .ok i) :
    (∃ j, Invocation.parse Site.fileName bare = .ok j) ∧
      ∀ other j, LeavesOut other bare → Invocation.parse Site.fileName other = .ok j →
        ∀ disk, { run other disk with errors := (run args disk).errors } = run args disk := by
  obtain ⟨k, hk, hconfig, htask⟩ := Invocation.parse_of_leavesOut hargs hi
  refine ⟨⟨k, hk⟩, fun other j hother hj disk => ?_⟩
  obtain ⟨k', hk', hconfig', htask'⟩ := Invocation.parse_of_leavesOut hother hj
  obtain rfl := Except.ok.inj (hk.symm.trans hk')
  rw [run, run, hi, hj]
  exact Invocation.run_congr (hconfig'.symm.trans hconfig) (htask'.symm.trans htask)

theorem run_leavesOut_check :
    let disk : Disk := ⟨⟨[]⟩, []⟩
    let args := ["--color".toList, "always".toList, "check".toList, "-sv".toList]
    let other := ["check".toList, "-s".toList, "--color=never".toList]
    (∃ j, Invocation.parse Site.fileName ["check".toList, "-s".toList] = .ok j) ∧
      { run other disk with errors := (run args disk).errors } = run args disk := by
  intro disk args other
  have hargs : LeavesOut args ["check".toList, "-s".toList] :=
    .leave (.color .always) (.keep _ (by decide)
      (@LeavesOut.leaveLetter ['s'] [] _ _ (List.forall_mem_singleton.mpr (by decide))
        (by decide) .nil))
  have hother : LeavesOut other ["check".toList, "-s".toList] :=
    .keep _ (by decide) (.keep _ (by decide) (.leave (.colorAttached .never) .nil))
  obtain ⟨hbare, hrun⟩ := run_leavesOut (i := ⟨.always, Site.fileName, true, .check true⟩) hargs rfl
  exact ⟨hbare, hrun other ⟨.never, Site.fileName, false, .check true⟩ hother rfl disk⟩

end Signpost.Command
