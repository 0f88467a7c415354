import Signpost.Proofs.Command.Init

/-!
# Tasks that read the config

Checking, resolving and looking pages up begin alike: the config file is looked for and loaded.
Nothing is written on the way, and nothing is printed before it has gone well. So the three tasks
fail together, and a failed one leaves the disk and the standard output as they were. Only a named
output file is written, by one step at the end. `Invocation.run_agrees` draws the conclusions.
-/

namespace Signpost

namespace Command

variable {sizeTest : Pattern.SizeTest}

/-! ## Steps that only tell -/

/-- The work adds messages and changes nothing else; what it gives depends on the disk alone. -/
def Work.Gives {α : Type} (work : Work α) (result : Disk → Except Failure α) : Prop :=
  ∀ p, ∃ messages, work.run.run p = (result p.disk, { p with messages })

namespace Work

variable {α β : Type} {work : Work α} {result result' : Disk → Except Failure α}

theorem gives_pure {a : α} : Gives (pure a) fun _ => .ok a := fun p => ⟨p.messages, rfl⟩

theorem gives_tell {message : Message} : Gives (tell message) fun _ => .ok () :=
  fun p => ⟨p.messages ++ [message], rfl⟩

theorem gives_require {ε : Type} {failure : ε → Failure} {outcome : Except ε α} :
    Gives (require failure outcome) fun _ => outcome.mapError failure :=
  fun p => ⟨p.messages, run_require⟩

theorem Gives.bind {next : α → Work β} {further : α → Disk → Except Failure β}
    (h : work.Gives result) (hnext : ∀ a, (next a).Gives (further a)) :
    (work >>= next).Gives fun disk => result disk >>= fun a => further a disk := by
  intro p
  obtain ⟨told, hwork⟩ := h p
  simp only [run_bind, hwork]
  cases result p.disk with
  | error failure => exact ⟨told, rfl⟩
  | ok a => exact hnext a { p with messages := told }

theorem Gives.congr (h : work.Gives result) (heq : ∀ disk, result disk = result' disk) :
    work.Gives result' := by
  rwa [← funext heq]

end Work

/-! ## Loading the config -/

/-- The path of the config file with a name, or the failure of not finding any. -/
def configPath (name : Text) (disk : Disk) : Except Failure Text :=
  match disk.findUpward disk.workingPath name with
  | some path => .ok path
  | none => .error (.configNotFound name disk.workingPath)

/-- The site in the config file with a name, or why there is none. -/
def configOf [Pattern.SizeTest] (name : Text) (disk : Disk) : Except Failure LoadedSite := do
  let path ← configPath name disk
  (Site.loadFile disk path).mapError (.notLoaded path)

variable {name : Text} {disk : Disk}

theorem locateConfig_gives (name : Text) : (locateConfig name).Gives (configPath name) := by
  intro p
  refine ⟨p.messages, ?_⟩
  rw [locateConfig, Work.run_bind, Work.run_disk]
  simp only [configPath]
  cases p.disk.findUpward p.disk.workingPath name with
  | none => rfl
  | some path => rfl

theorem tellLanguage_gives (draft : Draft) : (tellLanguage draft).Gives fun _ => .ok () := by
  rw [tellLanguage]
  split
  · exact Work.gives_pure
  · exact Work.gives_tell

theorem tryLoad_gives [Pattern.SizeTest] (path : Text) :
    (tryLoad path).Gives fun disk => .ok (Site.loadFile disk path) := by
  intro p
  rw [tryLoad, Work.run_bind, Work.run_disk]
  simp only [Site.loadFile]
  cases Draft.readFile p.disk path with
  | error error => exact ⟨p.messages, rfl⟩
  | ok found =>
      obtain ⟨draft, ignored⟩ := found
      obtain ⟨told, hlanguage⟩ := tellLanguage_gives draft p
      simp only [Work.run_bind, hlanguage]
      cases hsite : LoadedSite.ofDraft path draft ignored with
      | error error => exact ⟨told, by simp only [bind, Except.bind, hsite]; rfl⟩
      | ok loaded => exact ⟨_, by simp only [bind, Except.bind, hsite]; rfl⟩

theorem warnIgnored_gives (ignored : List FieldPath) :
    (warnIgnored ignored).Gives fun _ => .ok () := by
  induction ignored with
  | nil => exact Work.gives_pure
  | cons field ignored ih => exact Work.gives_tell.bind fun _ => ih

theorem loadConfig_gives [Pattern.SizeTest] (name : Text) :
    (loadConfig name).Gives (configOf name) := by
  have hwarn (loaded : LoadedSite) : Work.Gives (do warnIgnored loaded.ignored; return loaded) _ :=
    (warnIgnored_gives loaded.ignored).bind fun _ => Work.gives_pure
  refine ((locateConfig_gives name).bind fun path => (tryLoad_gives path).bind fun outcome =>
    Work.gives_require.bind hwarn).congr fun disk => ?_
  rw [configOf]
  cases configPath name disk with
  | error failure => rfl
  | ok path =>
      simp only [bind, Except.bind]
      cases Site.loadFile disk path with
      | error error => rfl
      | ok loaded => rfl

theorem configPath_eq_ok {path : Text} : configPath name disk = .ok path ↔
    disk.findUpward disk.workingPath name = some path := by
  rw [configPath]
  split
  next h => simp [h]
  next h => simp [h]

theorem configOf_eq_ok {loaded : LoadedSite} : configOf name disk = .ok loaded ↔
    ∃ path, configPath name disk = .ok path ∧ Site.loadFile disk path = .ok loaded := by
  simp only [configOf, bind_eq_ok, mapError_eq_ok]

/-! ## The course of each task -/

section Course

variable (name : Text) (disk : Disk) (strict pretty json : Bool) (format : Format)
  (pages : List Text) (file : Text)

/-- A check passes when the config is loaded and, if it is strict, has no unknown keys. -/
theorem runCheck_perform : ∃ failure? messages,
    (runCheck name strict).perform disk = (failure?, ⟨disk, messages, []⟩) ∧
      (failure? = none ↔ ∃ loaded, configOf name disk = .ok loaded ∧
        (strict = true → loaded.ignored = [])) := by
  obtain ⟨told, hpath⟩ := locateConfig_gives name ⟨disk, [], []⟩
  simp only [Work.perform, runCheck, Work.run_bind, hpath, configOf_eq_ok]
  cases configPath name disk with
  | error failure =>
      refine ⟨some failure, told, rfl, iff_of_false (Option.some_ne_none _) ?_⟩
      rintro ⟨_, ⟨_, ⟨⟩, _⟩, _⟩
  | ok path =>
      obtain ⟨told, hload⟩ := tryLoad_gives path ⟨disk, told, []⟩
      simp only [hload, Except.ok.injEq, exists_eq_left']
      have hrefused (error : FileError) : ¬∃ loaded,
          (.error error : Except FileError LoadedSite) = .ok loaded ∧
            (strict = true → loaded.ignored = []) := by
        rintro ⟨_, ⟨⟩, _⟩
      -- every fault of loading is one of the check, however it is told
      rcases Site.loadFile disk path with (_ | _ | diagnostics) | loaded
      · exact ⟨_, told, rfl, iff_of_false (Option.some_ne_none _) (hrefused _)⟩
      · exact ⟨_, told, rfl, iff_of_false (Option.some_ne_none _) (hrefused _)⟩
      · exact ⟨_, told ++ [.problems diagnostics], rfl,
          iff_of_false (Option.some_ne_none _) (hrefused _)⟩
      · obtain ⟨warned, hwarn⟩ := warnIgnored_gives loaded.ignored ⟨disk, told, []⟩
        simp only [Work.run_bind, hwarn]
        cases hunknown : strict && !loaded.ignored.isEmpty with
        | false =>
            refine ⟨none, _, rfl, iff_of_true rfl ⟨loaded, rfl, fun hstrict => ?_⟩⟩
            rw [hstrict, Bool.true_and, Bool.not_eq_false', List.isEmpty_iff] at hunknown
            exact hunknown
        | true =>
            refine ⟨_, warned, rfl, iff_of_false (Option.some_ne_none _) ?_⟩
            rintro ⟨_, ⟨⟩, hnone⟩
            obtain ⟨hstrict, hsome⟩ := Bool.and_eq_true_iff.mp hunknown
            rw [hnone hstrict] at hsome
            cases hsome

theorem perform_of_loaded (next : LoadedSite → Work Unit) : ∃ messages,
    (loadConfig name >>= next).perform disk =
      match configOf name disk with
      | .error failure => (some failure, ⟨disk, messages, []⟩)
      | .ok loaded =>
        match (next loaded).run.run ⟨disk, messages, []⟩ with
        | (.ok (), progress) => (none, progress)
        | (.error failure, progress) => (some failure, progress) := by
  obtain ⟨messages, hload⟩ := loadConfig_gives name ⟨disk, [], []⟩
  refine ⟨messages, ?_⟩
  rw [Work.perform, Work.run_bind, hload]
  cases configOf name disk with
  | error failure => rfl
  | ok loaded => rfl

theorem runResolve_perform : ∃ messages,
    (runResolve name format pretty none).perform disk =
      match configOf name disk with
      | .error failure => (some failure, ⟨disk, messages, []⟩)
      | .ok loaded => (none, ⟨disk, messages, loaded.site.render format pretty ++ ['\n']⟩) :=
  perform_of_loaded name disk _

theorem runSidebar_perform : ∃ messages output,
    (runSidebar name pages json).perform disk =
      match configOf name disk with
      | .error failure => (some failure, ⟨disk, messages, []⟩)
      | .ok _ => (none, ⟨disk, messages, output⟩) := by
  obtain ⟨messages, hrun⟩ := perform_of_loaded name disk fun loaded => do
      let found := pages.map loaded.site.lookUp
      if json then
        Work.print (Json.pretty 0 (.list (found.map PageMatch.toValue)) ++ ['\n'])
      else
        Work.print (found.flatMap fun m => m.line ++ ['\n'])
  rw [runSidebar, hrun]
  cases configOf name disk with
  | error failure => exact ⟨messages, [], rfl⟩
  | ok loaded =>
      cases json with
      | true => exact ⟨messages, _, rfl⟩
      | false => exact ⟨messages, _, rfl⟩

/-- With an output file, the text that would be printed is written there instead. -/
theorem runResolve_file_perform : ∃ messages,
    (runResolve name format pretty (some file)).perform disk =
      match configOf name disk with
      | .error failure => (some failure, ⟨disk, messages, []⟩)
      | .ok loaded =>
        match disk.write file (Utf8.encode (loaded.site.render format pretty ++ ['\n'])) with
        | .error fault => (some (.outputNotMade file fault), ⟨disk, messages, []⟩)
        | .ok written => (none, ⟨written, messages ++
            [.notice "resolve".toList ("wrote output to ".toList ++ file)], []⟩) := by
  obtain ⟨messages, hrun⟩ := perform_of_loaded name disk fun loaded => do
      let disk ← Work.require (.outputNotMade file)
        ((← Work.disk).write file
          (Utf8.encode (loaded.site.render format pretty ++ ['\n'])))
      Work.leave disk
      Work.tell (.notice "resolve".toList ("wrote output to ".toList ++ file))
  refine ⟨messages, ?_⟩
  rw [runResolve]
  refine hrun.trans ?_
  cases configOf name disk with
  | error failure => rfl
  | ok loaded =>
      simp only [Work.run_bind, Work.run_disk, Work.run_require]
      cases disk.write file (Utf8.encode (loaded.site.render format pretty ++ ['\n'])) with
      | error fault => rfl
      | ok written => rfl

end Course

/-! ## What the program leaves -/

variable {strict pretty json : Bool} {format : Format} {pages : List Text} {file : Text}

/-- The second disk is the first one with these bytes in the file that the path leads to, and all
else as it was. -/
structure Writes (before after : Disk) (path : Text) (bytes : List Nat) : Prop where
  workplace : after.workplace = before.workplace
  node : ∀ place, after.tree.node? place =
    if place = before.placeOf path then some (.file bytes) else before.tree.node? place

theorem writes_of_write {written : Disk} {bytes : List Nat}
    (h : disk.write file bytes = .ok written) : Writes disk written file bytes where
  workplace := Disk.write_workplace h
  node _ := Disk.node?_write h

namespace Task

/-- The task leaves the disk alone, succeeds exactly when a config is found and loaded, and prints
nothing if it fails. -/
def OnlyReads [Pattern.SizeTest] (task : Task) : Prop :=
  ∀ name disk, ∃ failure? messages output,
    (runTask name task).perform disk = (failure?, ⟨disk, messages, output⟩) ∧
      (failure? = none ↔ ∃ loaded, configOf name disk = .ok loaded) ∧
      (failure? ≠ none → output = [])

theorem check_onlyReads : (check false).OnlyReads := by
  intro name disk
  obtain ⟨failure?, messages, hrun, hfailure⟩ := runCheck_perform name disk false
  refine ⟨failure?, messages, [], hrun, hfailure.trans ?_, fun _ => rfl⟩
  exact exists_congr fun loaded => and_iff_left nofun

theorem resolve_onlyReads (format : Format) (pretty : Bool) :
    (resolve format pretty none).OnlyReads := by
  intro name disk
  obtain ⟨messages, hrun⟩ := runResolve_perform name disk pretty format
  rw [runTask, hrun]
  cases configOf name disk with
  | error failure => exact ⟨some failure, messages, [], rfl, ⟨nofun, nofun⟩, fun _ => rfl⟩
  | ok loaded => exact ⟨none, messages, _, rfl, ⟨fun _ => ⟨loaded, rfl⟩, fun _ => rfl⟩, nofun⟩

theorem sidebar_onlyReads (pages : List Text) (json : Bool) : (sidebar pages json).OnlyReads := by
  intro name disk
  obtain ⟨messages, output, hrun⟩ := runSidebar_perform name disk json pages
  rw [runTask, hrun]
  cases configOf name disk with
  | error failure => exact ⟨some failure, messages, [], rfl, ⟨nofun, nofun⟩, fun _ => rfl⟩
  | ok loaded =>
      exact ⟨none, messages, output, rfl, ⟨fun _ => ⟨loaded, rfl⟩, fun _ => rfl⟩, nofun⟩

/-- A task that fails has printed nothing. -/
theorem output_of_failed {task : Task} {failure : Failure} {p : Progress}
    (h : (runTask name task).perform disk = (some failure, p)) : p.output = [] := by
  cases task with
  | check strict =>
      obtain ⟨failure?, messages, hrun, -⟩ := runCheck_perform name disk strict
      exact congrArg (·.2.output) (h.symm.trans hrun)
  | resolve format pretty output =>
      cases output with
      | none =>
          obtain ⟨failure?, messages, output, hrun, -, houtput⟩ :=
            resolve_onlyReads format pretty name disk
          obtain ⟨rfl, rfl⟩ := Prod.mk.inj (hrun.symm.trans h)
          exact houtput nofun
      | some file =>
          obtain ⟨messages, hrun⟩ := runResolve_file_perform name disk pretty format file
          rw [runTask, hrun] at h
          split at h
          · exact congrArg (·.2.output) h.symm
          · split at h
            · exact congrArg (·.2.output) h.symm
            · cases h
  | sidebar pages json =>
      obtain ⟨failure?, messages, output, hrun, -, houtput⟩ :=
        sidebar_onlyReads pages json name disk
      obtain ⟨rfl, rfl⟩ := Prod.mk.inj (hrun.symm.trans h)
      exact houtput nofun
  | init directory force =>
      rw [runTask, runInit_perform] at h
      split at h
      · exact congrArg (·.2.output) h.symm
      split at h
      · exact congrArg (·.2.output) h.symm
      split at h
      · exact congrArg (·.2.output) h.symm
      split at h
      · exact congrArg (·.2.output) h.symm
      · cases h

end Task

namespace Invocation

/-- The outcome of another task under the same options. -/
def outcome [Pattern.SizeTest] (invocation : Invocation) (disk : Disk) (task : Task) : Outcome :=
  { invocation with task }.run disk

variable {invocation : Invocation} {task : Task}

theorem outcome_of_perform (task : Task) {failure? : Option Failure} {p : Progress}
    (h : (runTask invocation.config task).perform disk = (failure?, p)) :
    ((invocation.outcome disk task).code = 0 ↔ failure? = none) ∧
      (invocation.outcome disk task).output = p.output ∧
      (invocation.outcome disk task).disk = p.disk := by
  rw [outcome, run, h]
  cases failure? with
  | none => exact ⟨⟨fun _ => rfl, fun _ => rfl⟩, rfl, rfl⟩
  | some failure => exact ⟨⟨nofun, nofun⟩, rfl, rfl⟩

theorem output_of_code (h : (invocation.outcome disk task).code ≠ 0) :
    (invocation.outcome disk task).output = [] := by
  rcases hrun : (runTask invocation.config task).perform disk with ⟨failure?, p⟩
  obtain ⟨hcode, houtput, -⟩ := outcome_of_perform task hrun
  cases failure? with
  | none => exact absurd (hcode.mpr rfl) h
  | some failure => exact houtput.trans (Task.output_of_failed hrun)

theorem outcome_of_onlyReads (h : task.OnlyReads) :
    ((invocation.outcome disk task).code = 0 ↔
      ∃ loaded, configOf invocation.config disk = .ok loaded) ∧
    (invocation.outcome disk task).disk = disk := by
  obtain ⟨failure?, messages, output, hrun, hfailure, -⟩ := h invocation.config disk
  obtain ⟨hcode, -, hdisk⟩ := outcome_of_perform task hrun
  exact ⟨hcode.trans hfailure, hdisk⟩

/-- With an output file, the task fails and leaves the disk alone, or writes there what it would
print. -/
theorem outcome_of_file :
    let printed := invocation.outcome disk (.resolve format pretty none)
    let saved := invocation.outcome disk (.resolve format pretty (some file))
    (saved.code ≠ 0 ∧ saved.disk = disk) ∨
      (saved.code = 0 ∧ printed.code = 0 ∧
        Writes disk saved.disk file (Utf8.encode printed.output)) := by
  intro printed saved
  obtain ⟨_, hprinted⟩ := runResolve_perform invocation.config disk pretty format
  obtain ⟨messages, hsaved⟩ :=
    runResolve_file_perform invocation.config disk pretty format file
  cases hconfig : configOf invocation.config disk with
  | error failure =>
      simp only [hconfig] at hsaved
      obtain ⟨hcode, -, hdisk⟩ := outcome_of_perform (.resolve format pretty (some file)) hsaved
      exact .inl ⟨fun h => absurd (hcode.mp h) nofun, hdisk⟩
  | ok loaded =>
      simp only [hconfig] at hprinted hsaved
      obtain ⟨hcode, houtput, -⟩ := outcome_of_perform (.resolve format pretty none) hprinted
      cases hwrite :
          disk.write file (Utf8.encode (loaded.site.render format pretty ++ ['\n'])) with
      | error fault =>
          simp only [hwrite] at hsaved
          obtain ⟨hcode, -, hdisk⟩ :=
            outcome_of_perform (.resolve format pretty (some file)) hsaved
          exact .inl ⟨fun h => absurd (hcode.mp h) nofun, hdisk⟩
      | ok written =>
          simp only [hwrite] at hsaved
          obtain ⟨hcode', -, hdisk⟩ :=
            outcome_of_perform (.resolve format pretty (some file)) hsaved
          refine .inr ⟨hcode'.mpr rfl, hcode.mpr rfl, ?_⟩
          rw [show saved.disk = written from hdisk, show printed.output = _ from houtput]
          exact writes_of_write hwrite

/-- Checking, resolving and looking pages up succeed together, namely when a config file is found
and loaded. None of them changes the disk, and no task that fails has printed anything. Resolving
into a file fails and leaves the disk as it was, or it succeeds and changes that file alone, into
what resolving without one prints. -/
theorem run_agrees [Pattern.SizeTest] (invocation : Invocation) (disk : Disk) (format : Format)
    (pretty json : Bool) (pages : List Text) :
    let check := invocation.outcome disk (.check false)
    let printed := invocation.outcome disk (.resolve format pretty none)
    let sidebar := invocation.outcome disk (.sidebar pages json)
    (check.code = 0 ↔ printed.code = 0) ∧ (printed.code = 0 ↔ sidebar.code = 0) ∧
      (sidebar.code = 0 ↔ ∃ path loaded,
        disk.findUpward disk.workingPath invocation.config = some path ∧
          Site.loadFile disk path = .ok loaded) ∧
      (check.disk = disk ∧ printed.disk = disk ∧ sidebar.disk = disk) ∧
      (∀ task, (invocation.outcome disk task).code ≠ 0 →
        (invocation.outcome disk task).output = []) ∧
      ∀ file,
        let saved := invocation.outcome disk (.resolve format pretty (some file))
        (saved.code ≠ 0 ∧ saved.disk = disk) ∨
          (saved.code = 0 ∧ printed.code = 0 ∧
            Writes disk saved.disk file (Utf8.encode printed.output)) := by
  intro check printed sidebar
  obtain ⟨hcheck, hcheckDisk⟩ : _ ∧ check.disk = disk := outcome_of_onlyReads Task.check_onlyReads
  obtain ⟨hprinted, hprintedDisk⟩ : _ ∧ printed.disk = disk :=
    outcome_of_onlyReads (Task.resolve_onlyReads format pretty)
  obtain ⟨hsidebar, hsidebarDisk⟩ : _ ∧ sidebar.disk = disk :=
    outcome_of_onlyReads (Task.sidebar_onlyReads pages json)
  refine ⟨hcheck.trans hprinted.symm, hprinted.trans hsidebar.symm, hsidebar.trans ?_,
    ⟨hcheckDisk, hprintedDisk, hsidebarDisk⟩, fun _ => output_of_code, fun _ => outcome_of_file⟩
  simp only [configOf_eq_ok, configPath_eq_ok, exists_comm, exists_and_left]

end Invocation

end Command

end Signpost
