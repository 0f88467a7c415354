import Signpost.Command.Run

/-!
# The steps of a task

What each step of a task does to how far the task has come. A task is run by these equations from
one step to the next.
-/

namespace Signpost.Command.Work

variable {α β : Type} {p : Progress}

theorem run_bind {work : Work α} {next : α → Work β} : (work >>= next).run.run p =
    match work.run.run p with
    | (.ok a, q) => (next a).run.run q
    | (.error failure, q) => (.error failure, q) := by
  rw [ExceptT.run_bind, StateT.run_bind]
  change (match work.run.run p with | (_, _) => _) = _
  rcases work.run.run p with ⟨_ | _, q⟩
  · rfl
  · rfl

@[simp] theorem run_throw {failure : Failure} :
    (throw failure : Work α).run.run p = (.error failure, p) := rfl

@[simp] theorem run_disk : Work.disk.run.run p = (.ok p.disk, p) := rfl

@[simp] theorem run_tell {message : Message} :
    (tell message).run.run p = (.ok (), { p with messages := p.messages ++ [message] }) := rfl

@[simp] theorem run_leave {disk : Disk} : (leave disk).run.run p = (.ok (), { p with disk }) := rfl

@[simp] theorem run_require {ε : Type} {failure : ε → Failure} {outcome : Except ε α} :
    (require failure outcome).run.run p = (outcome.mapError failure, p) := by
  cases outcome with
  | error e => rfl
  | ok a => rfl

end Signpost.Command.Work
