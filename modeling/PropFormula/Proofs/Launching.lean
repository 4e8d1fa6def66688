import PropFormula.Launcher

namespace PropFormula

namespace Machine

-- Only the log may differ.
structure Logged (before after : Machine) : Prop where
  files : after.files = before.files
  output : after.output = before.output

variable {before middle after : Machine}

theorem Logged.trans (first : before.Logged middle) (second : middle.Logged after) : before.Logged after :=
  ⟨second.files.trans first.files,second.output.trans first.output⟩

theorem logged_log (machine : Machine) (level : Level) (message : String) :
    machine.Logged (machine.log level message) := by
  unfold log
  split
  · exact ⟨rfl,rfl⟩
  · exact ⟨rfl,rfl⟩

theorem logged_install (machine : Machine) (threshold : Threshold) :
    machine.Logged (machine.install threshold).2 := by
  unfold install
  cases machine.threshold with
  | none => exact ⟨rfl,rfl⟩
  | some _ => exact ⟨rfl,rfl⟩

end Machine
open Machine

theorem bind_run {α β : Type} {first : StateM Machine α} {later : α → StateM Machine β} {machine after : Machine}
    {answer : α} (ran : first machine = (answer,after)) : (first >>= later) machine = later answer after := by
  change later (first machine).1 (first machine).2 = _
  rw [ran]

theorem log_run (level : Level) (message : String) (machine : Machine) :
    (Host.log level message : StateM Machine Unit) machine = ((),machine.log level message) := rfl

theorem logged_forM (level : Level) (lines : List String) (machine : Machine) :
    machine.Logged ((lines.forM (Host.log level) : StateM Machine Unit) machine).2 := by
  induction lines generalizing machine with
  | nil => exact ⟨rfl,rfl⟩
  | cons line rest ih => exact (logged_log machine level line).trans (ih (machine.log level line))

namespace Program
variable {program : Program (StateM Machine)} {command : Command (StateM Machine)} {selection : Selection}

theorem dispatch_known (known : program.command? selection.command = some command) (machine : Machine) :
    program.dispatch selection machine =
      match command.execute selection.own (machine.log .info program.banner) with
      | (.ok (),after) => (.ok (),after)
      | (.error chain,after) =>
        (.error (chain.context ("while executing command \"" ++ selection.command ++ "\"")),after) := by
  unfold dispatch
  rw [known]
  dsimp only
  rw [bind_run (log_run .info program.banner machine)]
  cases executed : command.execute selection.own (machine.log .info program.banner) with
  | mk answer after =>
    rw [bind_run executed]
    cases answer <;> rfl

-- In a fresh process the logger can be installed, so the command is tried.
theorem run_start (program : Program (StateM Machine)) (selection : Selection) (files : FileSystem) :
    program.run selection (Machine.start files) =
      match program.dispatch selection ((Machine.start files).install selection.threshold).2 with
      | (.ok (),after) => (.completed,after)
      | (.error chain,after) => (.failed,(report (m := StateM Machine) chain after).2) := by
  have installed : (Host.install selection.threshold : StateM Machine Bool) (Machine.start files) =
      (true,((Machine.start files).install selection.threshold).2) := rfl
  unfold run
  rw [bind_run installed]
  dsimp only
  rw [if_pos rfl]
  cases dispatched : program.dispatch selection ((Machine.start files).install selection.threshold).2 with
  | mk answer after =>
    rw [bind_run dispatched]
    cases answer <;> rfl

end Program
end PropFormula
