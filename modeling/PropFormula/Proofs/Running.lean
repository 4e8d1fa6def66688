import PropFormula.Proofs.Behaviour
import PropFormula.Proofs.Transformation

namespace PropFormula
open Machine

theorem bind_same {α β : Type} {first other : StateM Machine α} {later : α → StateM Machine β}
    {machine after : Machine} (same : first machine = other after) :
    (first >>= later) machine = (other >>= later) after := by
  change later (first machine).1 (first machine).2 = _
  rw [same]
  rfl

def blamed (name : String) (attempt : StateM Machine (Except ErrorChain Unit)) :
    StateM Machine (Except ErrorChain Unit) := do
  match (← attempt) with
  | .ok () => return .ok ()
  | .error chain => return .error (chain.context ("while executing command \"" ++ name ++ "\""))

def settled (attempt : StateM Machine (Except ErrorChain Unit)) : StateM Machine Outcome := do
  match (← attempt) with
  | .ok () => return .completed
  | .error chain =>
    Program.report chain
    return .failed

theorem steady_blamed (name : String) {attempt : StateM Machine (Except ErrorChain Unit)}
    (steady : Steady attempt) : Steady (blamed name attempt) := by
  refine steady.bind fun answer => ?_
  cases answer with
  | ok _ => exact steady_pure _
  | error chain => exact steady_pure _

theorem steady_settled {attempt : StateM Machine (Except ErrorChain Unit)} (steady : Steady attempt) :
    Steady (settled attempt) := by
  refine steady.bind fun answer => ?_
  cases answer with
  | ok _ => exact steady_pure _
  | error chain => exact (steady_forM_log .error chain.lines).bind fun _ => steady_pure _

def Machine.ready (files : FileSystem) (threshold : Threshold) : Machine := ⟨files,"",some threshold,[]⟩

theorem ready_shown (files : FileSystem) (threshold : Threshold) (records : List Record) :
    (Machine.ready files threshold).shown records =
      records.filter (fun record => threshold.shows record.level) := rfl

namespace Program

theorem run_settled (program : Program (StateM Machine)) (selection : Selection) (files : FileSystem) :
    program.run selection (Machine.start files) =
      settled (program.dispatch selection) (Machine.ready files selection.threshold) := rfl

theorem dispatch_blamed {program : Program (StateM Machine)} {selection : Selection}
    {command : Command (StateM Machine)} (known : program.command? selection.command = some command) :
    program.dispatch selection =
      (do Host.log .info program.banner
          blamed selection.command (command.execute selection.own)) := by
  unfold dispatch
  rw [known]
  rfl

theorem steady_dispatch {program : Program (StateM Machine)} {selection : Selection}
    (steady : ∀ command ∈ program.commands, Steady (command.execute selection.own)) :
    Steady (program.dispatch selection) := by
  cases known : program.command? selection.command with
  | none =>
    unfold dispatch
    rw [known]
    exact steady_pure _
  | some command =>
    rw [dispatch_blamed known]
    refine (steady_log _ _).bind fun _ => steady_blamed _ (steady command ?_)
    exact List.mem_of_find?_eq_some known

end Program

section
variable {first second : Received}

theorem readSource_same (input : first.value? inputOption.key = second.value? inputOption.key)
    (formula : first.value? formulaOption.key = second.value? formulaOption.key) :
    readSource (m := StateM Machine) first = readSource second := by
  unfold readSource
  rw [input,formula]

theorem openTarget_same (output : first.value? outputOption.key = second.value? outputOption.key) :
    openTarget (m := StateM Machine) first = openTarget second := by
  unfold openTarget
  rw [output]

end

theorem machineProgram_commands (holds : Command (StateM Machine) → Prop)
    (transforms : ∀ name about view, holds (transformation name about view)) (demonstrates : holds demoCommand) :
    ∀ command ∈ machineProgram.commands, holds command := by
  intro command member
  simp only [machineProgram,formulaProgram,List.mem_cons,List.not_mem_nil,or_false] at member
  obtain rfl | rfl | rfl | rfl := member
  · exact transforms _ _ _
  · exact transforms _ _ _
  · exact transforms _ _ _
  · exact demonstrates

theorem machineProgram_steady (received : Received) :
    ∀ command ∈ machineProgram.commands, Steady (command.execute received) :=
  machineProgram_commands _ (fun _ _ view => steady_withChain (steady_transform received view))
    (steady_withChain (steady_demonstrate received))

-- What a run in a fresh process comes to, whatever the level.
theorem run_effect (selection : Selection) (files : FileSystem) : ∃ effect : Effect Outcome,
    ∀ threshold, settled (machineProgram.dispatch selection) (Machine.ready files threshold) =
      effect.on (Machine.ready files threshold) := by
  obtain ⟨effect,ran⟩ := steady_settled (Program.steady_dispatch (machineProgram_steady selection.own))
  exact ⟨effect files,fun threshold => ran _⟩

end PropFormula
