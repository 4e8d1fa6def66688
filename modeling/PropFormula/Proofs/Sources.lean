import PropFormula.Proofs.Running

namespace PropFormula
open Machine

-- What is left to do once there is a text.
def finish (view : View) (received : Received) (text : String) : ExceptT CommandError (StateM Machine) Unit := do
  let tree ← ExceptT.mk (pure (parseSource text))
  deliver view received tree

section
variable {view : View} {received first second : Received} {text : String} {machine after : Machine}

theorem transform_supplied (view : View)
    (supplied : readSource (m := StateM Machine) received machine = (.ok text,after)) :
    withChain (transform (m := StateM Machine) view received) machine =
      withChain (finish view received text) after := by
  have continues : transform (m := StateM Machine) view received machine = finish view received text after :=
    stage_continues supplied
  exact bind_same continues

theorem finish_same (output : first.value? outputOption.key = second.value? outputOption.key) :
    finish view first text = finish view second text := by
  unfold finish deliver
  rw [openTarget_same output]

theorem steady_finish (view : View) (received : Received) (text : String) :
    Steady (finish view received text : StateM Machine (Except CommandError Unit)) :=
  (steady_pure _).stage fun _ => (steady_openTarget received).stage fun target =>
    (steady_pure _).stage fun pieces => steady_writePieces target pieces

end

def heading (source : String) : List Record := [⟨.info,machineProgram.banner⟩,⟨.info,source⟩]

theorem run_supplied {selection : Selection} {view : View} {files : FileSystem} {text source : String}
    (named : selection.command = view.commandName)
    (supplied : ∀ machine : Machine, machine.files = files →
      readSource (m := StateM Machine) selection.own machine = (.ok text,machine.log .info source)) :
    machineProgram.run selection (Machine.start files) =
      settled (blamed view.commandName (withChain (finish view selection.own text)))
        {Machine.ready files selection.threshold with
          records := (Machine.ready files selection.threshold).shown (heading source)} := by
  obtain ⟨about,known,_⟩ := command_of_view view
  rw [← named] at known
  have executed : machineProgram.dispatch selection (Machine.ready files selection.threshold) =
      blamed selection.command (withChain (finish view selection.own text))
        (((Machine.ready files selection.threshold).log .info machineProgram.banner).log .info source) := by
    rw [Program.dispatch_blamed known,bind_run (log_run _ _ _)]
    exact bind_same (transform_supplied view (supplied _ (logged_log _ _ _).files))
  rw [Program.run_settled,← named]
  refine (bind_same executed).trans ?_
  have both : (Machine.ready files selection.threshold).shown (heading source) =
      (Machine.ready files selection.threshold).shown [⟨.info,machineProgram.banner⟩] ++
        (Machine.ready files selection.threshold).shown [⟨.info,source⟩] := shown_append _ [_] [_]
  rw [log_eq,log_eq,both]
  rfl

-- But for the record that names the source the two runs cannot be told apart.
theorem sources_agree {files : FileSystem} {path text : String} {view : View} {fromFile fromText : Selection}
    (readable : files.read path = .ok text)
    (fileNamed : fromFile.command = view.commandName) (textNamed : fromText.command = view.commandName)
    (input : fromFile.own.value? inputOption.key = some path)
    (formula : fromText.own.value? formulaOption.key = some text)
    (alone : fromText.own.value? inputOption.key = none)
    (output : fromFile.own.value? outputOption.key = fromText.own.value? outputOption.key)
    (level : fromFile.threshold = fromText.threshold) :
    ∃ outcome after printed later,
      machineProgram.run fromFile (Machine.start files) =
        (outcome,⟨after,printed,some fromFile.threshold,
          (heading ("reading formula from file " ++ (files.canonical? path).getD path)).filter
            (fun record => fromFile.threshold.shows record.level) ++ later⟩) ∧
      machineProgram.run fromText (Machine.start files) =
        (outcome,⟨after,printed,some fromFile.threshold,
          (heading "reading formula from the command line").filter
            (fun record => fromFile.threshold.shows record.level) ++ later⟩) := by
  obtain ⟨effect,ran⟩ := steady_settled (steady_blamed view.commandName
    (steady_withChain (steady_finish view fromText.own text)))
  have fileSupplied (machine : Machine) (same : machine.files = files) :
      readSource (m := StateM Machine) fromFile.own machine = (.ok text,
        machine.log .info ("reading formula from file " ++ (files.canonical? path).getD path)) := by
    rw [readSource_input input machine,same,readable]
    rfl
  have textSupplied (machine : Machine) (_ : machine.files = files) :
      readSource (m := StateM Machine) fromText.own machine = (.ok text,
        machine.log .info "reading formula from the command line") := by
    rw [readSource_formula alone machine,formula]
    rfl
  have fileRun := run_supplied fileNamed fileSupplied
  have textRun := run_supplied textNamed textSupplied
  rw [finish_same output,ran] at fileRun
  rw [ran,← level] at textRun
  exact ⟨_,_,_,_,fileRun,textRun⟩

-- The output goes to the very file that is read.
theorem overwritten_source_alike :
    formulaBesideDirectory.read "in.txt" = .ok "x & (!y | z)" ∧
      ∃ outcome after printed later,
        machineProgram.run
            ⟨"clause",.none,⟨["INPUT","OUTPUT"],[("INPUT","in.txt"),("OUTPUT","d/../in.txt")]⟩⟩
            (Machine.start formulaBesideDirectory) =
          (outcome,⟨after,printed,some .usual,
            [⟨.info,"boolexpr 0.1.0"⟩,⟨.info,"reading formula from file /work/in.txt"⟩] ++ later⟩) ∧
        machineProgram.run
            ⟨"clause",.none,⟨["FORMULA","OUTPUT"],[("FORMULA","x & (!y | z)"),("OUTPUT","d/../in.txt")]⟩⟩
            (Machine.start formulaBesideDirectory) =
          (outcome,⟨after,printed,some .usual,
            [⟨.info,"boolexpr 0.1.0"⟩,⟨.info,"reading formula from the command line"⟩] ++ later⟩) := by
  have readable : formulaBesideDirectory.read "in.txt" = .ok "x & (!y | z)" := rfl
  have named : "clause" = View.commandName .clauses := rfl
  exact ⟨readable,sources_agree readable named named rfl rfl rfl rfl rfl⟩

end PropFormula
