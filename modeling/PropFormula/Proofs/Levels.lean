import PropFormula.Proofs.LevelChoice
import PropFormula.Proofs.Running

namespace PropFormula
open Machine

theorem machineProgram_takesLevel : machineProgram.grammar.TakesLevel where
  common := {
    wordless := rfl
    known := rfl
    only := by decide
    sourceless := nofun
    named := by decide }
  own := by
    intro command member
    obtain ⟨own,listed,rfl⟩ := List.mem_map.mp member
    refine machineProgram_commands
      (fun command => (machineProgram.grammar.scopeOf command.grammar).TakesLevel) ?_ ?_ own listed
    · intro name about view
      exact {
        wordless := rfl
        known := rfl
        only := by
          change ∀ option ∈ [formulaOption,inputOption,outputOption,levelOption], _
          decide
        sourceless := by
          change ∀ option ∈ [formulaOption,inputOption], _
          decide
        named := nofun }
    · exact {
        wordless := rfl
        known := rfl
        only := by
          change ∀ option ∈ [outputOption,levelOption], _
          decide
        sourceless := nofun
        named := nofun }

theorem execute_same {first second : Received}
    (same : ∀ option ∈ [formulaOption,inputOption,outputOption],
      first.value? option.key = second.value? option.key) :
    ∀ command ∈ machineProgram.commands, command.execute first = command.execute second := by
  have formula := same formulaOption (by decide)
  have input := same inputOption (by decide)
  have output := same outputOption (by decide)
  refine machineProgram_commands _ ?_ ?_
  · intro name about view
    change withChain (transform view first) = withChain (transform view second)
    unfold transform
    rw [readSource_same input formula,openTarget_same output]
  · change withChain (demonstrate first) = withChain (demonstrate second)
    unfold demonstrate
    rw [openTarget_same output]

theorem dispatch_withoutLevel (selection : Selection) :
    machineProgram.dispatch selection.withoutLevel = machineProgram.dispatch selection := by
  cases known : machineProgram.command? selection.command with
  | none =>
    have unknown : machineProgram.command? selection.withoutLevel.command = none := known
    unfold Program.dispatch
    rw [known,unknown]
    rfl
  | some command =>
    have known' : machineProgram.command? selection.withoutLevel.command = some command := known
    have member : command ∈ machineProgram.commands := List.mem_of_find?_eq_some known
    have others : ∀ option ∈ [formulaOption,inputOption,outputOption], option.key ≠ levelOption.key := by decide
    have same : command.execute selection.withoutLevel.own = command.execute selection.own :=
      execute_same (fun option listed => selection.own.value?_withoutLevel (others option listed)) command member
    rw [Program.dispatch_blamed known,Program.dispatch_blamed known',same]
    rfl

theorem Selection.withoutLevel_own (selection : Selection) :
    selection.withoutLevel.own.value? levelOption.key = none := selection.own.value?_level_withoutLevel

theorem Selection.withoutLevel_common (selection : Selection) :
    selection.withoutLevel.common.value? levelOption.key = none := selection.common.value?_level_withoutLevel

theorem threshold_level {name : String} {threshold : Threshold} (listed : (name,threshold) ∈ Threshold.named)
    (selection : Selection) :
    Selection.threshold {selection.withoutLevel with common := .level name} = threshold := by
  have named : ∀ entry ∈ Threshold.named, Threshold.ofName? entry.1 = some entry.2 := by decide
  have common : (Received.level name).value? levelOption.key = some name := by simp [Received.level,Received.value?]
  unfold Selection.threshold Selection.common?
  dsimp only
  rw [selection.withoutLevel_own,common]
  change (Threshold.ofName? name).getD _ = threshold
  rw [named _ listed]
  rfl

theorem threshold_withoutLevel (selection : Selection) : selection.withoutLevel.threshold = .usual := by
  unfold Selection.threshold Selection.common?
  rw [selection.withoutLevel_own,selection.withoutLevel_common]
  rfl

theorem launched_settled {arguments : List String} {selection : Selection}
    (accepted : machineProgram.grammar.read arguments = .ok selection) (files : FileSystem) :
    launched files arguments =
      settled (machineProgram.dispatch selection.withoutLevel) (Machine.ready files selection.threshold) := by
  unfold launched Program.launch
  rw [accepted,dispatch_withoutLevel]
  exact Program.run_settled machineProgram selection files

theorem selection_withoutLevel {arguments others : List String} {selection other : Selection}
    (accepted : machineProgram.grammar.read arguments = .ok selection)
    (again : machineProgram.grammar.read others = .ok other)
    (same : withoutLevel others = withoutLevel arguments) : other.withoutLevel = selection.withoutLevel := by
  have left := ProgramSpec.read_withoutLevel machineProgram_takesLevel again
  rw [same,ProgramSpec.read_withoutLevel machineProgram_takesLevel accepted] at left
  exact (Except.ok.inj left).symm

-- Every level can be had, whatever stood on the command line before.
theorem level_accepted {arguments : List String} {selection : Selection}
    (accepted : machineProgram.grammar.read arguments = .ok selection) {name : String} {threshold : Threshold}
    (listed : (name,threshold) ∈ Threshold.named) :
    ∃ other, machineProgram.grammar.read (levelWord name :: withoutLevel arguments) = .ok other ∧
      withoutLevel (levelWord name :: withoutLevel arguments) = withoutLevel arguments ∧
      other.threshold = threshold := by
  have valid : name ∈ Threshold.names := List.mem_map_of_mem listed
  exact ⟨_,ProgramSpec.read_level machineProgram_takesLevel rfl valid accepted,
    withoutLevel_level valid arguments,threshold_level listed selection⟩

-- Whatever level is chosen, and wherever it stands on the command line, the outcome, the files and the output
-- are the same, and the records shown are those of the level out of all that the widest level shows.
theorem levels_do_not_interfere {arguments : List String} {selection : Selection}
    (accepted : machineProgram.grammar.read arguments = .ok selection) (files : FileSystem) :
    ∃ outcome after printed logged,
      (∀ others other, machineProgram.grammar.read others = .ok other →
        withoutLevel others = withoutLevel arguments → ∃ shown,
          launched files others = (outcome,⟨after,printed,some other.threshold,shown⟩) ∧
          shown = logged.filter (fun record => other.threshold.shows record.level) ∧
          (other.threshold = .off → shown = [])) ∧
      launched files (levelWord "trace" :: withoutLevel arguments) =
        (outcome,⟨after,printed,some (.upTo .trace),logged⟩) ∧
      (∃ other, machineProgram.grammar.read (withoutLevel arguments) = .ok other ∧
        withoutLevel (withoutLevel arguments) = withoutLevel arguments ∧ other.threshold = .usual) ∧
      ∀ name threshold, (name,threshold) ∈ Threshold.named → ∃ other,
        machineProgram.grammar.read (levelWord name :: withoutLevel arguments) = .ok other ∧
        withoutLevel (levelWord name :: withoutLevel arguments) = withoutLevel arguments ∧
        other.threshold = threshold := by
  obtain ⟨effect,ran⟩ := run_effect selection.withoutLevel files
  have alike (others : List String) (other : Selection) (again : machineProgram.grammar.read others = .ok other)
      (same : withoutLevel others = withoutLevel arguments) :
      launched files others = (effect.answer,⟨effect.files,effect.printed,some other.threshold,
        effect.logged.filter (fun record => other.threshold.shows record.level)⟩) := by
    rw [launched_settled again,selection_withoutLevel accepted again same,ran]
    simp only [Effect.on,ready_shown]
    simp [Machine.ready]
  refine ⟨effect.answer,effect.files,effect.printed,effect.logged,?_,?_,?_,?_⟩
  · intro others other again same
    refine ⟨_,alike others other again same,rfl,?_⟩
    intro off
    rw [off]
    exact List.filter_eq_nil_iff.mpr fun record _ => by simp [Threshold.off_shows]
  · have listed : ("trace",Threshold.upTo .trace) ∈ Threshold.named := by decide
    obtain ⟨other,again,same,widest⟩ := level_accepted accepted listed
    rw [alike _ other again same,widest,List.filter_eq_self.mpr fun record _ => Threshold.trace_shows record.level]
  · exact ⟨_,ProgramSpec.read_withoutLevel machineProgram_takesLevel accepted,
      withoutLevel_idempotent false arguments,threshold_withoutLevel selection⟩
  · exact fun name threshold listed => level_accepted accepted listed

-- A run that fails, and the same without a word about it.
theorem failure_silenced :
    machineProgram.grammar.read ["infix","-f","x &"] =
        .ok ⟨"infix",⟨[],[]⟩,⟨["FORMULA"],[("FORMULA","x &")]⟩⟩ ∧
      ∃ after printed shown,
        launched (.initial ["work"]) ["infix","-f","x &"] = (.failed,⟨after,printed,some .usual,shown⟩) ∧
        launched (.initial ["work"]) ["infix","--logging-level","off","-f","x &"] =
          (.failed,⟨after,printed,some .off,[]⟩) := by
  have accepted : machineProgram.grammar.read ["infix","-f","x &"] =
      .ok ⟨"infix",⟨[],[]⟩,⟨["FORMULA"],[("FORMULA","x &")]⟩⟩ := rfl
  have silenced : machineProgram.grammar.read ["infix","--logging-level","off","-f","x &"] =
      .ok ⟨"infix",⟨[],[]⟩,⟨["LOGGING_LEVEL","FORMULA"],[("LOGGING_LEVEL","off"),("FORMULA","x &")]⟩⟩ := rfl
  have fails : (launched (.initial ["work"]) ["infix","-f","x &"]).1 = .failed := by
    decide +kernel
  obtain ⟨outcome,after,printed,logged,alike,_⟩ := levels_do_not_interfere accepted (.initial ["work"])
  obtain ⟨shown,ran,_⟩ := alike _ _ accepted rfl
  obtain ⟨hidden,ran',_,quiet⟩ := alike _ _ silenced (by decide +kernel)
  rw [ran] at fails
  cases fails
  cases quiet rfl
  exact ⟨accepted,after,printed,shown,ran,ran'⟩

end PropFormula
