import PropFormula.Proofs.LevelOption

namespace PropFormula

def Selection.withoutLevel (selection : Selection) : Selection where
  command := selection.command
  common := selection.common.withoutLevel
  own := selection.own.withoutLevel

namespace Scope
variable {scope : Scope} {reading : Reading} {received : Received}

theorem has_level_withoutLevel (received : Received) : received.withoutLevel.has levelOption = false := by
  simp [Received.has,Received.withoutLevel]

theorem checkOption_withoutLevel {option : OptionSpec} (passed : checkOption received option = .ok ())
    (only : option.key = levelOption.key → option = levelOption) :
    checkOption received.withoutLevel option = .ok () := by
  by_cases level : option.key = levelOption.key
  · cases only level
    unfold checkOption
    rw [has_level_withoutLevel]
    rfl
  · unfold checkOption at passed ⊢
    rw [received.has_withoutLevel level,received.valuesOf_withoutLevel level,received.count_withoutLevel level]
    exact passed

theorem check_withoutLevel (takes : scope.TakesLevel) (orderly : scope.Orderly reading)
    (checked : scope.check reading = .ok received) :
    scope.check reading.withoutLevel = .ok received.withoutLevel := by
  have idle : reading.awaiting = none := (check_complete checked).settled orderly
  obtain ⟨rfl,given,one,each⟩ := check_cases checked
  have same : ∀ option ∈ scope.sources, reading.received.withoutLevel.has option = reading.received.has option :=
    fun option member => reading.received.has_withoutLevel (takes.sourceless option member)
  refine check_of_settled (Reading.idle_withoutLevel idle) ?_ ?_ ?_
  · unfold sourceGiven at given ⊢
    rw [Bool.or_eq_true,List.any_eq_true] at given ⊢
    refine given.imp_right ?_
    intro ⟨option,member,met⟩
    exact ⟨option,member,(same option member).trans met⟩
  · rw [List.countP_congr]
    · exact one
    · intro option member
      exact iff_of_eq (congrArg (· = true) (same option member))
  · exact fun option member => checkOption_withoutLevel (each option member) (takes.only option member)

end Scope

namespace ProgramSpec
variable {program : ProgramSpec} {arguments : List String} {selection : Selection}

structure TakesLevel (program : ProgramSpec) : Prop where
  common : program.scope.TakesLevel
  own : ∀ command ∈ program.commands, (program.scopeOf command).TakesLevel

theorem level_known (takes : program.TakesLevel) (accepted : program.read arguments = .ok selection)
    {name : String} (chosen : selection.common? levelOption.key = some name) :
    (Threshold.ofName? name).isSome = true := by
  have known : ∀ name ∈ Threshold.names, (Threshold.ofName? name).isSome = true := by decide
  obtain ⟨reaches,_,found,reads,own,common⟩ := read_exact.mp accepted
  have takesOwn := takes.own _ (List.mem_of_find?_eq_some found)
  have ownAnswered := Scope.read_answered takesOwn.wordless Reading.start_answered reads
  have commonAnswered := Scope.read_answered takes.common.wordless Reading.start_answered reaches
  apply known
  rcases Option.or_eq_some_iff.mp chosen with given | ⟨_,given⟩
  · exact Scope.check_choice ownAnswered own takesOwn.member (by decide) given
  · exact Scope.check_choice commonAnswered common takes.common.member (by decide) given

theorem read_withoutLevel (takes : program.TakesLevel) (accepted : program.read arguments = .ok selection) :
    program.read (PropFormula.withoutLevel arguments) = .ok selection.withoutLevel := by
  obtain ⟨reaches,runs,known,reads,own,common⟩ := read_exact.mp accepted
  have takesOwn := takes.own _ (List.mem_of_find?_eq_some known)
  have outerOrderly := Scope.read_orderly takes.common.wordless (Scope.start_orderly _) reaches
  have innerOrderly := Scope.read_orderly takesOwn.wordless (Scope.start_orderly _) reads
  exact read_exact.mpr (.intro
    (Scope.read_withoutLevel takes.common (Scope.start_orderly _) (Scope.check_complete common) reaches)
    runs known
    (Scope.read_withoutLevel takesOwn (Scope.start_orderly _) (Scope.check_complete own) reads)
    (Scope.check_withoutLevel takesOwn innerOrderly own)
    (Scope.check_withoutLevel takes.common outerOrderly common))

end ProgramSpec

theorem withoutLevelFrom_head {skips : Bool} {arguments rest : List String} {word : String}
    (left : withoutLevelFrom skips arguments = word :: rest) : (word == "--") = true ∨ spellsLevel word = false := by
  fun_induction withoutLevelFrom skips arguments with
  | case1 => cases left
  | case2 _ _ ih => exact ih left
  | case3 _ _ ends => cases left; exact .inl ends
  | case4 _ _ _ _ ih => exact ih left
  | case5 _ _ _ other => cases left; exact .inr (Bool.eq_false_iff.mpr other)

def levelWord (name : String) : String := "--" ++ levelOption.long ++ "=" ++ name

def Received.level (name : String) : Received := ⟨[levelOption.key],[(levelOption.key,name)]⟩

theorem levelWord_spells : ∀ name ∈ Threshold.names,
    spellsLevel (levelWord name) = true ∧ carriesValue (levelWord name) = true ∧
      Reading.start.meet levelOption (attached? (levelWord name)) = ⟨.level name,none,false⟩ := by
  decide +kernel

namespace Scope
variable {scope : Scope} {inner : Reading} {arguments rest : List String} {name : String}

-- Where the level is all there is to be chosen, a command line without it begins with the command.
theorem read_withoutLevel_command (takes : scope.TakesLevel) (alone : scope.allOptions = [levelOption])
    (done : scope.read .start (PropFormula.withoutLevel arguments) = .ok (inner,some (name,rest))) :
    PropFormula.withoutLevel arguments = name :: rest ∧ inner = .start ∧ scope.commands.contains name = true := by
  generalize left : PropFormula.withoutLevel arguments = words at done
  cases words with
  | nil => cases done
  | cons word after =>
    have unplain : ¬ Reading.start.plainOnly = true := Bool.false_ne_true
    by_cases goes : (word == "--") = true
    · rw [Scope.read,if_neg unplain,if_pos goes] at done
      obtain ⟨_,_,ended⟩ := read_plainOnly takes.wordless rfl done
      cases ended
    · have other : spellsLevel word = false := (withoutLevelFrom_head left).resolve_left goes
      rw [Scope.read,if_neg unplain,if_neg goes] at done
      dsimp only [Reading.start] at done
      split at done
      · rename_i command
        cases done
        exact ⟨rfl,rfl,command⟩
      · split at done
        · rename_i optionLike
          obtain ⟨next,taken,_⟩ := bind_ok.mp done
          obtain ⟨option,member,_,different,_⟩ := readOption_other takes other optionLike taken
          rw [alone] at member
          exact absurd (congrArg OptionSpec.key (List.mem_singleton.mp member)) different
        · obtain ⟨_,taken,_⟩ := bind_ok.mp done
          exact absurd taken (readPlain_refused takes.wordless _)

theorem checkOption_level (valid : name ∈ Threshold.names) : checkOption (.level name) levelOption = .ok () := by
  simp [checkOption,Received.has,Received.valuesOf,Received.level,levelOption,valid]

theorem check_level (sourceless : scope.sources = []) (alone : scope.allOptions = [levelOption])
    (valid : name ∈ Threshold.names) : scope.check ⟨.level name,none,false⟩ = .ok (.level name) := by
  refine check_of_settled rfl ?_ ?_ ?_
  · rw [sourceGiven,sourceless]
    rfl
  · rw [sourceless]
    exact Nat.zero_le 1
  · rw [alone]
    exact List.forall_mem_singleton.mpr (checkOption_level valid)

theorem read_level_command (takes : scope.TakesLevel) (command : scope.commands.contains name = true)
    {level : String} (valid : level ∈ Threshold.names) (rest : List String) :
    scope.read .start (levelWord level :: name :: rest) = .ok (⟨.level level,none,false⟩,some (name,rest)) := by
  obtain ⟨spells,_,meets⟩ := levelWord_spells level valid
  have optionLike := spellsLevel_isOptionLike spells
  have free : ¬ scope.commands.contains (levelWord level) = true := fun contains =>
    takes.named _ (List.contains_iff_mem.mp contains) optionLike
  rw [read_met rfl Bool.false_ne_true (spellsLevel_goes spells) free optionLike
    (readOption_level takes spells .start),meets]
  exact read_chosen rfl Bool.false_ne_true (not_ends (takes.named name (List.contains_iff_mem.mp command)))
    command rest

end Scope

namespace ProgramSpec
variable {program : ProgramSpec} {arguments : List String} {selection : Selection} {name : String}

theorem read_level (takes : program.TakesLevel) (alone : program.options = [levelOption])
    (valid : name ∈ Threshold.names) (accepted : program.read arguments = .ok selection) :
    program.read (levelWord name :: PropFormula.withoutLevel arguments) =
      .ok {selection.withoutLevel with common := .level name} := by
  obtain ⟨reaches,runs,known,reads,own,_⟩ := read_exact.mp (read_withoutLevel takes accepted)
  have options : program.scope.allOptions = [levelOption] := alone
  obtain ⟨begins,rfl,command⟩ := Scope.read_withoutLevel_command takes.common options reaches
  rw [begins]
  exact read_exact.mpr (.intro (Scope.read_level_command takes.common command valid _) runs known reads own
    (Scope.check_level rfl options valid))

end ProgramSpec

theorem withoutLevel_level {name : String} (valid : name ∈ Threshold.names) (arguments : List String) :
    withoutLevel (levelWord name :: withoutLevel arguments) = withoutLevel arguments := by
  obtain ⟨spells,carries,_⟩ := levelWord_spells name valid
  refine (withoutLevelFrom_taken (spellsLevel_goes spells) spells _).trans ?_
  rw [carries]
  exact withoutLevel_idempotent false arguments

end PropFormula
