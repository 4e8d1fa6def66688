import PropFormula.CommandLine.Arguments
import PropFormula.Proofs.Checks

namespace PropFormula

namespace Reading

-- Every value belongs to an option that has been met, and so does every value still awaited.
structure Answered (reading : Reading) : Prop where
  values : ∀ entry ∈ reading.received.values, entry.1 ∈ reading.received.occurred
  awaited : ∀ option ∈ reading.awaiting, option.key ∈ reading.received.occurred

variable {reading : Reading}

theorem start_answered : start.Answered := ⟨nofun,nofun⟩

theorem Answered.meet (answered : reading.Answered) (option : OptionSpec) (attached : Option (List Char)) :
    (reading.meet option attached).Answered := by
  have met : option.key ∈ (reading.occur option).received.occurred :=
    List.mem_append_right _ List.mem_cons_self
  have values : ∀ entry ∈ (reading.occur option).received.values,
      entry.1 ∈ (reading.occur option).received.occurred :=
    fun entry member => List.mem_append_left _ (answered.values entry member)
  cases attached with
  | none =>
    refine ⟨values,?_⟩
    rintro _ ⟨⟩
    exact met
  | some characters =>
    refine ⟨?_,nofun⟩
    intro entry member
    rcases List.mem_append.mp member with before | new
    · exact values entry before
    · cases List.mem_singleton.mp new
      exact met

theorem Answered.give {option : OptionSpec} (answered : reading.Answered)
    (waits : reading.awaiting = some option) (value : String) :
    Answered {reading.give option.key value with awaiting := none} := by
  refine ⟨?_,nofun⟩
  intro entry member
  rcases List.mem_append.mp member with before | new
  · exact answered.values entry before
  · cases List.mem_singleton.mp new
    exact answered.awaited option waits

end Reading

namespace Scope
open Reading

variable {scope : Scope} {reading inner : Reading} {received : Received} {arguments : List String}
  {found : Option (String × List String)}

-- Which option a word meets is settled by the word, not by what has been read so far.
theorem readOption_meets {argument : List Char} (optionLike : isOptionLike argument = true)
    (done : scope.readOption reading argument = .ok inner) :
    ∃ option ∈ scope.allOptions, ∃ attached, inner = reading.meet option attached ∧
      (∀ other : Reading, scope.readOption other argument = .ok (other.meet option attached)) ∧
      ((∃ rest, argument = '-' :: '-' :: rest ∧ option.long =
          String.ofList ((argument.dropWhile (· == '-')).takeWhile (· != '='))) ∨
        option.short.isSome = true) := by
  unfold readOption at done ⊢
  dsimp only at done ⊢
  split at done
  · rename_i rest
    unfold readLong at done ⊢
    dsimp only at done ⊢
    split at done
    · rename_i option known
      cases done
      have named := List.find?_some known
      exact ⟨option,List.mem_of_find?_eq_some known,_,rfl,fun _ => rfl,.inl ⟨rest,rfl,eq_of_beq named⟩⟩
    · split at done
      · cases done
      · split at done <;> cases done
  · rename_i single
    split at done
    · rename_i dashes
      unfold isOptionLike at optionLike
      split at optionLike
      · rename_i second rest
        have first : second ≠ '-' := by
          rintro rfl
          exact single rest rfl
        simp [first] at dashes
      · cases optionLike
    · unfold readShort at done ⊢
      split at done
      · rename_i option known
        cases done
        have named := List.find?_some known
        refine ⟨option,List.mem_of_find?_eq_some known,_,rfl,fun _ => rfl,.inr ?_⟩
        rw [eq_of_beq named]
        rfl
      · split at done
        · cases done
        · split at done <;> cases done

theorem readPlain_refused (wordless : scope.word = none) (argument : String) :
    scope.readPlain reading argument ≠ .ok inner := by
  unfold readPlain
  rw [wordless]
  split <;> exact nofun

theorem read_value {option : OptionSpec} (waits : reading.awaiting = some option)
    (unplain : ¬ reading.plainOnly = true) {argument : String} (goes : ¬ (argument == "--") = true)
    (unlike : ¬ isOptionLike argument.toList = true) (rest : List String) :
    scope.read reading (argument :: rest) =
      scope.read {reading.give option.key argument with awaiting := none} rest := by
  rw [Scope.read,if_neg unplain,if_neg goes,waits]
  exact if_neg unlike

theorem read_chosen (idle : reading.awaiting = none) (unplain : ¬ reading.plainOnly = true) {argument : String}
    (goes : ¬ (argument == "--") = true) (command : scope.commands.contains argument = true)
    (rest : List String) : scope.read reading (argument :: rest) = .ok (reading,some (argument,rest)) := by
  rw [Scope.read,if_neg unplain,if_neg goes,idle]
  exact if_pos command

theorem read_met (idle : reading.awaiting = none) (unplain : ¬ reading.plainOnly = true) {argument : String}
    (goes : ¬ (argument == "--") = true) (free : ¬ scope.commands.contains argument = true)
    (optionLike : isOptionLike argument.toList = true) {next : Reading}
    (taken : scope.readOption reading argument.toList = .ok next) (rest : List String) :
    scope.read reading (argument :: rest) = scope.read next rest := by
  rw [Scope.read,if_neg unplain,if_neg goes,idle]
  dsimp only
  rw [if_neg free,if_pos optionLike,taken]
  rfl

theorem not_ends {word : String} (plain : ¬ isOptionLike word.toList = true) : ¬ (word == "--") = true := by
  intro ends
  rw [eq_of_beq ends] at plain
  exact plain rfl

theorem read_pair (idle : reading.awaiting = none) (unplain : reading.plainOnly = false) {word value : String}
    (goes : (word == "--") = false) (free : scope.commands.contains word = false)
    (optionLike : isOptionLike word.toList = true) {option : OptionSpec}
    (taken : scope.readOption reading word.toList = .ok (reading.meet option none))
    (plain : ¬ isOptionLike value.toList = true) (rest : List String) :
    scope.read reading (word :: value :: rest) =
      scope.read {(reading.occur option).give option.key value with awaiting := none} rest := by
  have waits : (reading.meet option none).awaiting = some option := rfl
  rw [read_met idle (Bool.eq_false_iff.mp unplain) (Bool.eq_false_iff.mp goes) (Bool.eq_false_iff.mp free)
    optionLike taken]
  exact read_value waits (Bool.eq_false_iff.mp unplain) (not_ends plain) plain rest

-- What the uses of a word keep, each by itself, a whole reading keeps.
theorem read_keeps (holds : Reading → Prop) (wordless : scope.word = none)
    (ends : ∀ reading, holds reading → holds {reading with plainOnly := true})
    (meets : ∀ reading, ∀ option ∈ scope.allOptions, ∀ attached, holds reading →
      holds (reading.meet option attached))
    (gives : ∀ (reading : Reading) (option : OptionSpec) value, reading.awaiting = some option →
      holds reading → holds {reading.give option.key value with awaiting := none})
    (before : holds reading) (done : scope.read reading arguments = .ok (inner,found)) : holds inner := by
  fun_induction Scope.read scope reading arguments with
  | case1 => cases done; exact before
  | case2 =>
    obtain ⟨_,plain,_⟩ := bind_ok.mp done
    exact absurd plain (readPlain_refused wordless _)
  | case3 reading _ _ _ _ ih => exact ih (ends reading before) done
  | case4 reading _ _ _ _ _ _ optionLike ih | case7 reading _ _ _ _ _ _ optionLike ih =>
    obtain ⟨next,taken,later⟩ := bind_ok.mp done
    obtain ⟨option,member,attached,rfl,_⟩ := readOption_meets optionLike taken
    exact ih _ (meets reading option member attached before) later
  | case5 reading argument _ _ _ option waits _ ih =>
    exact ih (gives reading option argument waits before) done
  | case6 => cases done; exact before
  | case8 =>
    obtain ⟨_,plain,_⟩ := bind_ok.mp done
    exact absurd plain (readPlain_refused wordless _)

theorem read_answered (wordless : scope.word = none) (answered : reading.Answered)
    (done : scope.read reading arguments = .ok (inner,found)) : inner.Answered :=
  read_keeps Answered wordless (fun _ before => ⟨before.values,before.awaited⟩)
    (fun _ option _ attached before => before.meet option attached)
    (fun _ _ value waits before => before.give waits value) answered done

theorem check_cases (checked : scope.check reading = .ok received) :
    received = reading.received ∧ scope.sourceGiven received = true ∧
      scope.sources.countP received.has ≤ 1 ∧
      ∀ option ∈ scope.allOptions, checkOption received option = .ok () := by
  have complete : ¬ 1 < scope.sources.countP reading.received.has ∧
      ¬ (!scope.sourceGiven reading.received) = true ∧
      (do scope.allOptions.forM (checkOption reading.received); pure reading.received) = .ok received := by
    unfold check at checked
    dsimp only at checked
    split at checked
    · simp only [guard_ok] at checked
      exact checked.2.2
    · simpa only [guard_ok] using checked
  obtain ⟨one,given,passed⟩ := complete
  obtain ⟨_,each,same⟩ := bind_ok.mp passed
  cases same
  exact ⟨rfl,by simpa using given,Nat.not_lt.mp one,forM_ok.mp each⟩

theorem check_of_settled (idle : reading.awaiting = none)
    (given : scope.sourceGiven reading.received = true)
    (one : scope.sources.countP reading.received.has ≤ 1)
    (each : ∀ option ∈ scope.allOptions, checkOption reading.received option = .ok ()) :
    scope.check reading = .ok reading.received := by
  unfold check
  rw [idle]
  refine guard_ok.mpr ⟨Nat.not_lt.mpr one,guard_ok.mpr ⟨by simpa using given,?_⟩⟩
  exact bind_ok.mpr ⟨(),forM_ok.mpr each,rfl⟩

end Scope

theorem mem_values {received : Received} {key text : String} (given : received.value? key = some text) :
    (key,text) ∈ received.values := by
  obtain ⟨before,after,split,_⟩ := List.lookup_eq_some_iff.mp given
  exact split ▸ List.mem_append_right _ List.mem_cons_self

theorem valuesOf_isEmpty (received : Received) (key : String) :
    (received.valuesOf key).isEmpty = (received.value? key).isNone := by
  unfold Received.valuesOf Received.value?
  induction received.values with
  | nil => rfl
  | cons entry rest ih =>
    obtain ⟨other,value⟩ := entry
    by_cases same : other = key
    · subst same
      simp
    · have unequal : (key == other) = false := by simpa using fun equal => same equal.symm
      simpa [List.lookup_cons,same,unequal] using ih

namespace Scope
open Reading

variable {scope : Scope} {reading : Reading} {received : Received}

theorem check_value (answered : reading.Answered) (checked : scope.check reading = .ok received)
    {option : OptionSpec} (member : option ∈ scope.allOptions) :
    (received.value? option.key).isSome = received.has option := by
  obtain ⟨rfl,_,_,each⟩ := check_cases checked
  have passed := each option member
  cases met : reading.received.has option with
  | true =>
    unfold checkOption at passed
    dsimp only at passed
    rw [met,valuesOf_isEmpty] at passed
    cases value : reading.received.value? option.key with
    | none => rw [value] at passed; cases passed
    | some text => rfl
  | false =>
    cases value : reading.received.value? option.key with
    | none => rfl
    | some text =>
      have occurs : option.key ∈ reading.received.occurred := answered.values _ (mem_values value)
      unfold Received.has at met
      rw [List.contains_iff_mem.mpr occurs] at met
      cases met

theorem check_choice (answered : reading.Answered) (checked : scope.check reading = .ok received)
    {option : OptionSpec} (member : option ∈ scope.allOptions) (limited : option.choices ≠ []) {text : String}
    (given : received.value? option.key = some text) : text ∈ option.choices := by
  have met : received.has option = true := by
    rw [← check_value answered checked member,given]
    rfl
  obtain ⟨rfl,_,_,each⟩ := check_cases checked
  have passed := each option member
  have found : text ∈ reading.received.valuesOf option.key :=
    List.mem_map.mpr ⟨_,List.mem_filter.mpr ⟨mem_values given,beq_self_eq_true _⟩,rfl⟩
  cases refused : (reading.received.valuesOf option.key).find?
      (fun value => !option.choices.isEmpty && !option.choices.contains value) with
  | some value =>
    unfold checkOption at passed
    dsimp only at passed
    rw [met,valuesOf_isEmpty,given,refused] at passed
    cases passed
  | none =>
    have allowed := List.find?_eq_none.mp refused text found
    simpa [limited] using allowed

theorem check_sources (checked : scope.check reading = .ok received) (some : scope.sources ≠ []) :
    scope.sources.countP received.has = 1 := by
  obtain ⟨rfl,given,atMost,_⟩ := check_cases checked
  have positive : 0 < scope.sources.countP reading.received.has := by
    rw [List.countP_pos_iff]
    unfold sourceGiven at given
    simpa [some] using given
  omega

end Scope

namespace ProgramSpec

theorem checked_ok {scope : Scope} {reading : Reading} {received : Received}
    (passed : checked scope reading = .ok received) : scope.check reading = .ok received := by
  unfold checked at passed
  cases result : scope.check reading with
  | error misuse => rw [result] at passed; cases passed
  | ok kept => rw [result] at passed; cases passed; rfl

theorem checked_of_check {scope : Scope} {reading : Reading} {received : Received}
    (passed : scope.check reading = .ok received) : checked scope reading = .ok received := by
  unfold checked
  rw [passed]

-- How a command line comes to be accepted: both levels are read, and both pass their checks.
inductive Accepts (program : ProgramSpec) (arguments : List String) (selection : Selection) : Prop where
  | intro {outer inner : Reading} {rest : List String} {command : CommandSpec}
      {found : Option (String × List String)}
      (reaches : program.scope.read .start arguments = .ok (outer,some (selection.command,rest)))
      (runs : (selection.command == "help" && program.explainsItself) = false)
      (known : program.command? selection.command = some command)
      (reads : (program.scopeOf command).read .start rest = .ok (inner,found))
      (own : (program.scopeOf command).check inner = .ok selection.own)
      (common : program.scope.check outer = .ok selection.common)

theorem read_exact {program : ProgramSpec} {arguments : List String} {selection : Selection} :
    program.read arguments = .ok selection ↔ program.Accepts arguments selection := by
  constructor
  · intro accepted
    unfold read at accepted
    obtain ⟨⟨outer,found⟩,reaches,accepted⟩ := bind_ok.mp accepted
    cases found with
    | none => cases accepted
    | some chosen =>
      obtain ⟨name,rest⟩ := chosen
      dsimp only at accepted
      split at accepted
      · obtain ⟨_,_,stopped⟩ := bind_ok.mp accepted
        cases stopped
      · rename_i runs
        cases known : program.command? name with
        | none => rw [known] at accepted; cases accepted
        | some command =>
          rw [known] at accepted
          obtain ⟨⟨inner,_⟩,reads,accepted⟩ := bind_ok.mp accepted
          obtain ⟨own,passed,accepted⟩ := bind_ok.mp accepted
          obtain ⟨common,passed',accepted⟩ := bind_ok.mp accepted
          cases accepted
          exact .intro reaches (Bool.eq_false_iff.mpr runs) known reads (checked_ok passed) (checked_ok passed')
  · intro accepts
    obtain ⟨reaches,runs,known,reads,own,common⟩ := accepts
    refine bind_ok.mpr ⟨_,reaches,?_⟩
    dsimp only
    rw [if_neg (Bool.eq_false_iff.mp runs),known]
    exact bind_ok.mpr ⟨_,reads,bind_ok.mpr ⟨_,checked_of_check own,bind_ok.mpr ⟨_,checked_of_check common,rfl⟩⟩⟩

theorem read_cases {program : ProgramSpec} {arguments : List String} {selection : Selection}
    (accepted : program.read arguments = .ok selection) :
    ∃ command reading, program.command? selection.command = some command ∧
      (program.scopeOf command).check reading = .ok selection.own ∧
      (command.word = none → reading.Answered) := by
  obtain ⟨_,_,known,reads,own,_⟩ := read_exact.mp accepted
  exact ⟨_,_,known,own,fun wordless => Scope.read_answered wordless Reading.start_answered reads⟩

end ProgramSpec
end PropFormula
