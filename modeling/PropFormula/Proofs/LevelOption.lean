import PropFormula.Launcher
import PropFormula.Proofs.Tallies

namespace PropFormula

def spellsLevel (word : String) : Bool :=
  match word.toList with
  | '-' :: '-' :: _ =>
    levelOption.long ==
      String.ofList ((word.toList.dropWhile (· == '-')).takeWhile (· != '='))
  | _ => false

def carriesValue (word : String) : Bool := (word.toList.dropWhile (· == '-')).contains '='

def attached? (word : String) : Option (List Char) :=
  if carriesValue word then some ((word.toList.dropWhile (· == '-')).dropWhile (· != '=')) else none

theorem attached_isSome (word : String) : (attached? word).isSome = carriesValue word := by
  unfold attached?
  cases carriesValue word <;> rfl

-- The flag tells that the first word is the value of an option already taken off. After the word `--` there
-- are no options.
def withoutLevelFrom : Bool → List String → List String
  | _, [] => []
  | true, _ :: rest => withoutLevelFrom false rest
  | false, word :: rest =>
    if word == "--" then word :: rest
    else if spellsLevel word then withoutLevelFrom (!carriesValue word) rest
    else word :: withoutLevelFrom false rest

def withoutLevel (arguments : List String) : List String := withoutLevelFrom false arguments

theorem spellsLevel_isOptionLike {word : String} (spells : spellsLevel word = true) :
    isOptionLike word.toList = true := by
  unfold spellsLevel at spells
  split at spells
  · rename_i shape
    rw [shape]
    rfl
  · cases spells

theorem spellsLevel_goes {word : String} (spells : spellsLevel word = true) : ¬ (word == "--") = true := by
  intro ends
  have mute : spellsLevel "--" = false := by decide
  rw [eq_of_beq ends,mute] at spells
  cases spells

theorem spellsLevel_plain {word : String} (plain : ¬ isOptionLike word.toList = true) :
    spellsLevel word = false :=
  Bool.eq_false_iff.mpr fun spells => plain (spellsLevel_isOptionLike spells)

theorem withoutLevelFrom_kept {word : String} (goes : ¬ (word == "--") = true) (other : spellsLevel word = false)
    (rest : List String) : withoutLevelFrom false (word :: rest) = word :: withoutLevel rest := by
  rw [withoutLevelFrom,if_neg goes,if_neg (Bool.eq_false_iff.mp other)]
  rfl

theorem withoutLevelFrom_taken {word : String} (goes : ¬ (word == "--") = true)
    (spells : spellsLevel word = true) (rest : List String) :
    withoutLevelFrom false (word :: rest) = withoutLevelFrom (!carriesValue word) rest := by
  rw [withoutLevelFrom,if_neg goes,if_pos spells]

theorem withoutLevel_idempotent (skips : Bool) (arguments : List String) :
    withoutLevel (withoutLevelFrom skips arguments) = withoutLevelFrom skips arguments := by
  fun_induction withoutLevelFrom skips arguments with
  | case1 => rfl
  | case2 _ _ ih => exact ih
  | case3 word rest ends => rw [withoutLevel,withoutLevelFrom,if_pos ends]
  | case4 _ _ _ _ ih => exact ih
  | case5 word rest goes other ih =>
    rw [withoutLevel,withoutLevelFrom,if_neg goes,if_neg other]
    exact congrArg (word :: ·) ih

namespace Received

def withoutLevel (received : Received) : Received where
  occurred := received.occurred.filter (fun key => key != levelOption.key)
  values := received.values.filter (fun entry => entry.1 != levelOption.key)

theorem value?_withoutLevel (received : Received) {key : String} (other : key ≠ levelOption.key) :
    received.withoutLevel.value? key = received.value? key := by
  unfold value? withoutLevel
  dsimp only
  induction received.values with
  | nil => rfl
  | cons entry rest ih =>
    obtain ⟨name,value⟩ := entry
    by_cases same : name = levelOption.key
    · have unequal : (key == name) = false := by simpa [same] using other
      rw [List.filter_cons_of_neg (by simp [same]),ih,List.lookup_cons,unequal]
    · rw [List.filter_cons_of_pos (by simp [same]),List.lookup_cons,List.lookup_cons,ih]

theorem value?_level_withoutLevel (received : Received) :
    received.withoutLevel.value? levelOption.key = Option.none := by
  unfold value? withoutLevel
  rw [List.lookup_eq_none_iff]
  intro entry member
  have other := (List.mem_filter.mp member).2
  simpa using fun same => (bne_iff_ne.mp other) same.symm

theorem valuesOf_withoutLevel (received : Received) {key : String} (other : key ≠ levelOption.key) :
    received.withoutLevel.valuesOf key = received.valuesOf key := by
  unfold valuesOf withoutLevel
  rw [List.filter_filter]
  congr 1
  apply List.filter_congr
  intro entry _
  by_cases same : entry.1 = key
  · simp [same,other]
  · simp [same]

theorem count_withoutLevel (received : Received) {key : String} (other : key ≠ levelOption.key) :
    received.withoutLevel.occurred.count key = received.occurred.count key :=
  List.count_filter (by simpa using other)

theorem has_withoutLevel (received : Received) {option : OptionSpec} (other : option.key ≠ levelOption.key) :
    received.withoutLevel.has option = received.has option := by
  unfold has
  rw [Bool.eq_iff_iff,List.contains_iff_mem,List.contains_iff_mem,withoutLevel,List.mem_filter]
  simp [other]

end Received

namespace Reading

def withoutLevel (reading : Reading) : Reading where
  received := reading.received.withoutLevel
  awaiting := if reading.awaiting = some levelOption then none else reading.awaiting
  plainOnly := reading.plainOnly

variable {reading : Reading}

theorem awaiting_withoutLevel {awaiting : Option OptionSpec} (waits : reading.awaiting = awaiting)
    (other : awaiting ≠ some levelOption) : reading.withoutLevel.awaiting = awaiting := by
  rw [withoutLevel,waits]
  exact if_neg other

theorem idle_withoutLevel (idle : reading.awaiting = none) : reading.withoutLevel.awaiting = none :=
  awaiting_withoutLevel idle (Option.some_ne_none levelOption).symm

theorem settled_withoutLevel (idle : reading.withoutLevel.awaiting = none) :
    {reading.withoutLevel with awaiting := none} = reading.withoutLevel := by
  rw [← idle]

theorem withoutLevel_meet_level (reading : Reading) (attached : Option (List Char)) :
    (reading.meet levelOption attached).withoutLevel =
      {reading.withoutLevel with awaiting := none} := by
  cases attached with
  | none => simp [meet,occur,withoutLevel,Received.withoutLevel]
  | some characters => simp [meet,occur,give,withoutLevel,Received.withoutLevel]

theorem withoutLevel_meet (reading : Reading) {option : OptionSpec} (other : option.key ≠ levelOption.key)
    (attached : Option (List Char)) :
    (reading.meet option attached).withoutLevel = reading.withoutLevel.meet option attached := by
  have distinct : option ≠ levelOption := by
    intro same
    exact other (congrArg OptionSpec.key same)
  cases attached with
  | none => simp [meet,occur,withoutLevel,Received.withoutLevel,other,distinct]
  | some characters => simp [meet,occur,give,withoutLevel,Received.withoutLevel,other]

theorem awaits_meet_level (reading : Reading) (attached : Option (List Char)) :
    ((reading.meet levelOption attached).awaiting == some levelOption) = !attached.isSome := by
  cases attached <;> rfl

theorem awaits_meet (reading : Reading) {option : OptionSpec} (other : option.key ≠ levelOption.key)
    (attached : Option (List Char)) :
    ((reading.meet option attached).awaiting == some levelOption) = false := by
  cases attached with
  | none =>
    rw [beq_eq_false_iff_ne]
    intro same
    exact other (congrArg OptionSpec.key (Option.some.inj same))
  | some characters => rfl

theorem withoutLevel_give_level (reading : Reading) (value : String) :
    Reading.withoutLevel {reading.give levelOption.key value with awaiting := none} =
      {reading.withoutLevel with awaiting := none} := by
  simp [give,withoutLevel,Received.withoutLevel]

theorem withoutLevel_give (reading : Reading) {option : OptionSpec} (other : option.key ≠ levelOption.key)
    (value : String) :
    Reading.withoutLevel {reading.give option.key value with awaiting := none} =
      {reading.withoutLevel.give option.key value with awaiting := none} := by
  simp [give,withoutLevel,Received.withoutLevel,other]

end Reading

namespace Scope
open Reading

variable {scope : Scope} {reading inner : Reading} {received : Received} {arguments : List String}
  {found : Option (String × List String)}

-- The option for the level is one of the options here, and neither a source nor a plain word gets in its way.
structure TakesLevel (scope : Scope) : Prop where
  wordless : scope.word = none
  known : scope.allOptions.find? (fun option => option.long == levelOption.long) = some levelOption
  only : ∀ option ∈ scope.allOptions, option.key = levelOption.key → option = levelOption
  sourceless : ∀ option ∈ scope.sources, option.key ≠ levelOption.key
  named : ∀ name ∈ scope.commands, ¬ isOptionLike name.toList = true

theorem TakesLevel.member (takes : scope.TakesLevel) : levelOption ∈ scope.allOptions :=
  List.mem_of_find?_eq_some takes.known

theorem readOption_level (takes : scope.TakesLevel) {word : String} (spells : spellsLevel word = true)
    (reading : Reading) :
    scope.readOption reading word.toList = .ok (reading.meet levelOption (attached? word)) := by
  unfold spellsLevel at spells
  split at spells
  · rename_i rest shape
    unfold readOption attached? carriesValue
    dsimp only
    rw [shape] at spells ⊢
    unfold readLong
    dsimp only
    rw [← eq_of_beq spells,takes.known]
    rfl
  · cases spells

theorem readOption_other (takes : scope.TakesLevel) {word : String} (other : spellsLevel word = false)
    (optionLike : isOptionLike word.toList = true) (done : scope.readOption reading word.toList = .ok inner) :
    ∃ option ∈ scope.allOptions, ∃ attached, option.key ≠ levelOption.key ∧
      inner = reading.meet option attached ∧
      ∀ another : Reading, scope.readOption another word.toList = .ok (another.meet option attached) := by
  obtain ⟨option,member,attached,same,always,spelled⟩ := readOption_meets optionLike done
  refine ⟨option,member,attached,?_,same,always⟩
  intro key
  cases takes.only option member key
  rcases spelled with ⟨rest,shape,long⟩ | short
  · unfold spellsLevel at other
    rw [shape] at other long
    rw [← long] at other
    simp at other
  · cases short

theorem read_ends (reading : Reading) (unplain : ¬ reading.plainOnly = true) :
    scope.read reading ["--"] = .ok ({reading with plainOnly := true},none) := by
  rw [Scope.read,if_neg unplain,if_pos (by decide),Scope.read]

theorem read_plainOnly (wordless : scope.word = none) (plain : reading.plainOnly = true)
    (done : scope.read reading arguments = .ok (inner,found)) :
    arguments = [] ∧ inner = reading ∧ found = none := by
  cases arguments with
  | nil =>
    cases done
    exact ⟨rfl,rfl,rfl⟩
  | cons argument rest =>
    rw [Scope.read,if_pos plain] at done
    obtain ⟨_,taken,_⟩ := bind_ok.mp done
    exact absurd taken (readPlain_refused wordless _)

-- The induction follows the reading of the whole line. Its state is the option still awaited, for which the
-- words that are kept must not be mistaken; that no other option is met meanwhile is what `complete` is for.
theorem read_withoutLevel (takes : scope.TakesLevel) (orderly : scope.Orderly reading)
    (complete : scope.Complete inner) (done : scope.read reading arguments = .ok (inner,found)) :
    scope.read reading.withoutLevel (withoutLevelFrom (reading.awaiting == some levelOption) arguments) =
      .ok (inner.withoutLevel,found.map fun chosen => (chosen.1,PropFormula.withoutLevel chosen.2)) := by
  fun_induction Scope.read scope reading arguments with
  | case1 =>
    cases done
    simp [withoutLevelFrom,Scope.read]
  | case2 =>
    obtain ⟨_,plain,_⟩ := bind_ok.mp done
    exact absurd plain (readPlain_refused takes.wordless _)
  | case3 reading argument rest unplain ends ih =>
    obtain ⟨rfl,rfl,rfl⟩ := read_plainOnly takes.wordless rfl done
    have idle : reading.awaiting = none := complete.settled ⟨orderly.tallied,orderly.known⟩
    rw [eq_of_beq ends,idle]
    refine (read_ends reading.withoutLevel unplain).trans ?_
    simp [Reading.withoutLevel,idle]
  | case4 reading argument rest _ _ waiting waits optionLike ih =>
    obtain ⟨next,taken,later⟩ := bind_ok.mp done
    obtain ⟨option,_,attached,rfl,_⟩ := readOption_meets optionLike taken
    have owes : Owes _ waiting.key := orderly.owes_meet waits option attached
    exact absurd (owes_read takes.wordless owes later) (complete.not_owes (orderly.known waiting waits))
  | case5 reading argument rest unplain goes option waits unlike ih =>
    have later := ih (orderly.give waits argument) done
    by_cases level : option = levelOption
    · -- The word is the value of the option taken off.
      subst level
      have idle : reading.withoutLevel.awaiting = none := by simp [Reading.withoutLevel,waits]
      rw [withoutLevel_give_level,settled_withoutLevel idle] at later
      rw [waits]
      exact later
    · have other : option.key ≠ levelOption.key := fun key =>
        level (takes.only option (orderly.known option waits) key)
      have distinct : some option ≠ some levelOption := fun same => level (Option.some.inj same)
      rw [withoutLevel_give reading other] at later
      rw [waits,beq_eq_false_iff_ne.mpr distinct,withoutLevelFrom_kept goes (spellsLevel_plain unlike),
        read_value (awaiting_withoutLevel waits distinct) unplain goes unlike]
      exact later
  | case6 reading argument rest unplain goes idle command =>
    cases done
    have plain := takes.named argument (List.contains_iff_mem.mp command)
    rw [idle]
    refine (congrArg _ (withoutLevelFrom_kept goes (spellsLevel_plain plain) rest)).trans ?_
    exact read_chosen (idle_withoutLevel idle) unplain goes command _
  | case7 reading argument rest unplain goes idle free optionLike ih =>
    obtain ⟨next,taken,later⟩ := bind_ok.mp done
    rw [idle]
    cases spells : spellsLevel argument with
    | true =>
      cases (readOption_level takes spells reading).symm.trans taken
      have later' := ih _ (orderly.meet takes.member _) later
      rw [awaits_meet_level,withoutLevel_meet_level,attached_isSome,
        settled_withoutLevel (idle_withoutLevel idle)] at later'
      exact (congrArg _ (withoutLevelFrom_taken goes spells rest)).trans later'
    | false =>
      obtain ⟨option,member,attached,other,rfl,always⟩ := readOption_other takes spells optionLike taken
      have later' := ih _ (orderly.meet member attached) later
      rw [awaits_meet reading other,withoutLevel_meet reading other] at later'
      refine (congrArg _ (withoutLevelFrom_kept goes spells rest)).trans ?_
      rw [read_met (idle_withoutLevel idle) unplain goes free optionLike (always reading.withoutLevel)]
      exact later'
  | case8 =>
    obtain ⟨_,plain,_⟩ := bind_ok.mp done
    exact absurd plain (readPlain_refused takes.wordless _)

end Scope
end PropFormula
