import PropFormula.Proofs.Accepted

namespace PropFormula

namespace Reading

def met (reading : Reading) (key : String) : Nat := reading.received.occurred.count key

-- The values that options of this key have got, or are about to get.
def filled (reading : Reading) (key : String) : Nat :=
  (reading.received.valuesOf key).length + if reading.awaiting.map OptionSpec.key = some key then 1 else 0

-- An option whose value was put off by another one stays without it for good.
def Owes (reading : Reading) (key : String) : Prop := reading.filled key < reading.met key

variable {reading : Reading}

theorem met_meet (reading : Reading) (option : OptionSpec) (attached : Option (List Char)) (key : String) :
    (reading.meet option attached).met key = reading.met key + if option.key = key then 1 else 0 := by
  have counted : (reading.received.occurred ++ [option.key]).count key =
      reading.received.occurred.count key + if option.key = key then 1 else 0 := by
    rw [List.count_append,List.count_singleton]
    simp
  cases attached <;> exact counted

theorem filled_meet (reading : Reading) (option : OptionSpec) (attached : Option (List Char)) (key : String) :
    (reading.meet option attached).filled key =
      (reading.received.valuesOf key).length + if option.key = key then 1 else 0 := by
  cases attached with
  | none => simp [meet,occur,filled,Received.valuesOf]
  | some characters =>
    by_cases same : option.key = key
    · simp [meet,occur,give,filled,Received.valuesOf,same]
    · simp [meet,occur,give,filled,Received.valuesOf,same]

theorem filled_give {option : OptionSpec} (waits : reading.awaiting = some option) (value key : String) :
    filled {reading.give option.key value with awaiting := none} key = reading.filled key := by
  by_cases same : option.key = key
  · simp [give,filled,Received.valuesOf,waits,same]
  · simp [give,filled,Received.valuesOf,waits,same]

theorem Owes.meet {key : String} (owes : reading.Owes key) (option : OptionSpec)
    (attached : Option (List Char)) : (reading.meet option attached).Owes key := by
  unfold Owes filled at owes
  unfold Owes
  rw [met_meet,filled_meet]
  omega

theorem Owes.give {key : String} (owes : reading.Owes key) {option : OptionSpec}
    (waits : reading.awaiting = some option) (value : String) :
    Owes {reading.give option.key value with awaiting := none} key := by
  unfold Owes
  rw [filled_give waits]
  exact owes

end Reading

namespace Scope
open Reading

variable {scope : Scope} {reading inner : Reading} {received : Received} {arguments : List String}
  {found : Option (String × List String)}

structure Orderly (scope : Scope) (reading : Reading) : Prop where
  tallied : ∀ key, reading.filled key ≤ reading.met key
  known : ∀ option ∈ reading.awaiting, option ∈ scope.allOptions

theorem start_orderly (scope : Scope) : scope.Orderly .start := ⟨fun _ => Nat.le_refl 0,nofun⟩

theorem Orderly.meet (orderly : scope.Orderly reading) {option : OptionSpec}
    (member : option ∈ scope.allOptions) (attached : Option (List Char)) :
    scope.Orderly (reading.meet option attached) := by
  constructor
  · intro key
    have before := orderly.tallied key
    rw [met_meet,filled_meet]
    unfold filled at before
    omega
  · cases attached with
    | none =>
      intro waiting waits
      cases waits
      exact member
    | some characters => exact nofun

theorem Orderly.give (orderly : scope.Orderly reading) {option : OptionSpec}
    (waits : reading.awaiting = some option) (value : String) :
    scope.Orderly {reading.give option.key value with awaiting := none} := by
  refine ⟨?_,nofun⟩
  intro key
  rw [filled_give waits]
  exact orderly.tallied key

theorem Orderly.owes_meet (orderly : scope.Orderly reading) {waiting : OptionSpec}
    (waits : reading.awaiting = some waiting) (option : OptionSpec) (attached : Option (List Char)) :
    (reading.meet option attached).Owes waiting.key := by
  have before := orderly.tallied waiting.key
  unfold filled at before
  rw [waits] at before
  unfold Owes
  rw [met_meet,filled_meet]
  simp only [Option.map_some,if_true] at before
  omega

theorem read_orderly (wordless : scope.word = none) (orderly : scope.Orderly reading)
    (done : scope.read reading arguments = .ok (inner,found)) : scope.Orderly inner :=
  read_keeps scope.Orderly wordless (fun _ before => ⟨before.tallied,before.known⟩)
    (fun _ _ member attached before => before.meet member attached)
    (fun _ _ value waits before => before.give waits value) orderly done

theorem owes_read {key : String} (wordless : scope.word = none) (owes : reading.Owes key)
    (done : scope.read reading arguments = .ok (inner,found)) : inner.Owes key :=
  read_keeps (fun reading => reading.Owes key) wordless (fun _ before => before)
    (fun _ option _ attached before => before.meet option attached) (fun _ _ value waits before => before.give waits value) owes done

-- Every option met has got its value.
def Complete (scope : Scope) (reading : Reading) : Prop :=
  ∀ option ∈ scope.allOptions, reading.met option.key ≤ (reading.received.valuesOf option.key).length

theorem check_complete (checked : scope.check reading = .ok received) : scope.Complete reading := by
  obtain ⟨rfl,_,_,each⟩ := check_cases checked
  intro option member
  have passed := each option member
  unfold checkOption at passed
  dsimp only at passed
  unfold met
  split at passed
  · rename_i absent
    have none : option.key ∉ reading.received.occurred := by
      simpa [Received.has] using absent
    rw [List.count_eq_zero.mpr none]
    exact Nat.zero_le _
  · split at passed
    · cases passed
    · rename_i filled
      have some : 0 < (reading.received.valuesOf option.key).length := by
        rw [List.length_pos_iff]
        simpa using filled
      split at passed
      · cases passed
      · split at passed
        · cases passed
        · omega

theorem Complete.not_owes (complete : scope.Complete reading) {option : OptionSpec}
    (member : option ∈ scope.allOptions) : ¬ reading.Owes option.key := by
  intro owes
  have enough := complete option member
  unfold Owes filled at owes
  omega

theorem Complete.settled (complete : scope.Complete reading) (orderly : scope.Orderly reading) :
    reading.awaiting = none := by
  cases waits : reading.awaiting with
  | none => rfl
  | some option =>
    have enough := complete option (orderly.known option waits)
    have few := orderly.tallied option.key
    unfold filled at few
    rw [waits] at few
    simp only [Option.map_some,if_true] at few
    omega

end Scope
end PropFormula
