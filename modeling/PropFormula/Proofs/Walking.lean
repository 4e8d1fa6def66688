import PropFormula.Formula.Walk

namespace PropFormula
namespace Walker
variable {ε σ : Type}

def handleAll (walker : Walker ε σ) : List Formula → EStateM ε σ Unit
  | [] => pure ()
  | node :: rest => do walker.handle node; walker.handleAll rest

def along (walker : Walker ε σ) : List Formula → EStateM ε σ Bool
  | [] => pure false
  | node :: rest => do
    walker.handle node
    if walker.stopped (← get) then pure true else walker.along rest

-- The same walker, which also writes down every node it is given.
def traced (walker : Walker ε σ) : Walker ε (σ × List Formula) where
  handle node := fun (state,handled) =>
    match walker.handle node state with
    | .ok () after => .ok () (after,handled ++ [node])
    | .error fault after => .error fault (after,handled ++ [node])
  stopped := fun (state,_) => walker.stopped state

-- The stack of subtrees is traded for the list of nodes still to come.
theorem walk_along (walker : Walker ε σ) (pending : List Formula) :
    walker.walk pending = walker.along (Formula.preorderAll pending) := by
  induction size : Formula.sizeAll pending using Nat.strongRecOn generalizing pending with
  | ind _ ih =>
    cases pending with
    | nil => rw [walk_done,Formula.preorderAll,along]
    | cons formula pending =>
      have smaller : Formula.sizeAll (formula.operands ++ pending) < Formula.sizeAll (formula :: pending) := by
        simp only [Formula.sizeAll_append,Formula.sizeAll,Formula.size_eq formula]
        omega
      have next := ih _ (size ▸ smaller) (formula.operands ++ pending) rfl
      rw [walk_step,Formula.preorderAll,Formula.preorder_eq,List.cons_append,
        ← Formula.preorderAll_append,along,next]

theorem traverse_along (walker : Walker ε σ) (tree : Formula) :
    walker.traverse tree = walker.along tree.preorder := by
  rw [traverse,walk_along,Formula.preorderAll,Formula.preorderAll,List.append_nil]

section
variable (walker : Walker ε σ) (nodes : List Formula) (start : σ)

def Halts (count : Nat) (state : σ) : Prop :=
  (walker.handleAll (nodes.take count)).run start = .ok () state ∧ walker.stopped state = true

def Quiet (count : Nat) : Prop :=
  ∀ earlier, 0 < earlier → earlier ≤ count → ∀ state, ¬ walker.Halts nodes start earlier state

-- The node at this place is the first to leave a state that asks for a stop.
structure StopsAt (place : Nat) (state : σ) : Prop where
  inside : place < nodes.length
  halts : walker.Halts nodes start (place + 1) state
  quiet : walker.Quiet nodes start place

-- The node at this place is the first at which the handler faults, and no stop was asked for before it.
structure FaultsAt (place : Nat) (fault : ε) (state : σ) : Prop where
  faults : ∃ before node, (walker.handleAll (nodes.take place)).run start = .ok () before ∧
    nodes[place]? = some node ∧ (walker.handle node).run before = .error fault state
  quiet : walker.Quiet nodes start place

structure Passes (state : σ) : Prop where
  handled : (walker.handleAll nodes).run start = .ok () state
  quiet : walker.Quiet nodes start nodes.length

end

-- What a result says of the walk, the nodes written down before it put aside.
def Describes (walker : Walker ε σ) (nodes : List Formula) (start : σ) (seen : List Formula) :
    EStateM.Result ε (σ × List Formula) Bool → Prop
  | .ok true (state,handled) =>
    ∃ place, walker.StopsAt nodes start place state ∧ handled = seen ++ nodes.take (place + 1)
  | .ok false (state,handled) => walker.Passes nodes start state ∧ handled = seen ++ nodes
  | .error fault (state,handled) =>
    ∃ place, walker.FaultsAt nodes start place fault state ∧ handled = seen ++ nodes.take (place + 1)

def untraced {α : Type} : EStateM.Result ε (σ × List Formula) α → EStateM.Result ε σ α
  | .ok answer (state,_) => .ok answer state
  | .error fault (state,_) => .error fault state

section
variable {walker : Walker ε σ} {node : Formula} {rest seen handled : List Formula} {start next state : σ}
  {place count : Nat} {fault : ε}

theorem handleAll_succ (went : (walker.handle node).run start = .ok () next) :
    (walker.handleAll ((node :: rest).take (count + 1))).run start =
      (walker.handleAll (rest.take count)).run next := by
  rw [List.take_succ_cons,handleAll,EStateM.run_bind,went]

theorem handleAll_fault (faulted : (walker.handle node).run start = .error fault next) :
    (walker.handleAll ((node :: rest).take (count + 1))).run start = .error fault next := by
  rw [List.take_succ_cons,handleAll,EStateM.run_bind,faulted]

theorem quiet_zero (nodes : List Formula) : walker.Quiet nodes start 0 :=
  fun _ positive none => absurd positive (Nat.not_lt.mpr none)

theorem halts_zero (nodes : List Formula) :
    walker.Halts nodes start 0 state ↔ start = state ∧ walker.stopped state = true := by
  rw [Halts,List.take_zero,handleAll,EStateM.run_pure]
  simp

theorem halts_succ (went : (walker.handle node).run start = .ok () next) :
    walker.Halts (node :: rest) start (count + 1) state ↔ walker.Halts rest next count state := by
  rw [Halts,Halts,handleAll_succ went]

theorem quiet_succ (went : (walker.handle node).run start = .ok () next) :
    walker.Quiet (node :: rest) start (count + 1) ↔
      walker.stopped next = false ∧ walker.Quiet rest next count := by
  constructor
  · intro quiet
    refine ⟨?_,?_⟩
    · have first := quiet 1 Nat.one_pos (Nat.le_add_left 1 count) next
      rw [halts_succ went,halts_zero] at first
      simpa using first
    · intro earlier positive bound other halts
      exact quiet (earlier + 1) (Nat.succ_pos _) (Nat.succ_le_succ bound) other ((halts_succ went).mpr halts)
  · rintro ⟨going,quiet⟩ earlier positive bound other halts
    obtain ⟨before,rfl⟩ := Nat.exists_eq_add_one.mpr positive
    rw [halts_succ went] at halts
    cases before with
    | zero =>
      obtain ⟨rfl,asked⟩ := (halts_zero rest).mp halts
      rw [going] at asked
      cases asked
    | succ before => exact quiet _ (Nat.succ_pos _) (Nat.le_of_succ_le_succ bound) other halts

theorem stopsAt_zero (went : (walker.handle node).run start = .ok () next) :
    walker.StopsAt (node :: rest) start 0 state ↔ next = state ∧ walker.stopped state = true := by
  constructor
  · rintro ⟨_,halts,_⟩
    exact (halts_zero rest).mp ((halts_succ went).mp halts)
  · intro asked
    exact ⟨Nat.succ_pos _,(halts_succ went).mpr ((halts_zero rest).mpr asked),quiet_zero _⟩

theorem stopsAt_succ (went : (walker.handle node).run start = .ok () next) :
    walker.StopsAt (node :: rest) start (place + 1) state ↔
      walker.stopped next = false ∧ walker.StopsAt rest next place state := by
  constructor
  · rintro ⟨inside,halts,quiet⟩
    obtain ⟨going,later⟩ := (quiet_succ went).mp quiet
    exact ⟨going,Nat.lt_of_succ_lt_succ inside,(halts_succ went).mp halts,later⟩
  · rintro ⟨going,inside,halts,quiet⟩
    exact ⟨Nat.succ_lt_succ inside,(halts_succ went).mpr halts,(quiet_succ went).mpr ⟨going,quiet⟩⟩

theorem faultsAt_zero :
    walker.FaultsAt (node :: rest) start 0 fault state ↔
      (walker.handle node).run start = .error fault state := by
  constructor
  · rintro ⟨⟨before,found,none,here,faulted⟩,_⟩
    cases none
    cases here
    exact faulted
  · intro faulted
    exact ⟨⟨start,node,rfl,rfl,faulted⟩,quiet_zero _⟩

theorem faultsAt_succ (went : (walker.handle node).run start = .ok () next) :
    walker.FaultsAt (node :: rest) start (place + 1) fault state ↔
      walker.stopped next = false ∧ walker.FaultsAt rest next place fault state := by
  constructor
  · rintro ⟨⟨before,found,ran,here,faulted⟩,quiet⟩
    obtain ⟨going,others⟩ := (quiet_succ went).mp quiet
    exact ⟨going,⟨before,found,(handleAll_succ went).symm.trans ran,here,faulted⟩,others⟩
  · rintro ⟨going,⟨before,found,ran,here,faulted⟩,quiet⟩
    exact ⟨⟨before,found,(handleAll_succ went).trans ran,here,faulted⟩,(quiet_succ went).mpr ⟨going,quiet⟩⟩

theorem passes_cons (went : (walker.handle node).run start = .ok () next) :
    walker.Passes (node :: rest) start state ↔
      walker.stopped next = false ∧ walker.Passes rest next state := by
  have later : (walker.handleAll (node :: rest)).run start = (walker.handleAll rest).run next := by
    rw [handleAll,EStateM.run_bind,went]
  constructor
  · rintro ⟨ran,quiet⟩
    obtain ⟨going,others⟩ := (quiet_succ went).mp quiet
    exact ⟨going,later ▸ ran,others⟩
  · rintro ⟨going,ran,quiet⟩
    exact ⟨later.trans ran,(quiet_succ went).mpr ⟨going,quiet⟩⟩

theorem traced_fault (faulted : (walker.handle node).run start = .error fault next) :
    (walker.traced.along (node :: rest)).run (start,seen) = .error fault (next,seen ++ [node]) := by
  have wrote : (walker.traced.handle node).run (start,seen) = .error fault (next,seen ++ [node]) := by
    unfold traced
    simp only [EStateM.run] at faulted ⊢
    rw [faulted]
  rw [along,EStateM.run_bind,wrote]

theorem traced_step (went : (walker.handle node).run start = .ok () next) :
    (walker.traced.along (node :: rest)).run (start,seen) =
      if walker.stopped next then .ok true (next,seen ++ [node])
      else (walker.traced.along rest).run (next,seen ++ [node]) := by
  have wrote : (walker.traced.handle node).run (start,seen) = .ok () (next,seen ++ [node]) := by
    unfold traced
    simp only [EStateM.run] at went ⊢
    rw [went]
  rw [along,EStateM.run_bind,wrote]
  simp only [EStateM.run_bind,EStateM.run_get]
  have same : walker.traced.stopped (next,seen ++ [node]) = walker.stopped next := rfl
  rw [same]
  cases walker.stopped next <;> rfl

theorem describes_fault (faulted : (walker.handle node).run start = .error fault next)
    (result : EStateM.Result ε (σ × List Formula) Bool) :
    walker.Describes (node :: rest) start seen result ↔ .error fault (next,seen ++ [node]) = result := by
  match result with
  | .ok true (state,handled) =>
    refine ⟨?_,nofun⟩
    rintro ⟨_,⟨_,⟨ran,_⟩,_⟩,_⟩
    rw [handleAll_fault faulted] at ran
    cases ran
  | .ok false (state,handled) =>
    refine ⟨?_,nofun⟩
    rintro ⟨⟨ran,_⟩,_⟩
    rw [handleAll,EStateM.run_bind,faulted] at ran
    cases ran
  | .error other (state,handled) =>
    constructor
    · rintro ⟨place,faults,rfl⟩
      cases place with
      | zero =>
        rw [faultsAt_zero,faulted] at faults
        cases faults
        rfl
      | succ place =>
        obtain ⟨⟨_,_,ran,_,_⟩,_⟩ := faults
        rw [handleAll_fault faulted] at ran
        cases ran
    · rintro ⟨⟩
      exact ⟨0,faultsAt_zero.mpr faulted,rfl⟩

theorem describes_stop (went : (walker.handle node).run start = .ok () next)
    (asked : walker.stopped next = true) (result : EStateM.Result ε (σ × List Formula) Bool) :
    walker.Describes (node :: rest) start seen result ↔ .ok true (next,seen ++ [node]) = result := by
  match result with
  | .ok true (state,handled) =>
    constructor
    · rintro ⟨place,stops,rfl⟩
      cases place with
      | zero =>
        obtain ⟨rfl,_⟩ := (stopsAt_zero went).mp stops
        rfl
      | succ place =>
        obtain ⟨going,_⟩ := (stopsAt_succ went).mp stops
        rw [asked] at going
        cases going
    · rintro ⟨⟩
      exact ⟨0,(stopsAt_zero went).mpr ⟨rfl,asked⟩,rfl⟩
  | .ok false (state,handled) =>
    refine ⟨?_,nofun⟩
    rintro ⟨passes,_⟩
    obtain ⟨going,_⟩ := (passes_cons went).mp passes
    rw [asked] at going
    cases going
  | .error fault (state,handled) =>
    refine ⟨?_,nofun⟩
    rintro ⟨place,faults,_⟩
    cases place with
    | zero =>
      rw [faultsAt_zero,went] at faults
      cases faults
    | succ place =>
      obtain ⟨going,_⟩ := (faultsAt_succ went).mp faults
      rw [asked] at going
      cases going

theorem describes_go (went : (walker.handle node).run start = .ok () next)
    (going : walker.stopped next = false) (result : EStateM.Result ε (σ × List Formula) Bool) :
    walker.Describes (node :: rest) start seen result ↔
      walker.Describes rest next (seen ++ [node]) result := by
  match result with
  | .ok true (state,handled) =>
    constructor
    · rintro ⟨place,stops,rfl⟩
      cases place with
      | zero =>
        obtain ⟨rfl,asked⟩ := (stopsAt_zero went).mp stops
        rw [going] at asked
        cases asked
      | succ place => exact ⟨place,((stopsAt_succ went).mp stops).2,by simp⟩
    · rintro ⟨place,stops,rfl⟩
      exact ⟨place + 1,(stopsAt_succ went).mpr ⟨going,stops⟩,by simp⟩
  | .ok false (state,handled) =>
    simp [Describes,passes_cons went,going]
  | .error fault (state,handled) =>
    constructor
    · rintro ⟨place,faults,rfl⟩
      cases place with
      | zero =>
        rw [faultsAt_zero,went] at faults
        cases faults
      | succ place => exact ⟨place,((faultsAt_succ went).mp faults).2,by simp⟩
    · rintro ⟨place,faults,rfl⟩
      exact ⟨place + 1,(faultsAt_succ went).mpr ⟨going,faults⟩,by simp⟩

theorem describes_nil (result : EStateM.Result ε (σ × List Formula) Bool) :
    walker.Describes [] start seen result ↔ .ok false (start,seen) = result := by
  match result with
  | .ok true (state,handled) =>
    refine ⟨?_,nofun⟩
    rintro ⟨_,⟨inside,_,_⟩,_⟩
    cases inside
  | .ok false (state,handled) =>
    constructor
    · rintro ⟨⟨ran,_⟩,rfl⟩
      cases ran
      rw [List.append_nil]
    · rintro ⟨⟩
      exact ⟨⟨rfl,quiet_zero []⟩,(List.append_nil _).symm⟩
  | .error fault (state,handled) =>
    refine ⟨?_,nofun⟩
    rintro ⟨_,⟨⟨_,_,_,here,_⟩,_⟩,_⟩
    cases here

theorem along_exact (nodes : List Formula) (result : EStateM.Result ε (σ × List Formula) Bool) :
    (walker.traced.along nodes).run (start,seen) = result ↔ walker.Describes nodes start seen result := by
  induction nodes generalizing start seen with
  | nil => exact (describes_nil result).symm
  | cons node rest ih =>
    cases came : (walker.handle node).run start with
    | error fault next => rw [traced_fault came,describes_fault came]
    | ok _ next =>
      rw [traced_step came]
      cases asked : walker.stopped next with
      | true => rw [if_pos rfl,describes_stop came asked]
      | false => rw [if_neg nofun,describes_go came asked,ih]

theorem along_untraced (nodes : List Formula) :
    (walker.along nodes).run start = untraced ((walker.traced.along nodes).run (start,seen)) := by
  induction nodes generalizing start seen with
  | nil => rfl
  | cons node rest ih =>
    cases came : (walker.handle node).run start with
    | error fault next =>
      rw [traced_fault came,along,EStateM.run_bind,came]
      rfl
    | ok _ next =>
      rw [traced_step came,along,EStateM.run_bind,came]
      simp only [EStateM.run_bind,EStateM.run_get]
      cases walker.stopped next with
      | true => rfl
      | false => exact ih

end

-- The walk ends as it does without being traced, and traced it ends just as described.
theorem traverse_follows_preorder (walker : Walker ε σ) (tree : Formula) (start : σ) :
    (∀ result, (walker.traced.traverse tree).run (start,[]) = result ↔
      walker.Describes tree.preorder start [] result) ∧
    (walker.traverse tree).run start = untraced ((walker.traced.traverse tree).run (start,[])) := by
  rw [traverse_along,traverse_along]
  exact ⟨along_exact tree.preorder,along_untraced tree.preorder⟩

end Walker
end PropFormula
