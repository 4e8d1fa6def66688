import PropFormula.Formula.Shape
import PropFormula.Proofs.Walking

namespace PropFormula

inductive TesterCall where
  | test (tree : Formula)
  | visit (tree : Formula)
  | traverse (tree : Formula)

namespace TesterCall

def scope : TesterCall → List Formula
  | .test tree => [tree]
  | .visit tree => [tree]
  | .traverse tree => tree.preorder

def resets : TesterCall → Bool
  | .test _ => true
  | .visit _ => false
  | .traverse _ => false

def answer : TesterCall → Bool → Option Bool
  | .test _, raised => some !raised
  | .visit _, _ => none
  | .traverse _, raised => some raised

end TesterCall

namespace Shape

def disqualifying : Shape → List Kind
  | .conjunction => [.binary .or,.binary .imp,.binary .iff]
  | .disjunction => [.binary .and,.binary .imp,.binary .iff]

theorem rulesOut_iff (shape : Shape) (kind : Kind) :
    shape.rulesOut kind = true ↔ kind ∈ shape.disqualifying := by
  cases shape with
  | conjunction =>
    cases kind with
    | binary connective => cases connective <;> decide
    | _ => decide
  | disjunction =>
    cases kind with
    | binary connective => cases connective <;> decide
    | _ => decide

-- Some node in the scope of a call is of a disqualifying kind.
def Meets (shape : Shape) (call : TesterCall) : Prop :=
  ∃ node ∈ call.scope, node.kind ∈ shape.disqualifying

-- Such a node was met by the last test or by a call after it.
def Remembers (shape : Shape) (calls : List TesterCall) : Prop :=
  ∃ before call after, calls = before ++ call :: after ∧ shape.Meets call ∧
    ∀ later ∈ after, later.resets = false

def perform (shape : Shape) : TesterCall → EStateM Fault Bool (Option Bool)
  | .test tree => do return some (← shape.test tree)
  | .visit tree => do shape.walker.visit tree; return none
  | .traverse tree => do return some (← shape.walker.traverse tree)

def performAll (shape : Shape) : List TesterCall → EStateM Fault Bool (List (Option Bool))
  | [] => pure []
  | call :: rest => do
    let answer ← shape.perform call
    return answer :: (← shape.performAll rest)

def flagAfter (shape : Shape) (raised : Bool) (call : TesterCall) : Bool :=
  (raised && !call.resets) || call.scope.any (fun node => shape.rulesOut node.kind)

section
variable {shape : Shape} {raised : Bool} {call : TesterCall} {calls : List TesterCall}

theorem any_rulesOut (shape : Shape) (nodes : List Formula) :
    nodes.any (fun node => shape.rulesOut node.kind) = true ↔
      ∃ node ∈ nodes, node.kind ∈ shape.disqualifying := by
  simp only [List.any_eq_true,rulesOut_iff]

theorem flagAfter_iff :
    shape.flagAfter raised call = true ↔ (raised = true ∧ call.resets = false) ∨ shape.Meets call := by
  rw [flagAfter,Bool.or_eq_true,any_rulesOut,Bool.and_eq_true,Bool.not_eq_true',Meets]

theorem along_lowered (shape : Shape) (nodes : List Formula) :
    (shape.walker.along nodes).run false =
      .ok (nodes.any (fun node => shape.rulesOut node.kind))
        (nodes.any (fun node => shape.rulesOut node.kind)) := by
  induction nodes with
  | nil => rfl
  | cons node rest ih =>
    have handled : (shape.walker.handle node).run false = .ok () (shape.rulesOut node.kind) :=
      shape.run_visit node false
    rw [Walker.along,EStateM.run_bind,handled,List.any_cons]
    cases met : shape.rulesOut node.kind with
    | true => rfl
    | false => exact ih

theorem traverse_run (shape : Shape) (tree : Formula) (raised : Bool) :
    (shape.walker.traverse tree).run raised =
      .ok (raised || tree.preorder.any (fun node => shape.rulesOut node.kind))
        (raised || tree.preorder.any (fun node => shape.rulesOut node.kind)) := by
  rw [Walker.traverse_along]
  cases raised with
  | false => exact along_lowered shape tree.preorder
  | true =>
    rw [Formula.preorder_eq]
    rfl

theorem perform_run (shape : Shape) (call : TesterCall) (raised : Bool) :
    (shape.perform call).run raised =
      .ok (call.answer (shape.flagAfter raised call)) (shape.flagAfter raised call) := by
  cases call with
  | test tree =>
    have flag : shape.flagAfter raised (.test tree) = shape.rulesOut tree.kind := by
      simp [flagAfter,TesterCall.resets,TesterCall.scope]
    rw [flag]
    rfl
  | visit tree =>
    have flag : shape.flagAfter raised (.visit tree) = (raised || shape.rulesOut tree.kind) := by
      simp [flagAfter,TesterCall.resets,TesterCall.scope]
    rw [flag]
    rfl
  | traverse tree =>
    have flag : shape.flagAfter raised (.traverse tree) =
        (raised || tree.preorder.any (fun node => shape.rulesOut node.kind)) := by
      simp [flagAfter,TesterCall.resets,TesterCall.scope]
    rw [flag,perform,EStateM.run_bind,traverse_run]
    rfl

theorem performAll_run (shape : Shape) (calls : List TesterCall) (raised : Bool) :
    ∃ answers, (shape.performAll calls).run raised = .ok answers (calls.foldl shape.flagAfter raised) := by
  induction calls generalizing raised with
  | nil => exact ⟨[],rfl⟩
  | cons call rest ih =>
    obtain ⟨answers,later⟩ := ih (shape.flagAfter raised call)
    refine ⟨call.answer (shape.flagAfter raised call) :: answers,?_⟩
    rw [performAll,EStateM.run_bind,perform_run]
    dsimp only
    rw [EStateM.run_bind,later]
    rfl

theorem remembers_cons :
    shape.Remembers (call :: calls) ↔
      (shape.Meets call ∧ ∀ later ∈ calls, later.resets = false) ∨ shape.Remembers calls := by
  constructor
  · intro remembers
    obtain ⟨before,met,after,split,meets,kept⟩ := remembers
    cases before with
    | nil =>
      cases split
      exact .inl ⟨meets,kept⟩
    | cons first before =>
      cases split
      exact .inr ⟨before,met,after,rfl,meets,kept⟩
  · intro either
    cases either with
    | inl first => exact ⟨[],call,calls,rfl,first⟩
    | inr later =>
      obtain ⟨before,met,after,split,rest⟩ := later
      exact ⟨call :: before,met,after,congrArg (call :: ·) split,rest⟩

theorem flag_after_calls (shape : Shape) (calls : List TesterCall) (raised : Bool) :
    calls.foldl shape.flagAfter raised = true ↔
      (raised = true ∧ ∀ call ∈ calls, call.resets = false) ∨ shape.Remembers calls := by
  induction calls generalizing raised with
  | nil => simp [Remembers]
  | cons call rest ih =>
    rw [List.foldl_cons,ih,flagAfter_iff,remembers_cons,List.forall_mem_cons,or_and_right,and_assoc,or_assoc]

end

end Shape

-- After any calls the next one leaves the flag as its scope demands, and no call ever faults. Whether a tree
-- has a shape hangs on the kind of its root alone, and a used tester tells it as well as a fresh one.
theorem flag_follows_calls :
    (∀ (shape : Shape) (calls : List TesterCall), ∃ answers raised,
      (shape.performAll calls).run false = .ok answers raised ∧
      (raised = true ↔ shape.Remembers calls) ∧
      (∀ tree, ∃ now, (shape.test tree).run raised = .ok (!now) now ∧
        (now = true ↔ tree.kind ∈ shape.disqualifying) ∧ tree.hasShape shape = !now) ∧
      (∀ tree, ∃ now, (shape.walker.visit tree).run raised = .ok () now ∧
        (now = true ↔ raised = true ∨ tree.kind ∈ shape.disqualifying)) ∧
      ∀ tree, ∃ now, (shape.walker.traverse tree).run raised = .ok now now ∧
        (now = true ↔ raised = true ∨ ∃ node ∈ tree.preorder, node.kind ∈ shape.disqualifying)) ∧
    ∀ tree : Formula,
      (tree.isConjunction = true ↔ tree.kind ∉ Shape.disqualifying .conjunction) ∧
      (tree.isDisjunction = true ↔ tree.kind ∉ Shape.disqualifying .disjunction) := by
  refine ⟨?_,?_⟩
  · intro shape calls
    obtain ⟨answers,ran⟩ := shape.performAll_run calls false
    have history := shape.flag_after_calls calls false
    refine ⟨answers,calls.foldl shape.flagAfter false,ran,by simpa using history,?_,?_,?_⟩
    · intro tree
      exact ⟨shape.rulesOut tree.kind,shape.run_test tree _,shape.rulesOut_iff tree.kind,rfl⟩
    · intro tree
      refine ⟨_,shape.run_visit tree _,?_⟩
      rw [Bool.or_eq_true,Shape.rulesOut_iff]
    · intro tree
      refine ⟨_,shape.traverse_run tree _,?_⟩
      rw [Bool.or_eq_true,Shape.any_rulesOut]
  · intro tree
    have told (shape : Shape) : tree.hasShape shape = true ↔ tree.kind ∉ shape.disqualifying := by
      rw [Formula.hasShape_eq,← Shape.rulesOut_iff,Bool.not_eq_true',Bool.not_eq_true]
    exact ⟨told .conjunction,told .disjunction⟩

end PropFormula
