import PropFormula.Formula

namespace PropFormula
namespace Formula

mutual
def preorder : Formula → List Formula
  | .node label operands => .node label operands :: preorderAll operands
def preorderAll : List Formula → List Formula
  | [] => []
  | formula :: rest => preorder formula ++ preorderAll rest
end

theorem preorder_eq (formula : Formula) :
    formula.preorder = formula :: preorderAll formula.operands := by
  cases formula; simp [preorder,operands]

theorem preorderAll_append (left right : List Formula) :
    preorderAll (left ++ right) = preorderAll left ++ preorderAll right := by
  induction left with
  | nil => simp [preorderAll]
  | cons formula rest ih => simp [preorderAll,ih,List.append_assoc]

end Formula

-- A handler for single nodes, and the states in which a walk goes no further. A handler that faults
-- leaves the state it has reached.
structure Walker (ε σ : Type) where
  handle : Formula → EStateM ε σ Unit
  stopped : σ → Bool := fun _ => false

namespace Walker
variable {ε σ : Type}

def visit (walker : Walker ε σ) (formula : Formula) : EStateM ε σ Unit := walker.handle formula

-- The stack holds the subtrees still to be met, the next one first. The answer tells whether the walk
-- was stopped before its end.
def walk (walker : Walker ε σ) : List Formula → EStateM ε σ Bool
  | [] => pure false
  | formula :: pending => do
    walker.handle formula
    if walker.stopped (← get) then pure true
    else walk walker (formula.operands ++ pending)
termination_by pending => Formula.sizeAll pending
decreasing_by
  simp only [Formula.sizeAll_append,Formula.sizeAll,Formula.size_eq formula]
  omega

def traverse (walker : Walker ε σ) (formula : Formula) : EStateM ε σ Bool :=
  walker.walk [formula]

theorem walk_done (walker : Walker ε σ) : walker.walk [] = pure false := by
  rw [walk]

theorem walk_step (walker : Walker ε σ) (formula : Formula) (pending : List Formula) :
    walker.walk (formula :: pending) = (do
      walker.handle formula
      if walker.stopped (← get) then pure true
      else walker.walk (formula.operands ++ pending)) := by
  rw [walk]

def idle : Walker ε σ where
  handle _ := pure ()

end Walker
end PropFormula
