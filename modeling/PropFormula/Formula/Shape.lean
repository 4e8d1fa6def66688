import PropFormula.Formula.Walk

namespace PropFormula

inductive Shape where
  | conjunction
  | disjunction
  deriving DecidableEq, Repr

namespace Shape

-- The root alone is looked at: a literal or a constant has both shapes.
def rulesOut : Shape → Kind → Bool
  | .conjunction, .binary .and => false
  | .disjunction, .binary .or => false
  | _, .binary _ => true
  | _, _ => false

def walker (shape : Shape) : Walker Fault Bool where
  handle formula := modify (fun raised => raised || shape.rulesOut formula.kind)
  stopped raised := raised

-- Only this lowers the flag; a plain visit or a walk raises it at most.
def test (shape : Shape) (formula : Formula) : EStateM Fault Bool Bool := do
  set false
  shape.walker.visit formula
  return !(← get)

theorem run_visit (shape : Shape) (formula : Formula) (raised : Bool) :
    (shape.walker.visit formula).run raised = .ok () (raised || shape.rulesOut formula.kind) := rfl

theorem run_test (shape : Shape) (formula : Formula) (raised : Bool) :
    (shape.test formula).run raised =
      .ok (!shape.rulesOut formula.kind) (shape.rulesOut formula.kind) := rfl

end Shape

namespace Formula

def hasShape (shape : Shape) (formula : Formula) : Bool :=
  match (shape.test formula).run false with
  | .ok answer _ => answer
  | .error _ _ => false

def isConjunction (formula : Formula) : Bool := formula.hasShape .conjunction

def isDisjunction (formula : Formula) : Bool := formula.hasShape .disjunction

theorem hasShape_eq (shape : Shape) (formula : Formula) :
    formula.hasShape shape = !shape.rulesOut formula.kind := rfl

end Formula
end PropFormula
