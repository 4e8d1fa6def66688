namespace PropFormula

inductive Connective where
  | iff
  | imp
  | or
  | and
  deriving DecidableEq, Repr

-- A larger rank binds tighter.
def Connective.rank : Connective → Nat
  | .iff => 0
  | .imp => 1
  | .or => 2
  | .and => 3

def Connective.sign : Connective → String
  | .iff => "<=>"
  | .imp => "=>"
  | .or => "|"
  | .and => "&"

inductive Kind where
  | binary (connective : Connective)
  | not
  | var
  | top
  | bot
  deriving DecidableEq, Repr

def Kind.all : List Kind :=
  [.binary .iff,.binary .imp,.binary .and,.binary .or,.not,.var,.top,.bot]

def Kind.name : Kind → String
  | .binary .iff => "Iff"
  | .binary .imp => "Imp"
  | .binary .and => "And"
  | .binary .or => "Or"
  | .not => "Not"
  | .var => "Var"
  | .top => "True"
  | .bot => "False"

def Kind.arity : Kind → Nat
  | .binary _ => 2
  | .not => 1
  | .var => 0
  | .top => 0
  | .bot => 0

def Kind.ofName? (name : String) : Option Kind :=
  Kind.all.find? (fun kind => kind.name == name)

inductive Label where
  | binary (connective : Connective)
  | not
  | var (name : String)
  | top
  | bot
  deriving DecidableEq, Repr

def Label.kind : Label → Kind
  | .binary connective => .binary connective
  | .not => .not
  | .var _ => .var
  | .top => .top
  | .bot => .bot

def Label.name : Label → String
  | .var name => name
  | _ => ""

def Label.ofKind : Kind → Label
  | .binary connective => .binary connective
  | .not => .not
  | .var => .var ""
  | .top => .top
  | .bot => .bot

-- A label of any kind may stand over any number of operands, so trees that no text denotes can be built
-- by hand; `Kind.arity` is what a node is expected to own.
inductive Formula where
  | node (label : Label) (operands : List Formula)

namespace Formula

instance : Inhabited Formula := ⟨.node .top []⟩

-- Equality is structural.
mutual
def decideEq (a b : Formula) : Decidable (a = b) :=
  match a, b with
  | .node label operands, .node label' operands' =>
    haveI := decideEqAll operands operands'
    decidable_of_iff (label = label' ∧ operands = operands') (by simp)
def decideEqAll (as bs : List Formula) : Decidable (as = bs) :=
  match as, bs with
  | [], [] => isTrue rfl
  | [], _ :: _ => isFalse (by simp)
  | _ :: _, [] => isFalse (by simp)
  | a :: as, b :: bs =>
    haveI := decideEq a b
    haveI := decideEqAll as bs
    decidable_of_iff (a = b ∧ as = bs) (by simp)
end

instance : DecidableEq Formula := decideEq

def label : Formula → Label
  | .node label _ => label

def operands : Formula → List Formula
  | .node _ operands => operands

def kind (formula : Formula) : Kind := formula.label.kind

def name (formula : Formula) : String := formula.label.name

def leaf (label : Label) : Formula := .node label []

def var (name : String) : Formula := leaf (.var name)

def binary (connective : Connective) (left right : Formula) : Formula :=
  .node (.binary connective) [left,right]

def not (operand : Formula) : Formula := .node .not [operand]

def addOperand : Formula → Formula → Formula
  | .node label operands, operand => .node label (operands ++ [operand])

mutual
def size : Formula → Nat
  | .node _ operands => sizeAll operands + 1
def sizeAll : List Formula → Nat
  | [] => 0
  | formula :: rest => size formula + sizeAll rest
end

theorem size_eq (formula : Formula) : formula.size = sizeAll formula.operands + 1 := by
  cases formula; simp [size,operands]

theorem sizeAll_append (left right : List Formula) :
    sizeAll (left ++ right) = sizeAll left + sizeAll right := by
  induction left with
  | nil => simp [sizeAll]
  | cons formula rest ih => simp [sizeAll,ih,Nat.add_assoc]

end Formula

-- What a malformed node can make go wrong: an operator between operands found fewer than two of
-- them, or a negation found none.
inductive Fault where
  | notBinary (kind : Kind) (count : Nat)
  | noOperand
  deriving DecidableEq, Repr

def Fault.message : Fault → String
  | .notBinary kind count =>
    "expected a binary node, found a " ++ kind.name ++ " node with " ++ toString count ++ " operand(s)"
  | .noOperand => "index out of bounds: the len is 0 but the index is 0"

namespace Formula

-- The first two operands; surplus ones are not looked at.
def sides (formula : Formula) : Except Fault (Formula × Formula) :=
  match formula.operands with
  | left :: right :: _ => .ok (left,right)
  | few => .error (.notBinary formula.kind few.length)

def left (formula : Formula) : Except Fault Formula := formula.sides.map Prod.fst

def right (formula : Formula) : Except Fault Formula := formula.sides.map Prod.snd

end Formula
end PropFormula
