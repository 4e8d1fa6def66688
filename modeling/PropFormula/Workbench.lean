import PropFormula.Formula.Recorder
import PropFormula.Formula.Shape
import PropFormula.Formula.Variables
import PropFormula.Recipe
import PropFormula.Render.Clauses
import PropFormula.Render.Infix

namespace PropFormula

inductive Notation where
  | parenthesized
  | clauses
  deriving DecidableEq, Repr

inductive Side where
  | left
  | right
  deriving DecidableEq, Repr

inductive Step where
  | parse (target text : String)
  | build (target : String) (recipe : Recipe)
  | setSeparator (separator : String)
  | raised (shape : Shape)
  | add (register : String) (recipe : Recipe)
  | wrap (register target : String) (kind : Kind) (times : Nat)
  | chain (register target : String) (kind : Kind) (recipe : Recipe) (times : Nat) (side : Side)
  | side (register target : String) (side : Side)
  | inspect (register : String)
  | nodes (register : String)
  | render (register : String) (style : Notation)
  | visitWriter (register : String) (style : Notation)
  | traverseWriter (register : String) (style : Notation)
  | display (register : String) (style : Notation)
  | variableNames (register : String)
  | equal (register other : String)
  | hasShape (register : String) (shape : Shape)
  | test (register : String) (shape : Shape)
  | visitTester (register : String) (shape : Shape)
  | traverseTester (register : String) (shape : Shape)

inductive Answer where
  | nothing
  | root (formula : Formula)
  | nodes (summaries : List Summary)
  | text (text : String)
  | names (names : List String)
  | flag (raised : Bool)

-- Writers and testers live as long as the bench, so a step may find text in a buffer or a raised flag.
structure Workbench where
  registers : Registers
  infixBuffer : String
  clauseWriter : ClauseWriter
  conjunctionRaised : Bool
  disjunctionRaised : Bool

namespace Formula

def display (style : Notation) (formula : Formula) : Except Fault String :=
  match style with
  | .parenthesized => formula.toInfix
  | .clauses => formula.toClauses

def operandAt (side : Side) (formula : Formula) : Except Fault Formula :=
  match side with
  | .left => formula.left
  | .right => formula.right

def wrapped (kind : Kind) (times : Nat) (formula : Formula) : Formula :=
  times.repeat (fun inner => .node (.ofKind kind) [inner]) formula

-- The tree combined over and over with one and the same other tree; the side is the one on which the
-- growing tree stands.
def chained (kind : Kind) (side : Side) (times : Nat) (formula other : Formula) : Formula :=
  times.repeat (fun grown =>
    match side with
    | .left => .node (.ofKind kind) [grown,other]
    | .right => .node (.ofKind kind) [other,grown]) formula

end Formula

namespace Workbench

def fresh : Workbench := ⟨[],"",.fresh,false,false⟩

abbrev Session (α : Type) := EStateM Refusal Workbench α

-- The part is kept as it was left, also by a fault.
def onPart {σ α : Type} (part : Workbench → σ) (keep : σ → Workbench → Workbench)
    (action : EStateM Fault σ α) : Session α := fun bench =>
  match action (part bench) with
  | .ok value left => .ok value (keep left bench)
  | .error cause left => .error (.faulted cause) (keep left bench)

def onInfix {α : Type} (action : EStateM Fault String α) : Session α :=
  onPart infixBuffer (fun buffer bench => {bench with infixBuffer := buffer}) action

def onClauses {α : Type} (action : EStateM Fault ClauseWriter α) : Session α :=
  onPart clauseWriter (fun writer bench => {bench with clauseWriter := writer}) action

def onTester {α : Type} (shape : Shape) (action : EStateM Fault Bool α) : Session α :=
  match shape with
  | .conjunction =>
    onPart conjunctionRaised (fun raised bench => {bench with conjunctionRaised := raised}) action
  | .disjunction =>
    onPart disjunctionRaised (fun raised bench => {bench with disjunctionRaised := raised}) action

def find (register : String) : Session Formula := do
  match (← get).registers.find register with
  | .ok formula => return formula
  | .error refusal => throw refusal

def make (recipe : Recipe) : Session Formula := do
  match recipe.build (← get).registers with
  | .ok formula => return formula
  | .error refusal => throw refusal

def accept {α : Type} : Except Fault α → Session α
  | .ok value => pure value
  | .error cause => throw (.faulted cause)

def store (target : String) (formula : Formula) : Session Answer := do
  modify (fun bench => {bench with registers := bench.registers.store target formula})
  return .root formula

-- The register of a step is looked up before anything else is built or looked up.
def perform : Step → Session Answer
  | .parse target text => do store target (← make (.text text))
  | .build target recipe => do store target (← make recipe)
  | .setSeparator separator => do
    onClauses (ClauseWriter.setSeparator separator)
    return .nothing
  | .raised shape => do return .flag (← onTester shape get)
  | .add register recipe => do
    let formula ← find register
    let operand ← make recipe
    store register (formula.addOperand operand)
  | .wrap register target kind times => do
    let formula ← find register
    store target (formula.wrapped kind times)
  | .chain register target kind recipe times side => do
    let formula ← find register
    let other ← make recipe
    store target (formula.chained kind side times other)
  | .side register target side => do
    let formula ← find register
    store target (← accept (formula.operandAt side))
  | .inspect register => do return .root (← find register)
  | .nodes register => do return .nodes (← find register).nodes
  | .render register style => do
    let formula ← find register
    match style with
    | .parenthesized => return .text (← onInfix (InfixWriter.render formula))
    | .clauses => return .text (← onClauses (ClauseWriter.render formula))
  | .visitWriter register style => do
    let formula ← find register
    match style with
    | .parenthesized => onInfix (InfixWriter.walker.visit formula)
    | .clauses => onClauses (ClauseWriter.walker.visit formula)
    return .nothing
  | .traverseWriter register style => do
    let formula ← find register
    match style with
    | .parenthesized => return .flag (← onInfix (InfixWriter.walker.traverse formula))
    | .clauses => return .flag (← onClauses (ClauseWriter.walker.traverse formula))
  | .display register style => do
    let formula ← find register
    return .text (← accept (formula.display style))
  | .variableNames register => do return .names (← find register).variableNames
  | .equal register other => do
    let formula ← find register
    let second ← find other
    return .flag (formula == second)
  | .hasShape register shape => do return .flag ((← find register).hasShape shape)
  | .test register shape => do
    let formula ← find register
    return .flag (← onTester shape (shape.test formula))
  | .visitTester register shape => do
    let formula ← find register
    onTester shape (shape.walker.visit formula)
    return .flag (← onTester shape get)
  | .traverseTester register shape => do
    let formula ← find register
    return .flag (← onTester shape (shape.walker.traverse formula))

def performAll : List Step → Workbench → List (Except Refusal Answer)
  | [], _ => []
  | step :: rest, bench =>
    match (perform step).run bench with
    | .ok answer after => .ok answer :: performAll rest after
    | .error refusal after => .error refusal :: performAll rest after

end Workbench
end PropFormula
