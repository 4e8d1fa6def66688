import PropFormula.Command.Source
import PropFormula.Formula.Shape
import PropFormula.Formula.Variables
import PropFormula.Launcher
import PropFormula.Render.Clauses
import PropFormula.Render.Infix

namespace PropFormula

def infixActivity : String := "while writing a formula"

def clauseActivity : String := "while writing clauses"

def shapeActivity : String := "while writing the shape of a formula"

inductive View where
  | parenthesized
  | clauses
  | shape
  deriving DecidableEq, Repr

def yesNo (answer : Bool) : String := if answer then "yes" else "no"

def rendered (activity : String) : Except Fault String → Except CommandError (List Piece)
  | .ok text => .ok [⟨activity,text ++ "\n"⟩]
  | .error cause => .error (.rendering cause)

def View.pieces (view : View) (formula : Formula) : Except CommandError (List Piece) :=
  match view with
  | .parenthesized => rendered infixActivity formula.toInfix
  | .clauses => rendered clauseActivity formula.toClauses
  | .shape => .ok
    [⟨shapeActivity,"conjunction: " ++ yesNo formula.isConjunction ++ "\n"⟩,
     ⟨shapeActivity,"disjunction: " ++ yesNo formula.isDisjunction ++ "\n"⟩,
     ⟨shapeActivity,"variables: " ++ " ".intercalate formula.variableNames ++ "\n"⟩]

def builtinPieces (view : View) : List String → Except CommandError (List Piece)
  | [] => .ok []
  | text :: rest => do
    let formula ← (Formula.parse text).mapError .builtin
    return (← view.pieces formula) ++ (← builtinPieces view rest)

def demoPieces : Except CommandError (List Piece) := do
  let parenthesized ← builtinPieces .parenthesized ["1 & x | 0","1 & (x | 0)"]
  let clauses ← builtinPieces .clauses ["x & (!x | y)"]
  return parenthesized ++ clauses

section
variable {m : Type → Type} [Monad m] [Host m]

-- The formula is read and parsed before any output is created, so one that is missing or malformed leaves
-- an existing output file as it was.
def transform (view : View) (received : Received) : ExceptT CommandError m Unit := do
  let text ← ExceptT.mk (readSource received)
  let formula ← ExceptT.mk (pure (parseSource text))
  let target ← ExceptT.mk (openTarget received)
  let pieces ← ExceptT.mk (pure (view.pieces formula))
  ExceptT.mk (writePieces target pieces)

def demonstrate (received : Received) : ExceptT CommandError m Unit := do
  let target ← ExceptT.mk (openTarget received)
  let pieces ← ExceptT.mk (pure demoPieces)
  ExceptT.mk (writePieces target pieces)

def withChain (action : ExceptT CommandError m Unit) : m (Except ErrorChain Unit) := do
  return (← action.run).mapError CommandError.chain

def transformation (name about : String) (view : View) : Command m where
  name := name
  grammar :=
    { name := name
      about := about
      sources := [formulaOption,inputOption]
      options := [outputOption]
      word := none }
  execute received := withChain (transform view received)

def infixCommand : Command m :=
  transformation "infix" "Writes a formula using the fully parenthesized infix notation." .parenthesized

def clauseCommand : Command m :=
  transformation "clause"
    ("Writes a conjunction of clauses, one clause per line, " ++
      "negative literals prefixed by a minus sign.") .clauses

def shapeCommand : Command m :=
  transformation "shape"
    ("Tells whether the root of a formula is a conjunction or a disjunction, " ++
      "and lists its variables.") .shape

def demoCommand : Command m where
  name := "demo"
  grammar :=
    { name := "demo"
      about := "Parses some built-in formulas and writes them."
      sources := []
      options := [outputOption]
      word := none }
  execute received := withChain (demonstrate received)

def formulaProgram : Program m where
  name := "boolexpr"
  version := "0.1.0"
  author := "Lonca Emmanuel <emmanuel.lonca@univ-artois.fr>"
  about := "Parses propositional formulas written in infix notation and renders them."
  commands := [infixCommand,clauseCommand,shapeCommand,demoCommand]

end
end PropFormula
