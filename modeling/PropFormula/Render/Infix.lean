import PropFormula.Formula.Walk

namespace PropFormula
namespace InfixWriter

def put (text : String) : EStateM Fault String Unit := modify (fun buffer => buffer ++ text)

def spaced (connective : Connective) : String := " " ++ connective.sign ++ " "

mutual
-- An implication or an equivalence checks that it has two operands before it writes either.
def write : Formula → EStateM Fault String Unit
  | .node (.binary .and) operands => do put "("; writeAll (spaced .and) operands; put ")"
  | .node (.binary .or) operands => do put "("; writeAll (spaced .or) operands; put ")"
  | .node (.binary connective) (left :: right :: _) => do
    put "("
    write left
    put (spaced connective)
    write right
    put ")"
  | .node (.binary connective) few => do
    put "("
    throw (.notBinary (.binary connective) few.length)
  | .node .not (operand :: _) => do put "!"; write operand
  | .node .not [] => do put "!"; throw .noOperand
  | .node (.var name) _ => put name
  | .node .top _ => put "1"
  | .node .bot _ => put "0"
def writeAll (separator : String) : List Formula → EStateM Fault String Unit
  | [] => pure ()
  | [operand] => write operand
  | operand :: next :: rest => do
    write operand
    put separator
    writeAll separator (next :: rest)
end

def walker : Walker Fault String where
  handle := write

-- The buffer outlives a call: what a visit, a walk or a fault left in it is thrown away here.
def render (formula : Formula) : EStateM Fault String String := do
  set ""
  write formula
  let text ← get
  set ""
  return text

end InfixWriter

def Formula.toInfix (formula : Formula) : Except Fault String :=
  match (InfixWriter.render formula).run "" with
  | .ok text _ => .ok text
  | .error fault _ => .error fault

end PropFormula
