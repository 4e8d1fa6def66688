import PropFormula.Formula.Walk

namespace PropFormula

-- Buffer and separator are kept between calls; only `render` empties the buffer.
structure ClauseWriter where
  buffer : String
  separator : String
  deriving DecidableEq, Repr

namespace ClauseWriter

def fresh : ClauseWriter := ⟨"","\n"⟩

def put (text : String) : EStateM Fault ClauseWriter Unit :=
  modify (fun writer => {writer with buffer := writer.buffer ++ text})

def setSeparator (separator : String) : EStateM Fault ClauseWriter Unit :=
  modify (fun writer => {writer with separator := separator})

mutual
-- A node that is neither joined, negated nor a variable writes nothing.
def write : Formula → EStateM Fault ClauseWriter Unit
  | .node (.binary .and) operands => do writeAll (← get).separator operands
  | .node (.binary .or) operands => writeAll " " operands
  | .node (.binary .imp) _ => pure ()
  | .node (.binary .iff) _ => pure ()
  | .node .not (operand :: _) => do put "-"; write operand
  | .node .not [] => do put "-"; throw .noOperand
  | .node (.var name) _ => put name
  | .node .top _ => pure ()
  | .node .bot _ => pure ()
def writeAll (separator : String) : List Formula → EStateM Fault ClauseWriter Unit
  | [] => pure ()
  | [operand] => write operand
  | operand :: next :: rest => do
    write operand
    put separator
    writeAll separator (next :: rest)
end

def walker : Walker Fault ClauseWriter where
  handle := write

def render (formula : Formula) : EStateM Fault ClauseWriter String := do
  modify (fun writer => {writer with buffer := ""})
  write formula
  let text := (← get).buffer
  modify (fun writer => {writer with buffer := ""})
  return text

end ClauseWriter

namespace Formula

def toClausesWith (separator : String) (formula : Formula) : Except Fault String :=
  match (ClauseWriter.render formula).run ⟨"",separator⟩ with
  | .ok text _ => .ok text
  | .error fault _ => .error fault

def toClauses (formula : Formula) : Except Fault String := formula.toClausesWith "\n"

end Formula
end PropFormula
