import PropFormula.Parser

namespace PropFormula

inductive Recipe where
  | text (formula : String)
  | stored (register : String)
  | node (label : Label) (operands : List Recipe)

inductive Refusal where
  | unreadable (cause : SyntaxError)
  | faulted (cause : Fault)
  | noRegister (name : String)
  deriving DecidableEq, Repr

abbrev Registers := List (String × Formula)

def Registers.find (registers : Registers) (name : String) : Except Refusal Formula :=
  match registers.lookup name with
  | some formula => .ok formula
  | none => .error (.noRegister name)

def Registers.store (registers : Registers) (name : String) (formula : Formula) : Registers :=
  (name,formula) :: registers.filter (fun entry => entry.1 != name)

namespace Recipe

-- Operands are built from left to right, and the first refusal is the one reported.
mutual
def build (registers : Registers) : Recipe → Except Refusal Formula
  | .text formula =>
    match Formula.parse formula with
    | .ok parsed => .ok parsed
    | .error cause => .error (.unreadable cause)
  | .stored register => registers.find register
  | .node label operands => do return .node label (← buildAll registers operands)
def buildAll (registers : Registers) : List Recipe → Except Refusal (List Formula)
  | [] => .ok []
  | recipe :: rest => do
    let formula ← build registers recipe
    let others ← buildAll registers rest
    return formula :: others
end

end Recipe
end PropFormula
