import PropFormula.Reduction
import PropFormula.Token.Scanner

namespace PropFormula

def conclude : Stack → Except SyntaxError Formula
  | [] => .error .emptyFormula
  | [⟨.expression,some root⟩] => .ok root
  | _ => .error .incomplete

-- Each token meets a stack reduced for it, so a character that starts no token is reported as soon as it is
-- reached, whatever the stack looks like.
def parseFrom (rules : List Rule) (scanner : Scanner) (stack : Stack) : Except SyntaxError Formula :=
  match _read : scanner.next with
  | (.error cause,_) => .error cause
  | (.ok none,_) => do conclude (← reduceAll rules .finish stack)
  | (.ok (some token),after) => do
    let reduced ← reduceAll rules token.symbol stack
    parseFrom rules after (token.entry :: reduced)
termination_by scanner.rest.length
decreasing_by exact Scanner.next_shorter _ _ _ (by assumption)

def parseWith (rules : List Rule) (text : String) : Except SyntaxError Formula :=
  parseFrom rules (.start text) []

def Formula.parse (text : String) : Except SyntaxError Formula := parseWith grammarRules text

end PropFormula
