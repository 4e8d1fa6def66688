import PropFormula.Formula

namespace PropFormula

inductive Atom where
  | top
  | bot
  | var (name : String)
  deriving DecidableEq, Repr

def Atom.label : Atom → Label
  | .top => .top
  | .bot => .bot
  | .var name => .var name

def Atom.text : Atom → String
  | .top => "1"
  | .bot => "0"
  | .var name => name

inductive Token where
  | opening
  | closing
  | not
  | binary (connective : Connective)
  | value (atom : Atom)
  deriving DecidableEq, Repr

def Token.text : Token → String
  | .opening => "("
  | .closing => ")"
  | .not => "!"
  | .binary connective => connective.sign
  | .value atom => atom.text

inductive Symbol where
  | opening
  | closing
  | not
  | binary (connective : Connective)
  | value
  | expression
  | finish
  deriving DecidableEq, Repr

def Symbol.name : Symbol → String
  | .opening => "Lp"
  | .closing => "Rp"
  | .not => "Not"
  | .binary .and => "And"
  | .binary .or => "Or"
  | .binary .imp => "Imp"
  | .binary .iff => "Iff"
  | .value => "Val"
  | .expression => "Exp"
  | .finish => "End"

def Token.symbol : Token → Symbol
  | .opening => .opening
  | .closing => .closing
  | .not => .not
  | .binary connective => .binary connective
  | .value _ => .value

-- The node a token brings to the tree: an operator without operands, or a leaf. Parentheses bring none.
def Token.node? : Token → Option Formula
  | .opening => none
  | .closing => none
  | .not => some (.leaf .not)
  | .binary connective => some (.leaf (.binary connective))
  | .value atom => some (.leaf atom.label)

-- Why a text denotes no formula. The last cause is a reduction that finds no node on a matched symbol.
inductive SyntaxError where
  | emptyFormula
  | incomplete
  | unexpectedCharacter (character : Char) (offset : Nat)
  | missingNode (pattern : List Symbol)
  deriving DecidableEq, Repr

def SyntaxError.message : SyntaxError → String
  | .emptyFormula => "syntax error: empty formula"
  | .incomplete => "syntax error: incomplete or ambiguous formula"
  | .unexpectedCharacter character offset =>
    "syntax error: unexpected character '" ++ character.toString ++ "' at offset " ++ toString offset
  | .missingNode pattern =>
    "missing node while reducing symbols [" ++ ", ".intercalate (pattern.map Symbol.name) ++ "]"

end PropFormula
