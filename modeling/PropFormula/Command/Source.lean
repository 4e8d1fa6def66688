import PropFormula.CommandLine.Arguments
import PropFormula.Host
import PropFormula.Parser
import PropFormula.Text.Classes

namespace PropFormula

inductive CommandError where
  | reading (path : String) (cause : FileError)
  | parsing (text : String) (cause : SyntaxError)
  | creating (path : String) (cause : FileError)
  | writing (activity : String) (cause : FileError)
  | builtin (cause : SyntaxError)
  | rendering (cause : Fault)
  deriving DecidableEq, Repr

-- A formula is quoted without the blanks at its ends.
def CommandError.chain : CommandError → ErrorChain
  | .reading path cause => ⟨"while reading file \"" ++ path ++ "\"",[cause.message]⟩
  | .parsing text cause => ⟨"while parsing formula \"" ++ trimBlanks text ++ "\"",[cause.message]⟩
  | .creating path cause => ⟨"while creating file \"" ++ path ++ "\"",[cause.message]⟩
  | .writing activity cause => ⟨activity,[cause.message]⟩
  | .builtin cause => ⟨cause.message,[]⟩
  | .rendering cause => ⟨cause.message,[]⟩

def formulaOption : OptionSpec where
  key := "FORMULA"
  long := "formula"
  short := some 'f'
  help := "sets the formula to process"
  choices := []

def inputOption : OptionSpec where
  key := "INPUT"
  long := "input"
  short := some 'i'
  help := "sets the file containing the formula to process"
  choices := []

def outputOption : OptionSpec where
  key := "OUTPUT"
  long := "output"
  short := some 'o'
  help := "sets the output file"
  choices := []

section
variable {m : Type → Type} [Monad m] [Host m]

-- A path is logged by its absolute name if it exists.
def displayPath (path : String) : m String := do return (← Host.canonical? path).getD path

def readSource (received : Received) : m (Except CommandError String) := do
  match received.value? inputOption.key with
  | some path =>
    Host.log .info ("reading formula from file " ++ (← displayPath path))
    match (← Host.read path) with
    | .ok text => return .ok text
    | .error cause => return .error (.reading path cause)
  | none =>
    Host.log .info "reading formula from the command line"
    return .ok ((received.value? formulaOption.key).getD "")

def parseSource (text : String) : Except CommandError Formula :=
  match Formula.parse text with
  | .ok formula => .ok formula
  | .error cause => .error (.parsing text cause)

def openTarget (received : Received) : m (Except CommandError Target) := do
  match received.value? outputOption.key with
  | some path =>
    match (← Host.create path) with
    | .ok () =>
      Host.log .info ("setting output file to " ++ (← displayPath path))
      return .ok (.file path)
    | .error cause => return .error (.creating path cause)
  | none =>
    Host.log .info "setting output to STDOUT"
    return .ok .console

structure Piece where
  activity : String
  text : String
  deriving DecidableEq, Repr

def writePieces (target : Target) : List Piece → m (Except CommandError Unit)
  | [] => return .ok ()
  | piece :: rest => do
    match (← Host.write target piece.text) with
    | .ok () => writePieces target rest
    | .error cause => return .error (.writing piece.activity cause)

end
end PropFormula
