import PropFormula.CommandLine.Arguments
import PropFormula.CommandLine.Help
import PropFormula.Host

namespace PropFormula

-- The name is the one by which a selected command is found; the grammar has the one typed by the user.
structure Command (m : Type → Type) where
  name : String
  grammar : CommandSpec
  execute : Received → m (Except ErrorChain Unit)

structure Program (m : Type → Type) where
  name : String
  version : String
  author : String
  about : String
  commands : List (Command m)

-- Only a completed launch lets the process go on.
inductive Outcome where
  | completed
  | failed
  | shown (text : String)
  | rejected (error : UsageError)
  deriving DecidableEq, Repr

def Outcome.status : Outcome → Nat
  | .completed => 0
  | .failed => 1
  | .shown _ => 0
  | .rejected _ => 1

def levelOption : OptionSpec where
  key := "LOGGING_LEVEL"
  long := "logging-level"
  short := none
  help := "sets the minimal level of the displayed log messages [default: info]"
  choices := Threshold.names

-- The level of the command's options or else of the program's. A text that names no level would be an error
-- of its own. Where this option alone takes the level, no accepted command line has such a text (`level_known`),
-- so the default stands in for the error.
def Selection.threshold (selection : Selection) : Threshold :=
  ((selection.common? levelOption.key).bind Threshold.ofName?).getD .usual

namespace Program
variable {m : Type → Type}

def grammar (program : Program m) : ProgramSpec where
  name := program.name
  version := program.version
  author := program.author
  about := program.about
  options := [levelOption]
  commands := program.commands.map Command.grammar

def command? (program : Program m) (name : String) : Option (Command m) :=
  program.commands.find? (fun command => command.name == name)

def banner (program : Program m) : String := program.name ++ " " ++ program.version

def loggerTaken : ErrorChain where
  outermost := "cannot initialize the logging system: " ++
    "attempted to set a logger after the logging system was already initialized"
  causes := []

variable [Monad m] [Host m]

-- A selection always holds what its command received, so there is no case for a command without arguments.
def dispatch (program : Program m) (selection : Selection) : m (Except ErrorChain Unit) := do
  match program.command? selection.command with
  | none => return .error ⟨"no such command \"" ++ selection.command ++ "\"",[]⟩
  | some command =>
    Host.log .info program.banner
    match (← command.execute selection.own) with
    | .ok () => return .ok ()
    | .error chain =>
      return .error (chain.context ("while executing command \"" ++ selection.command ++ "\""))

def report (chain : ErrorChain) : m Unit := chain.lines.forM (Host.log .error)

def run (program : Program m) (selection : Selection) : m Outcome := do
  let installed ← Host.install selection.threshold
  match (← if installed then program.dispatch selection else pure (.error loggerTaken)) with
  | .ok () => return .completed
  | .error chain =>
    report chain
    return .failed

def launch (program : Program m) (arguments : List String) : m Outcome :=
  match program.grammar.read arguments with
  | .error (.explain topic) => return .shown (program.grammar.explain topic)
  | .error .version => return .shown (program.banner ++ "\n")
  | .error (.misuse error) => return .rejected error
  | .ok selection => program.run selection

def launchTimes (program : Program m) (arguments : List String) : Nat → m Outcome
  | 0 => return .completed
  | times + 1 => do
    match (← program.launch arguments) with
    | .completed => program.launchTimes arguments times
    | outcome => return outcome

end Program
end PropFormula
