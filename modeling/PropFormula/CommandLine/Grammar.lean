namespace PropFormula

structure OptionSpec where
  key : String
  long : String
  short : Option Char
  help : String
  -- The only values allowed; none are listed if any value will do.
  choices : List String
  deriving DecidableEq, Repr

def OptionSpec.shape (option : OptionSpec) : String := "--" ++ option.long ++ " <" ++ option.key ++ ">"

-- Exactly one of the sources has to be given.
structure CommandSpec where
  name : String
  about : String
  sources : List OptionSpec
  options : List OptionSpec
  word : Option String
  deriving DecidableEq, Repr

structure ProgramSpec where
  name : String
  version : String
  author : String
  about : String
  options : List OptionSpec
  commands : List CommandSpec
  deriving DecidableEq, Repr

inductive Topic where
  | program
  | command (command : CommandSpec)
  | help
  deriving DecidableEq, Repr

structure Scope where
  topic : Topic
  sources : List OptionSpec
  options : List OptionSpec
  word : Option String
  commands : List String
  versioned : Bool
  deriving DecidableEq, Repr

def Scope.allOptions (scope : Scope) : List OptionSpec := scope.sources ++ scope.options

namespace ProgramSpec

-- A program with commands also has a command that explains them, unless one of its own has that name.
def explainsItself (program : ProgramSpec) : Bool :=
  !program.commands.isEmpty && program.commands.all (fun command => command.name != "help")

def scope (program : ProgramSpec) : Scope where
  topic := .program
  sources := []
  options := program.options
  word := none
  commands := program.commands.map CommandSpec.name ++ if program.explainsItself then ["help"] else []
  versioned := true

def scopeOf (program : ProgramSpec) (command : CommandSpec) : Scope where
  topic := .command command
  sources := command.sources
  options := command.options ++ program.options
  word := command.word
  commands := []
  versioned := false

def command? (program : ProgramSpec) (name : String) : Option CommandSpec :=
  program.commands.find? (fun command => command.name == name)

end ProgramSpec

inductive UsageError where
  | noCommand
  | unexpected (argument : String)
  | unknownCommand (name : String)
  | noValue (option : OptionSpec)
  | noSource
  | twoSources
  | repeated (option : OptionSpec)
  | badChoice (value : String) (option : OptionSpec)
  deriving DecidableEq, Repr

def UsageError.message : UsageError → String
  | .noCommand => ""
  | .unexpected argument =>
    "error: Found argument '" ++ argument ++ "' which wasn't expected, or isn't valid in this context"
  | .unknownCommand name => "error: The subcommand '" ++ name ++ "' wasn't recognized"
  | .noValue option =>
    "error: The argument '" ++ option.shape ++ "' requires a value but none was supplied"
  | .noSource => "error: The following required arguments were not provided:"
  | .twoSources => "error: conflicting arguments"
  | .repeated option =>
    "error: The argument '" ++ option.shape ++
      "' was provided more than once, but cannot be used multiple times"
  | .badChoice value option => "error: '" ++ value ++ "' isn't a valid value for '" ++ option.shape ++ "'"

end PropFormula
