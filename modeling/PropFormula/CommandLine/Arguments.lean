import PropFormula.CommandLine.Grammar
import PropFormula.CommandLine.Similarity

namespace PropFormula

structure Received where
  occurred : List String
  values : List (String × String)
  deriving DecidableEq, Repr

namespace Received

def none : Received := ⟨[],[]⟩

def value? (received : Received) (key : String) : Option String := received.values.lookup key

def valuesOf (received : Received) (key : String) : List String :=
  (received.values.filter (fun entry => entry.1 == key)).map Prod.snd

def has (received : Received) (option : OptionSpec) : Bool := received.occurred.contains option.key

end Received

inductive Stop where
  | explain (topic : Topic)
  | version
  | misuse (error : UsageError)
  deriving DecidableEq, Repr

-- How far a level has been read: an option may still await its value, and after the word `--` only plain
-- words follow.
structure Reading where
  received : Received
  awaiting : Option OptionSpec
  plainOnly : Bool
  deriving DecidableEq, Repr

namespace Reading

def start : Reading := ⟨.none,none,false⟩

def give (reading : Reading) (key value : String) : Reading :=
  {reading with received := {reading.received with values := reading.received.values ++ [(key,value)]}}

def occur (reading : Reading) (option : OptionSpec) : Reading :=
  {reading with received :=
    {reading.received with occurred := reading.received.occurred ++ [option.key]}}

-- An option with its value attached, or one that awaits it. Equals signs before an attached value do not
-- belong to it.
def meet (reading : Reading) (option : OptionSpec) (attached : Option (List Char)) : Reading :=
  match attached with
  | none => {reading.occur option with awaiting := some option}
  | some characters =>
    {(reading.occur option).give option.key (String.ofList (characters.dropWhile (· == '='))) with
      awaiting := none}

end Reading

def isOptionLike (argument : List Char) : Bool :=
  match argument with
  | '-' :: _ :: _ => true
  | _ => false

namespace Scope

def readLong (scope : Scope) (reading : Reading) (body : List Char) : Except Stop Reading :=
  let name := String.ofList (body.takeWhile (· != '='))
  let attached := if body.contains '=' then some (body.dropWhile (· != '=')) else none
  match scope.allOptions.find? (fun option => option.long == name) with
  | some option => .ok (reading.meet option attached)
  | none =>
    if name == "help" then .error (.explain scope.topic)
    else if name == "version" && scope.versioned then .error .version
    else .error (.misuse (.unexpected ("--" ++ name)))

def readShort (scope : Scope) (reading : Reading) (letter : Char) (rest : List Char) : Except Stop Reading :=
  match scope.allOptions.find? (fun option => option.short == some letter) with
  | some option => .ok (reading.meet option (if rest.isEmpty then none else some rest))
  | none =>
    if letter == 'h' then .error (.explain scope.topic)
    else if letter == 'V' && scope.versioned then .error .version
    else .error (.misuse (.unexpected (String.ofList ['-',letter])))

def readOption (scope : Scope) (reading : Reading) (argument : List Char) : Except Stop Reading :=
  let body := argument.dropWhile (· == '-')
  match argument with
  | '-' :: '-' :: _ => scope.readLong reading body
  | _ =>
    match body with
    | [] => .ok reading
    | letter :: rest => scope.readShort reading letter rest

-- A word that no option awaits. One that sounds like the name of a command is taken for a misspelling.
def readPlain (scope : Scope) (reading : Reading) (argument : String) : Except Stop Reading :=
  if scope.commands.any (soundsLike argument) then .error (.misuse (.unknownCommand argument))
  else
    match scope.word with
    | none => .error (.misuse (.unexpected argument))
    | some key =>
      if (reading.received.value? key).isSome then .error (.misuse (.unexpected argument))
      else .ok (reading.give key argument)

-- Reads up to the end, or up to the name of a command, which comes back with the words after it. A request
-- for help or for the version ends the reading at once, before any check.
def read (scope : Scope) : Reading → List String → Except Stop (Reading × Option (String × List String))
  | reading, [] => .ok (reading,none)
  | reading, argument :: rest =>
    if reading.plainOnly then do scope.read (← scope.readPlain reading argument) rest
    else if argument == "--" then scope.read {reading with plainOnly := true} rest
    else
      match reading.awaiting with
      | some option =>
        if isOptionLike argument.toList then do
          scope.read (← scope.readOption reading argument.toList) rest
        else scope.read {reading.give option.key argument with awaiting := none} rest
      | none =>
        if scope.commands.contains argument then .ok (reading,some (argument,rest))
        else if isOptionLike argument.toList then do
          scope.read (← scope.readOption reading argument.toList) rest
        else do scope.read (← scope.readPlain reading argument) rest

def sourceGiven (scope : Scope) (received : Received) : Bool :=
  scope.sources.isEmpty || scope.sources.any received.has

def checkOption (received : Received) (option : OptionSpec) : Except UsageError Unit :=
  let values := received.valuesOf option.key
  if !received.has option then .ok ()
  else if values.isEmpty then .error (.noValue option)
  else
    match values.find? (fun value => !option.choices.isEmpty && !option.choices.contains value) with
    | some value => .error (.badChoice value option)
    | none =>
      if 1 < received.occurred.count option.key then .error (.repeated option) else .ok ()

-- A value still awaited at the end is missed before a second source is, but after a source at all.
def check (scope : Scope) (reading : Reading) : Except UsageError Received := do
  let received := reading.received
  if let some option := reading.awaiting then
    if !scope.sourceGiven received then throw .noSource
    if (received.valuesOf option.key).isEmpty then throw (.noValue option)
  if 1 < scope.sources.countP received.has then throw .twoSources
  if !scope.sourceGiven received then throw .noSource
  scope.allOptions.forM (checkOption received)
  return received

end Scope

structure Selection where
  command : String
  common : Received
  own : Received
  deriving DecidableEq, Repr

-- An option common to all commands may stand on either level; the command's level wins.
def Selection.common? (selection : Selection) (key : String) : Option String :=
  (selection.own.value? key).or (selection.common.value? key)

namespace ProgramSpec

def topicOf (program : ProgramSpec) : List String → Except Stop Topic
  | [] => .ok .program
  | name :: rest =>
    match (if name == "help" then some .help else (program.command? name).map .command), rest with
    | none, _ => .error (.misuse (.unknownCommand name))
    | some topic, [] => .ok topic
    | some _, next :: _ => .error (.misuse (.unknownCommand next))

def checked (scope : Scope) (reading : Reading) : Except Stop Received :=
  match scope.check reading with
  | .ok received => .ok received
  | .error misuse => .error (.misuse misuse)

def read (program : ProgramSpec) (arguments : List String) : Except Stop Selection := do
  match (← program.scope.read .start arguments) with
  | (_,none) => throw (.misuse .noCommand)
  | (reading,some (name,rest)) =>
    if name == "help" && program.explainsItself then throw (.explain (← program.topicOf rest))
    match program.command? name with
    | none => throw (.misuse (.unknownCommand name))
    | some command =>
      let scope := program.scopeOf command
      let (inner,_) ← scope.read .start rest
      let own ← checked scope inner
      let common ← checked program.scope reading
      return ⟨name,common,own⟩

end ProgramSpec
end PropFormula
