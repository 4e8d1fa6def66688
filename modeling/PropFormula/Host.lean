import PropFormula.Files
import PropFormula.Log

namespace PropFormula

inductive Target where
  | console
  | file (path : String)
  deriving DecidableEq, Repr

class Host (m : Type → Type) where
  -- The absolute name of a path that exists.
  canonical? : String → m (Option String)
  read : String → m (Except FileError String)
  create : String → m (Except FileError Unit)
  write : Target → String → m (Except FileError Unit)
  -- The logger can be installed once; the answer tells whether this was the time.
  install : Threshold → m Bool
  log : Level → String → m Unit

structure ErrorChain where
  outermost : String
  causes : List String
  deriving DecidableEq, Repr

namespace ErrorChain

def elements (chain : ErrorChain) : List String := chain.outermost :: chain.causes

def context (message : String) (chain : ErrorChain) : ErrorChain := ⟨message,chain.elements⟩

-- The first element stands alone; each cause is announced as one.
def lines (chain : ErrorChain) : List String :=
  chain.outermost :: chain.causes.map (fun cause => "caused by: " ++ cause)

end ErrorChain

-- The host whose whole state is a value, with the records shown so far in place of the error output.
structure Machine where
  files : FileSystem
  output : String
  threshold : Option Threshold
  records : List Record

namespace Machine

def start (files : FileSystem) : Machine := ⟨files,"",none,[]⟩

def shows (machine : Machine) (level : Level) : Bool :=
  match machine.threshold with
  | some threshold => threshold.shows level
  | none => false

def log (machine : Machine) (level : Level) (message : String) : Machine :=
  if machine.shows level then {machine with records := machine.records ++ [⟨level,message⟩]} else machine

def install (machine : Machine) (threshold : Threshold) : Bool × Machine :=
  match machine.threshold with
  | some _ => (false,machine)
  | none => (true,{machine with threshold := some threshold})

def create (machine : Machine) (path : String) : Except FileError Unit × Machine :=
  match machine.files.create path with
  | .ok files => (.ok (),{machine with files := files})
  | .error cause => (.error cause,machine)

def write (machine : Machine) (target : Target) (text : String) : Except FileError Unit × Machine :=
  match target with
  | .console => (.ok (),{machine with output := machine.output ++ text})
  | .file path =>
    match machine.files.append path text with
    | .ok files => (.ok (),{machine with files := files})
    | .error cause => (.error cause,machine)

def errorOutput (time : String) (machine : Machine) : String :=
  String.join (machine.records.map (Record.line time))

end Machine

instance : Host (StateM Machine) where
  canonical? path := fun machine => (machine.files.canonical? path,machine)
  read path := fun machine => (machine.files.read path,machine)
  create path := fun machine => machine.create path
  write target text := fun machine => machine.write target text
  install threshold := fun machine => machine.install threshold
  log level message := fun machine => ((),machine.log level message)

end PropFormula
