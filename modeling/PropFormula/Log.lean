namespace PropFormula

inductive Level where
  | error
  | warn
  | info
  | debug
  | trace
  deriving DecidableEq, Repr

def Level.rank : Level → Nat
  | .error => 1
  | .warn => 2
  | .info => 3
  | .debug => 4
  | .trace => 5

def Level.name : Level → String
  | .error => "ERROR"
  | .warn => "WARN"
  | .info => "INFO"
  | .debug => "DEBUG"
  | .trace => "TRACE"

def Level.word : Level → String
  | .error => "error"
  | .warn => "warn"
  | .info => "info"
  | .debug => "debug"
  | .trace => "trace"

def Level.colour : Level → String
  | .error => "31"
  | .warn => "33"
  | .info => "32"
  | .debug => "34"
  | .trace => "35"

-- The least pressing level still shown, if any is.
inductive Threshold where
  | off
  | upTo (level : Level)
  deriving DecidableEq, Repr

def Threshold.shows : Threshold → Level → Bool
  | .off, _ => false
  | .upTo limit, level => level.rank ≤ limit.rank

def Level.all : List Level := [.trace,.debug,.info,.warn,.error]

def Threshold.named : List (String × Threshold) :=
  Level.all.map (fun level => (level.word,.upTo level)) ++ [("off",.off)]

def Threshold.names : List String := Threshold.named.map Prod.fst

def Threshold.ofName? (name : String) : Option Threshold := Threshold.named.lookup name

def Threshold.usual : Threshold := .upTo .info

theorem Threshold.trace_shows (level : Level) : (Threshold.upTo .trace).shows level = true := by
  cases level <;> rfl

theorem Threshold.off_shows (level : Level) : Threshold.off.shows level = false := rfl

structure Record where
  level : Level
  message : String
  deriving DecidableEq, Repr

def Record.line (time : String) (record : Record) : String :=
  "[" ++ time ++ "][\x1b[" ++ record.level.colour ++ "m" ++ record.level.name ++ "\x1b[0m] " ++
    record.message ++ "\n"

end PropFormula
