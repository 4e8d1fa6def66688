import PropFormula.Command.Formulas
import Std.Time.Format
import Std.Time.Zoned

namespace PropFormula

-- What runs on the console keeps the logger of the program: none until it is installed.
abbrev Console := ReaderT (IO.Ref (Option Threshold)) IO

def fileError : IO.Error → FileError
  | .noFileOrDirectory .. => .notFound
  | .inappropriateType _ 20 _ => .notDirectory
  | .inappropriateType _ 21 _ => .isDirectory
  | .invalidArgument _ 36 _ => .nameTooLong
  | .resourceExhausted _ 28 _ => .noSpace
  | error => .other error.toString

def attempt {α : Type} (action : IO α) : Console (Except FileError α) := do
  try
    return .ok (← action)
  catch error =>
    return .error (fileError error)

def readText (path : String) : Console (Except FileError String) := do
  match (← attempt (IO.FS.readBinFile path)) with
  | .error cause => return .error cause
  | .ok content =>
    match String.fromUTF8? content with
    | some text => return .ok text
    | none => return .error .notText

def appendText (path text : String) : IO Unit := do
  let handle ← IO.FS.Handle.mk path .append
  handle.putStr text
  handle.flush

def writeRecord (record : Record) : IO Unit := do
  let time ← Std.Time.PlainDateTime.now
  (← IO.getStderr).putStr (record.line (time.format "uuuu-MM-dd HH:mm:ss.SSS"))

instance : Host Console where
  canonical? path := do
    match (← attempt (IO.FS.realPath path)) with
    | .ok found => return some found.toString
    | .error _ => return none
  read := readText
  create path := attempt (IO.FS.writeFile path "")
  write
    | .console, text => attempt (do IO.print text; (← IO.getStdout).flush)
    | .file path, text => attempt (appendText path text)
  install threshold := do
    let logger ← read
    match (← logger.get) with
    | some _ => return false
    | none => logger.set (some threshold); return true
  log level message := do
    let logger ← read
    match (← logger.get) with
    | some threshold => if threshold.shows level then writeRecord ⟨level,message⟩
    | none => return ()

end PropFormula

open PropFormula in
def main (arguments : List String) : IO UInt32 := do
  let logger ← IO.mkRef (none : Option Threshold)
  let program : Program Console := formulaProgram
  let outcome ← (program.launch arguments).run logger
  match outcome with
  | .shown text => IO.print text
  | .rejected error => IO.eprint (error.report program.grammar)
  | _ => return outcome.status.toUInt32
  return outcome.status.toUInt32
