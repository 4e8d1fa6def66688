import PropFormula.Command.Formulas
import PropFormula.Proofs.FileUpdates
import PropFormula.Proofs.Launching

namespace PropFormula
open Machine

section
variable {ε α β : Type} {first : StateM Machine (Except ε α)}
  {later : α → ExceptT ε (StateM Machine) β} {machine after : Machine}

theorem stage_continues {value : α} (ran : first machine = (.ok value,after)) :
    (ExceptT.mk first >>= later) machine = later value after := by
  change ExceptT.bindCont later (first machine).1 (first machine).2 = _
  rw [ran]
  rfl

theorem stage_stops {cause : ε} (ran : first machine = (.error cause,after)) :
    (ExceptT.mk first >>= later) machine = (.error cause,after) := by
  change ExceptT.bindCont later (first machine).1 (first machine).2 = _
  rw [ran]
  rfl

end

variable {received : Received}

inductive OneSource (received : Received) : Prop where
  | formula {text : String} (given : received.value? formulaOption.key = some text)
      (alone : received.value? inputOption.key = none)
  | input {path : String} (given : received.value? inputOption.key = some path)
      (alone : received.value? formulaOption.key = none)

inductive Supplies (files : FileSystem) (received : Received) : String → Prop where
  | given {text : String} (formula : received.value? formulaOption.key = some text)
      (alone : received.value? inputOption.key = none) : Supplies files received text
  | stored {path text : String} (input : received.value? inputOption.key = some path)
      (readable : files.read path = .ok text) : Supplies files received text

theorem Supplies.unique {files : FileSystem} {text other : String} (supplied : Supplies files received text)
    (again : Supplies files received other) : text = other := by
  cases supplied with
  | given formula alone =>
    cases again with
    | given formula' alone' => exact Option.some.inj (formula.symm.trans formula')
    | stored input readable => rw [alone] at input; cases input
  | stored input readable =>
    cases again with
    | given formula alone => rw [alone] at input; cases input
    | stored input' readable' =>
      rw [input] at input'
      cases input'
      rw [readable] at readable'
      cases readable'
      rfl

section
variable {path : String}

theorem readSource_formula (alone : received.value? inputOption.key = none) (machine : Machine) :
    readSource (m := StateM Machine) received machine =
      (.ok ((received.value? formulaOption.key).getD ""),
        machine.log .info "reading formula from the command line") := by
  unfold readSource
  rw [alone]
  rfl

theorem displayPath_run (path : String) (machine : Machine) :
    displayPath (m := StateM Machine) path machine = ((machine.files.canonical? path).getD path,machine) := rfl

theorem readSource_input (input : received.value? inputOption.key = some path) (machine : Machine) :
    readSource (m := StateM Machine) received machine =
      ((machine.files.read path).mapError (CommandError.reading path),
        machine.log .info ("reading formula from file " ++ (machine.files.canonical? path).getD path)) := by
  have read (later : Machine) :
      (Host.read path : StateM Machine (Except FileError String)) later = (later.files.read path,later) := rfl
  unfold readSource
  rw [input]
  dsimp only
  rw [bind_run (displayPath_run path machine),bind_run (log_run _ _ machine),bind_run (read _),
    (logged_log machine _ _).files]
  cases machine.files.read path <;> rfl

-- A source can fail in one way only: the input file cannot be read.
theorem readSource_cases (sourced : OneSource received) (machine : Machine) :
    ∃ after, machine.Logged after ∧
      ((∃ text, readSource (m := StateM Machine) received machine = (.ok text,after) ∧
          Supplies machine.files received text) ∨
        ∃ path cause, readSource (m := StateM Machine) received machine =
            (.error (.reading path cause),after) ∧
          received.value? inputOption.key = some path ∧ machine.files.read path = .error cause) := by
  cases sourced with
  | formula given alone =>
    refine ⟨_,logged_log machine _ _,.inl ⟨_,readSource_formula alone machine,?_⟩⟩
    rw [given]
    exact .given given alone
  | @input path given alone =>
    have ran := readSource_input given machine
    cases readable : machine.files.read path with
    | ok text =>
      rw [readable] at ran
      exact ⟨_,logged_log machine _ _,.inl ⟨text,ran,.stored given readable⟩⟩
    | error cause =>
      rw [readable] at ran
      exact ⟨_,logged_log machine _ _,.inr ⟨path,cause,ran,given,readable⟩⟩

theorem openTarget_console (outputless : received.value? outputOption.key = none) (machine : Machine) :
    openTarget (m := StateM Machine) received machine =
      (.ok .console,machine.log .info "setting output to STDOUT") := by
  unfold openTarget
  rw [outputless]
  rfl

theorem openTarget_file (output : received.value? outputOption.key = some path) (machine : Machine) :
    openTarget (m := StateM Machine) received machine =
      match machine.files.create path with
      | .ok created =>
        (.ok (.file path),
          Machine.log {machine with files := created} .info
            ("setting output file to " ++ (created.canonical? path).getD path))
      | .error cause => (.error (.creating path cause),machine) := by
  have creates : (Host.create path : StateM Machine (Except FileError Unit)) machine = machine.create path := rfl
  unfold openTarget
  rw [output]
  dsimp only
  rw [bind_run creates]
  cases machine.files.create path <;> rfl

end

section
variable {path : String}

def joined (pieces : List Piece) : String := String.join (pieces.map Piece.text)

theorem joined_nil : joined [] = "" := rfl

theorem joined_cons (piece : Piece) (rest : List Piece) : joined (piece :: rest) = piece.text ++ joined rest :=
  String.join_cons

theorem writePieces_console (pieces : List Piece) (machine : Machine) :
    writePieces (m := StateM Machine) .console pieces machine =
      (.ok (),{machine with output := machine.output ++ joined pieces}) := by
  induction pieces generalizing machine with
  | nil =>
    rw [joined_nil,String.append_empty]
    rfl
  | cons piece rest ih =>
    have later := ih {machine with output := machine.output ++ piece.text}
    rw [joined_cons,← String.append_assoc]
    exact later

theorem writePieces_file (piece : Piece) (rest : List Piece) (machine : Machine) :
    writePieces (m := StateM Machine) (.file path) (piece :: rest) machine =
      match machine.files.append path piece.text with
      | .ok final => writePieces (m := StateM Machine) (.file path) rest {machine with files := final}
      | .error cause => (.error (.writing piece.activity cause),machine) := by
  have writes : (Host.write (.file path) piece.text : StateM Machine (Except FileError Unit)) machine =
      machine.write (.file path) piece.text := rfl
  rw [writePieces,bind_run writes]
  cases machine.files.append path piece.text <;> rfl

-- The pieces come to one text: it is written whole, or the first is refused and nothing has been written.
theorem writePieces_wrote {pieces : List Piece} (some : pieces ≠ []) {machine : Machine} {final : FileSystem}
    (wrote : machine.files.append path (joined pieces) = .ok final) :
    writePieces (m := StateM Machine) (.file path) pieces machine =
      (.ok (),{machine with files := final}) := by
  induction pieces generalizing machine with
  | nil => exact absurd rfl some
  | cons piece rest ih =>
    rw [joined_cons] at wrote
    rw [writePieces_file]
    cases began : machine.files.append path piece.text with
    | error cause =>
      rw [FileSystem.append_error began] at wrote
      cases wrote
    | ok middle =>
      cases rest with
      | nil =>
        rw [joined_nil,String.append_empty,began] at wrote
        cases wrote
        rfl
      | cons next others =>
        rw [← FileSystem.append_append began] at wrote
        exact ih nofun wrote

theorem writePieces_refused {piece : Piece} {rest : List Piece} {machine : Machine} {cause : FileError}
    (refused : machine.files.append path (joined (piece :: rest)) = .error cause) :
    writePieces (m := StateM Machine) (.file path) (piece :: rest) machine =
      (.error (.writing piece.activity cause),machine) := by
  rw [writePieces_file,FileSystem.append_error refused]

end
end PropFormula
