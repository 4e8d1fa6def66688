import PropFormula.Proofs.Stages

namespace PropFormula

-- The records are all that an action logs, shown or not.
structure Effect (α : Type) where
  answer : α
  files : FileSystem
  printed : String
  logged : List Record

namespace Machine

def shown (machine : Machine) (records : List Record) : List Record :=
  records.filter (fun record => machine.shows record.level)

theorem shown_append (machine : Machine) (first second : List Record) :
    machine.shown (first ++ second) = machine.shown first ++ machine.shown second :=
  List.filter_append first second

theorem log_eq (machine : Machine) (level : Level) (message : String) :
    machine.log level message =
      {machine with records := machine.records ++ machine.shown [⟨level,message⟩]} := by
  unfold log shown
  cases shows : machine.shows level with
  | true => simp [shows]
  | false => simp [shows]

end Machine

theorem forM_log_run (level : Level) (lines : List String) (machine : Machine) :
    (lines.forM (Host.log level) : StateM Machine Unit) machine =
      ((),{machine with records := machine.records ++ machine.shown (lines.map (Record.mk level))}) := by
  induction lines generalizing machine with
  | nil =>
    rw [List.map_nil,Machine.shown,List.filter_nil,List.append_nil]
    rfl
  | cons line rest ih =>
    have same : (machine.log level line).shown = machine.shown := by
      rw [Machine.log_eq]
      rfl
    have apart : machine.shown ((line :: rest).map (Record.mk level)) =
        machine.shown [⟨level,line⟩] ++ machine.shown (rest.map (Record.mk level)) :=
      machine.shown_append [⟨level,line⟩] _
    change (rest.forM (Host.log level) : StateM Machine Unit) (machine.log level line) = _
    rw [ih,same,apart,← List.append_assoc,Machine.log_eq]

namespace Effect
variable {α β : Type}

def on (effect : Effect α) (machine : Machine) : α × Machine :=
  (effect.answer,
    {machine with
      files := effect.files
      output := machine.output ++ effect.printed
      records := machine.records ++ machine.shown effect.logged})

def andThen (first : Effect α) (later : α → FileSystem → Effect β) : Effect β :=
  let second := later first.answer first.files
  ⟨second.answer,second.files,first.printed ++ second.printed,first.logged ++ second.logged⟩

theorem on_andThen (first : Effect α) (later : α → FileSystem → Effect β) (machine : Machine) :
    (first.andThen later).on machine =
      (later first.answer first.files).on (first.on machine).2 := by
  have same (records : List Record) : (first.on machine).2.shown records = machine.shown records := rfl
  simp only [on,andThen,Machine.shown_append,String.append_assoc,List.append_assoc]
  rfl

end Effect

-- The files alone decide what the action comes to; the level in force only picks which records are shown.
-- Whatever does not install the logger is put together from such actions.
def Steady {α : Type} (action : StateM Machine α) : Prop :=
  ∃ effect : FileSystem → Effect α, ∀ machine, action machine = (effect machine.files).on machine

section
variable {ε α β : Type}

theorem steady_quiet {action : StateM Machine α} (answer : FileSystem → α)
    (ran : ∀ machine, action machine = (answer machine.files,machine)) : Steady action := by
  refine ⟨fun files => ⟨answer files,files,"",[]⟩,?_⟩
  intro machine
  simp [ran,Effect.on,Machine.shown]

theorem steady_pure (answer : α) : Steady (pure answer : StateM Machine α) :=
  steady_quiet (fun _ => answer) fun _ => rfl

theorem Steady.bind {first : StateM Machine α} {later : α → StateM Machine β} (one : Steady first)
    (two : ∀ answer, Steady (later answer)) : Steady (first >>= later) := by
  obtain ⟨effect,ran⟩ := one
  obtain ⟨next,went⟩ := Classical.axiomOfChoice two
  refine ⟨fun files => (effect files).andThen next,?_⟩
  intro machine
  rw [bind_run (ran machine),went,Effect.on_andThen]
  rfl

theorem Steady.stage {first : StateM Machine (Except ε α)} {later : α → ExceptT ε (StateM Machine) β}
    (one : Steady first) (two : ∀ value, Steady (later value : StateM Machine (Except ε β))) :
    Steady (ExceptT.mk first >>= later : ExceptT ε (StateM Machine) β) := by
  change Steady (first >>= ExceptT.bindCont later)
  refine one.bind fun answer => ?_
  cases answer with
  | ok value => exact two value
  | error cause => exact steady_pure (Except.error cause)

theorem steady_log (level : Level) (message : String) :
    Steady (Host.log level message : StateM Machine Unit) := by
  refine ⟨fun files => ⟨(),files,"",[⟨level,message⟩]⟩,?_⟩
  intro machine
  rw [log_run,Machine.log_eq]
  simp [Effect.on]

theorem steady_forM_log (level : Level) (lines : List String) :
    Steady (lines.forM (Host.log level) : StateM Machine Unit) := by
  refine ⟨fun files => ⟨(),files,"",lines.map (Record.mk level)⟩,?_⟩
  intro machine
  rw [forM_log_run]
  simp [Effect.on]

theorem steady_displayPath (path : String) : Steady (displayPath (m := StateM Machine) path) :=
  steady_quiet (fun files => (files.canonical? path).getD path) (displayPath_run path)

theorem steady_read (path : String) :
    Steady (Host.read path : StateM Machine (Except FileError String)) :=
  steady_quiet (fun files => files.read path) fun _ => rfl

theorem steady_update {action : StateM Machine (Except FileError Unit)}
    (update : FileSystem → Except FileError FileSystem)
    (ran : ∀ machine, action machine =
      match update machine.files with
      | .ok files => (.ok (),{machine with files := files})
      | .error cause => (.error cause,machine)) : Steady action := by
  refine ⟨fun files => ⟨(update files).map fun _ => (),(update files).toOption.getD files,"",[]⟩,?_⟩
  intro machine
  rw [ran]
  cases updated : update machine.files with
  | ok files => simp [Effect.on,Machine.shown,Except.map,Except.toOption,updated]
  | error cause => simp [Effect.on,Machine.shown,Except.map,Except.toOption,updated]

theorem steady_create (path : String) :
    Steady (Host.create path : StateM Machine (Except FileError Unit)) :=
  steady_update (fun files => files.create path) fun _ => rfl

theorem steady_write (target : Target) (text : String) :
    Steady (Host.write target text : StateM Machine (Except FileError Unit)) := by
  cases target with
  | console =>
    refine ⟨fun files => ⟨.ok (),files,text,[]⟩,?_⟩
    intro machine
    change machine.write .console text = _
    simp [Machine.write,Effect.on,Machine.shown]
  | file path => exact steady_update (fun files => files.append path text) fun _ => rfl

end

section
variable (received : Received)

theorem steady_readSource : Steady (readSource (m := StateM Machine) received) := by
  unfold readSource
  cases received.value? inputOption.key with
  | none => exact (steady_log _ _).bind fun _ => steady_pure _
  | some path =>
    refine (steady_displayPath path).bind fun shown => (steady_log _ _).bind fun _ =>
      (steady_read path).bind fun answer => ?_
    cases answer with
    | ok text => exact steady_pure _
    | error cause => exact steady_pure _

theorem steady_openTarget : Steady (openTarget (m := StateM Machine) received) := by
  unfold openTarget
  cases received.value? outputOption.key with
  | none => exact (steady_log _ _).bind fun _ => steady_pure _
  | some path =>
    refine (steady_create path).bind fun answer => ?_
    cases answer with
    | ok _ => exact (steady_displayPath path).bind fun shown => (steady_log _ _).bind fun _ => steady_pure _
    | error cause => exact steady_pure _

theorem steady_writePieces (target : Target) (pieces : List Piece) :
    Steady (writePieces (m := StateM Machine) target pieces) := by
  induction pieces with
  | nil => exact steady_pure _
  | cons piece rest ih =>
    refine (steady_write target piece.text).bind fun answer => ?_
    cases answer with
    | ok _ => exact ih
    | error cause => exact steady_pure _

theorem steady_transform (view : View) : Steady (transform (m := StateM Machine) view received) :=
  (steady_readSource received).stage fun _ => (steady_pure _).stage fun _ =>
    (steady_openTarget received).stage fun target => (steady_pure _).stage fun pieces =>
      steady_writePieces target pieces

theorem steady_demonstrate : Steady (demonstrate (m := StateM Machine) received) :=
  (steady_openTarget received).stage fun target => (steady_pure _).stage fun pieces =>
    steady_writePieces target pieces

theorem steady_withChain {action : ExceptT CommandError (StateM Machine) Unit}
    (steady : Steady (action : StateM Machine (Except CommandError Unit))) : Steady (withChain action) :=
  steady.bind fun _ => steady_pure _

end
end PropFormula
