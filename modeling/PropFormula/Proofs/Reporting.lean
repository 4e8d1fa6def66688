import Mathlib.Data.List.Nodup
import PropFormula.Command.Announcer
import PropFormula.Proofs.Accepted
import PropFormula.Proofs.Running

namespace PropFormula
open Machine

-- What a launcher does on its host. What a command does there while it is executed is the command's own.
inductive Deed where
  | installed (threshold : Threshold)
  | recorded (level : Level) (message : String)
  | executed (name : String) (received : Received)
  deriving DecidableEq, Repr

abbrev Watched := StateT (List Deed) (StateM Machine)

namespace Watched

def note (deed : Deed) : Watched Unit := modify (fun deeds => deeds ++ [deed])

def unseen {α : Type} (action : StateM Machine α) : Watched α := StateT.lift action

end Watched

instance : Host Watched where
  canonical? path := Watched.unseen (Host.canonical? path)
  read path := Watched.unseen (Host.read path)
  create path := Watched.unseen (Host.create path)
  write target text := Watched.unseen (Host.write target text)
  install threshold := do
    Watched.note (.installed threshold)
    Watched.unseen (Host.install threshold)
  log level message := do
    Watched.note (.recorded level message)
    Watched.unseen (Host.log level message)

def Command.watched (command : Command (StateM Machine)) : Command Watched where
  name := command.name
  grammar := command.grammar
  execute received := do
    Watched.note (.executed command.name received)
    Watched.unseen (command.execute received)

def Program.watched (program : Program (StateM Machine)) : Program Watched where
  name := program.name
  version := program.version
  author := program.author
  about := program.about
  commands := program.commands.map Command.watched

-- The watched action does on this machine what the plain one does there, and the list grows by these deeds.
def Seen {α : Type} (watched : Watched α) (plain : StateM Machine α) (machine : Machine)
    (deeds : List Deed) : Prop :=
  ∀ before, watched before machine = (((plain machine).1,before ++ deeds),(plain machine).2)

section
variable {α β : Type} {machine : Machine}

theorem seen_pure (answer : α) : Seen (pure answer) (pure answer) machine [] := by
  intro before
  rw [List.append_nil]
  rfl

theorem Seen.bind {watched : Watched α} {plain : StateM Machine α} {later : α → Watched β}
    {plainLater : α → StateM Machine β} {first second : List Deed} {answer : α} {after : Machine}
    (one : Seen watched plain machine first) (ran : plain machine = (answer,after))
    (two : Seen (later answer) (plainLater answer) after second) :
    Seen (watched >>= later) (plain >>= plainLater) machine (first ++ second) := by
  intro before
  have began := one before
  rw [ran] at began
  have went : (watched >>= later) before machine = later answer (before ++ first) after := by
    change later (watched before machine).1.1 (watched before machine).1.2 (watched before machine).2 = _
    rw [began]
  rw [went,two,bind_run ran,List.append_assoc]

theorem seen_log (level : Level) (message : String) :
    Seen (Host.log level message) (Host.log level message) machine [.recorded level message] :=
  fun _ => rfl

theorem seen_install (threshold : Threshold) :
    Seen (Host.install threshold) (Host.install threshold) machine [.installed threshold] :=
  fun _ => rfl

theorem seen_execute (command : Command (StateM Machine)) (received : Received) :
    Seen (command.watched.execute received) (command.execute received) machine
      [.executed command.name received] :=
  fun _ => rfl

theorem seen_lines (level : Level) (lines : List String) :
    Seen (lines.forM (Host.log level)) (lines.forM (Host.log level)) machine
      (lines.map (Deed.recorded level)) := by
  induction lines generalizing machine with
  | nil => exact seen_pure ()
  | cons line rest ih => exact (seen_log level line).bind (log_run level line machine) ih

end

theorem settled_error {attempt : StateM Machine (Except ErrorChain Unit)} {machine after : Machine}
    {chain : ErrorChain} (tried : attempt machine = (.error chain,after)) :
    settled attempt machine =
      (.failed,{after with records := after.records ++ after.shown (chain.lines.map (Record.mk .error))}) := by
  unfold settled
  rw [bind_run tried]
  exact bind_run (forM_log_run .error chain.lines after)

theorem settled_ok {attempt : StateM Machine (Except ErrorChain Unit)} {machine after : Machine}
    (tried : attempt machine = (.ok (),after)) : settled attempt machine = (.completed,after) := by
  unfold settled
  rw [bind_run tried]
  rfl

def blameLines (name : String) (chain : ErrorChain) : List String :=
  ("while executing command \"" ++ name ++ "\"") ::
    chain.elements.map (fun element => "caused by: " ++ element)

namespace Program
variable {program : Program (StateM Machine)} {command : Command (StateM Machine)} {selection : Selection}

theorem watched_grammar (program : Program (StateM Machine)) : program.watched.grammar = program.grammar := by
  unfold grammar watched
  rw [List.map_map]
  rfl

theorem watched_command? (known : program.command? selection.command = some command) :
    program.watched.command? selection.command = some command.watched := by
  unfold command? watched
  rw [List.find?_map]
  exact congrArg (Option.map Command.watched) known

theorem name_of_command? {name : String} (known : program.command? name = some command) :
    command.name = name := by
  simpa using List.find?_some known

theorem command?_exact (distinct : (program.commands.map Command.name).Nodup) {name : String} :
    program.command? name = some command ↔ command ∈ program.commands ∧ command.name = name := by
  constructor
  · intro known
    exact ⟨List.mem_of_find?_eq_some known,name_of_command? known⟩
  · intro ⟨member,named⟩
    cases known : program.command? name with
    | none => exact absurd (beq_iff_eq.mpr named) (List.find?_eq_none.mp known command member)
    | some found =>
      have same : found.name = command.name := (name_of_command? known).trans named.symm
      rw [List.inj_on_of_nodup_map distinct (List.mem_of_find?_eq_some known) member same]

theorem selected (distinct : (program.commands.map Command.name).Nodup)
    (typed : ∀ command ∈ program.commands, command.grammar.name = command.name) {arguments : List String}
    (accepted : program.grammar.read arguments = .ok selection) :
    ∃ command, program.command? selection.command = some command ∧
      ∀ other ∈ program.commands, other.name = selection.command ↔ other = command := by
  obtain ⟨spec,_,found,_⟩ := ProgramSpec.read_cases accepted
  obtain ⟨command,member,rfl⟩ := List.mem_map.mp (List.mem_of_find?_eq_some found)
  have named : command.name = selection.command := by
    rw [← typed command member]
    simpa using List.find?_some found
  have known := (command?_exact distinct).mpr ⟨member,named⟩
  refine ⟨command,known,?_⟩
  intro other others
  constructor
  · intro same
    have again := (command?_exact distinct).mpr ⟨others,same⟩
    exact Option.some.inj (again.symm.trans known)
  · intro same
    rw [same,named]

def began (program : Program (StateM Machine)) (selection : Selection) : List Deed :=
  [.installed selection.threshold,.recorded .info program.banner,.executed selection.command selection.own]

theorem seen_dispatch (known : program.command? selection.command = some command) (machine : Machine) :
    Seen (program.watched.dispatch selection) (program.dispatch selection) machine
      [.recorded .info program.banner,.executed selection.command selection.own] := by
  have named := name_of_command? known
  unfold dispatch
  rw [watched_command? known,known,← named]
  refine (seen_log .info program.banner).bind (log_run .info program.banner machine) ?_
  cases executed : command.execute selection.own (machine.log .info program.banner) with
  | mk answer after =>
    refine (seen_execute command selection.own).bind executed ?_
    cases answer with
    | ok _ => exact seen_pure _
    | error chain => exact seen_pure _

def told : Except ErrorChain Unit → List String
  | .ok () => []
  | .error chain => chain.lines

theorem seen_run (known : program.command? selection.command = some command) {files : FileSystem}
    {answer : Except ErrorChain Unit} {after : Machine}
    (dispatched : program.dispatch selection (Machine.ready files selection.threshold) = (answer,after)) :
    Seen (program.watched.run selection) (program.run selection) (Machine.start files)
      (program.began selection ++ (told answer).map (Deed.recorded .error)) := by
  have installed : (Host.install selection.threshold : StateM Machine Bool) (Machine.start files) =
      (true,Machine.ready files selection.threshold) := rfl
  refine (seen_install selection.threshold).bind installed ?_
  refine (seen_dispatch known _).bind dispatched ?_
  cases answer with
  | ok _ => exact seen_pure _
  | error chain =>
    have reported : Seen (do report chain; return Outcome.failed) (do report chain; return Outcome.failed)
        after (chain.lines.map (Deed.recorded .error) ++ []) :=
      (seen_lines .error chain.lines).bind (forM_log_run .error chain.lines after) (seen_pure _)
    rw [List.append_nil] at reported
    exact reported

end Program

theorem shown_errors {machine : Machine} {threshold : Threshold} (kept : machine.threshold = some threshold)
    (lines : List String) :
    machine.shown (lines.map (Record.mk .error)) =
      if threshold = .off then [] else lines.map (Record.mk .error) := by
  unfold shown shows
  rw [kept]
  cases threshold with
  | off => simp [Threshold.off_shows]
  | upTo level =>
    have showing : (Threshold.upTo level).shows .error = true := by cases level <;> rfl
    rw [if_neg nofun]
    apply List.filter_eq_self.mpr
    intro record member
    obtain ⟨line,_,rfl⟩ := List.mem_map.mp member
    exact showing

def Reports (program : Program (StateM Machine)) (selection : Selection) (answer : Except ErrorChain Unit)
    (after : Machine) (outcome : Outcome) (deeds : List Deed) (final : Machine) : Prop :=
  match answer with
  | .ok () => outcome.status = 0 ∧ deeds = program.began selection ∧ final = after
  | .error chain =>
    let lines := blameLines selection.command chain
    outcome.status = 1 ∧ deeds = program.began selection ++ lines.map (Deed.recorded .error) ∧
      final = {after with records := after.records ++ after.shown (lines.map (Record.mk .error))} ∧
      (after.threshold = some selection.threshold →
        after.shown (lines.map (Record.mk .error)) =
          if selection.threshold = .off then [] else lines.map (Record.mk .error))

-- In a fresh process an accepted command line selects one command. It is executed once, on the machine with the
-- logger installed and the program announced, and its answer decides how the launch ends.
theorem launch_reports {program : Program (StateM Machine)} {arguments : List String} {selection : Selection}
    (distinct : (program.commands.map Command.name).Nodup)
    (typed : ∀ command ∈ program.commands, command.grammar.name = command.name)
    (accepted : program.grammar.read arguments = .ok selection) (files : FileSystem) :
    ∃ command ∈ program.commands, (∀ other ∈ program.commands, other.name = selection.command ↔ other = command) ∧
      ∃ answer after outcome deeds final,
        command.execute selection.own ((Machine.ready files selection.threshold).log .info program.banner) =
            (answer,after) ∧
        program.launch arguments (Machine.start files) = (outcome,final) ∧
        program.watched.launch arguments [] (Machine.start files) = ((outcome,deeds),final) ∧
        Reports program selection answer after outcome deeds final := by
  obtain ⟨command,known,sole⟩ := Program.selected distinct typed accepted
  have launched : program.launch arguments = program.run selection := by
    unfold Program.launch
    rw [accepted]
  have watchedLaunched : program.watched.launch arguments = program.watched.run selection := by
    unfold Program.launch
    rw [Program.watched_grammar,accepted]
  have dispatched := Program.dispatch_known known (Machine.ready files selection.threshold)
  refine ⟨command,List.mem_of_find?_eq_some known,sole,?_⟩
  rw [launched,watchedLaunched]
  cases executed : command.execute selection.own
      ((Machine.ready files selection.threshold).log .info program.banner) with
  | mk answer after =>
    rw [executed] at dispatched
    cases answer with
    | ok _ =>
      have seen := Program.seen_run known dispatched []
      have ran := settled_ok dispatched
      rw [program.run_settled,ran] at seen
      exact ⟨_,_,_,_,_,rfl,ran,seen,rfl,List.append_nil _,rfl⟩
    | error chain =>
      have seen := Program.seen_run known dispatched []
      have ran := settled_error dispatched
      rw [program.run_settled,ran] at seen
      exact ⟨_,_,_,_,_,rfl,ran,seen,rfl,rfl,rfl,fun kept => shown_errors kept _⟩

-- Two commands, of which one fails for a reason that has a reason.
def chorus : Program (StateM Machine) where
  name := "chorus"
  version := "2.0"
  author := ""
  about := ""
  commands := [announcer "echo" "echo" [],announcer "sing" "sing" ["no voice","sore throat"]]

theorem failed_singing_reported :
    (chorus.commands.map Command.name).Nodup ∧
      (∀ command ∈ chorus.commands, command.grammar.name = command.name) ∧
      chorus.grammar.read ["sing","loud","--logging-level","warn"] =
        .ok ⟨"sing",⟨[],[]⟩,⟨["LOGGING_LEVEL"],[("WORD","loud"),("LOGGING_LEVEL","warn")]⟩⟩ ∧
      ∃ outcome deeds final,
        chorus.launch ["sing","loud","--logging-level","warn"] (Machine.start (.initial ["work"])) =
            (outcome,final) ∧
        chorus.watched.launch ["sing","loud","--logging-level","warn"] [] (Machine.start (.initial ["work"])) =
            ((outcome,deeds),final) ∧
        outcome.status = 1 ∧
        deeds =
          [.installed (.upTo .warn),.recorded .info "chorus 2.0",
            .executed "sing" ⟨["LOGGING_LEVEL"],[("WORD","loud"),("LOGGING_LEVEL","warn")]⟩,
            .recorded .error "while executing command \"sing\"",.recorded .error "caused by: no voice",
            .recorded .error "caused by: sore throat"] ∧
        final.records =
          [⟨.warn,"warn loud"⟩,⟨.error,"error loud"⟩,⟨.error,"while executing command \"sing\""⟩,
            ⟨.error,"caused by: no voice"⟩,⟨.error,"caused by: sore throat"⟩] := by
  have distinct : (chorus.commands.map Command.name).Nodup := by decide
  have typed : ∀ command ∈ chorus.commands, command.grammar.name = command.name := by
    intro command member
    simp only [chorus,List.mem_cons,List.not_mem_nil,or_false] at member
    obtain rfl | rfl := member <;> rfl
  have accepted : chorus.grammar.read ["sing","loud","--logging-level","warn"] =
      .ok ⟨"sing",⟨[],[]⟩,⟨["LOGGING_LEVEL"],[("WORD","loud"),("LOGGING_LEVEL","warn")]⟩⟩ := by
    rfl
  obtain ⟨command,member,sole,answer,after,outcome,deeds,final,executed,launched,watched,reports⟩ :=
    launch_reports distinct typed accepted (.initial ["work"])
  refine ⟨distinct,typed,accepted,outcome,deeds,final,launched,watched,?_⟩
  have found : command = announcer "sing" "sing" ["no voice","sore throat"] :=
    ((sole _ (.tail _ (.head _))).mp rfl).symm
  subst found
  cases executed
  obtain ⟨failed,done,left,_⟩ := reports
  exact ⟨failed,done,by rw [left]; rfl⟩

end PropFormula
