import PropFormula.Proofs.Accepted
import PropFormula.Proofs.ClauseRendering
import PropFormula.Proofs.RoundTrip
import PropFormula.Proofs.Stages

namespace PropFormula
open Machine

namespace View

def commandName : View → String
  | .parenthesized => "infix"
  | .clauses => "clause"
  | .shape => "shape"

def activity : View → String
  | .parenthesized => infixActivity
  | .clauses => clauseActivity
  | .shape => shapeActivity

def body (view : View) (tree : Formula) : Except Fault String :=
  match view with
  | .parenthesized => tree.toInfix.map (· ++ "\n")
  | .clauses => tree.toClauses.map (· ++ "\n")
  | .shape => .ok <|
    "conjunction: " ++ yesNo tree.isConjunction ++ "\n" ++
    ("disjunction: " ++ yesNo tree.isDisjunction ++ "\n" ++
      ("variables: " ++ " ".intercalate tree.variableNames ++ "\n"))

variable {view : View} {tree : Formula} {text body : String}

theorem body_of_parse (view : View) (parsed : Formula.parse text = .ok tree) :
    ∃ body, view.body tree = .ok body := by
  have proper := Formula.proper_of_parse parsed
  cases view with
  | parenthesized =>
    obtain ⟨written,rendered,_⟩ := proper.reread
    exact ⟨written ++ "\n",by rw [View.body,rendered]; rfl⟩
  | clauses =>
    have rendered : tree.toClauses = .ok _ := ClauseWriter.toClauses_of_proper proper "\n"
    exact ⟨_,by rw [View.body,rendered]; rfl⟩
  | shape => exact ⟨_,rfl⟩

theorem rendered_of_line {activity : String} {rendering : Except Fault String}
    (shown : rendering.map (· ++ "\n") = .ok body) : rendered activity rendering = .ok [⟨activity,body⟩] := by
  cases rendering with
  | error fault => cases shown
  | ok text => cases shown; rfl

theorem pieces_of_body (shown : view.body tree = .ok body) :
    ∃ first rest, view.pieces tree = .ok (first :: rest) ∧ first.activity = view.activity ∧
      joined (first :: rest) = body := by
  cases view with
  | parenthesized | clauses =>
    refine ⟨_,[],rendered_of_line shown,rfl,?_⟩
    rw [joined_cons,joined_nil,String.append_empty]
  | shape =>
    cases shown
    refine ⟨_,_,rfl,rfl,?_⟩
    rw [joined_cons,joined_cons,joined_cons,joined_nil,String.append_empty]

end View

-- How a transformation ends on these files: with this answer, with these files, having printed this. In none of
-- the ways does a rendering fault, because only trees that some text denotes are rendered.
inductive Transforms (view : View) (received : Received) (files : FileSystem) :
    Except CommandError Unit → FileSystem → String → Prop where
  | unread {path : String} {cause : FileError} (input : received.value? inputOption.key = some path)
      (refused : files.read path = .error cause) :
      Transforms view received files (.error (.reading path cause)) files ""
  | malformed {text : String} {cause : SyntaxError} (supplied : Supplies files received text)
      (refused : Formula.parse text = .error cause) :
      Transforms view received files (.error (.parsing text cause)) files ""
  | uncreated {text path : String} {tree : Formula} {cause : FileError}
      (supplied : Supplies files received text) (parsed : Formula.parse text = .ok tree)
      (output : received.value? outputOption.key = some path) (refused : files.create path = .error cause) :
      Transforms view received files (.error (.creating path cause)) files ""
  | unwritten {text path body : String} {tree : Formula} {created : FileSystem} {cause : FileError}
      (supplied : Supplies files received text) (parsed : Formula.parse text = .ok tree)
      (output : received.value? outputOption.key = some path) (made : files.create path = .ok created)
      (refused : created.append path body = .error cause) :
      Transforms view received files (.error (.writing view.activity cause)) created ""
  | printed {text body : String} {tree : Formula}
      (supplied : Supplies files received text) (parsed : Formula.parse text = .ok tree)
      (shown : view.body tree = .ok body) (outputless : received.value? outputOption.key = none) :
      Transforms view received files (.ok ()) files body
  | stored {text path body : String} {tree : Formula} {created final : FileSystem}
      (supplied : Supplies files received text) (parsed : Formula.parse text = .ok tree)
      (shown : view.body tree = .ok body) (output : received.value? outputOption.key = some path)
      (made : files.create path = .ok created) (wrote : created.append path body = .ok final) :
      Transforms view received files (.ok ()) final ""

namespace Transforms
variable {view : View} {received : Received} {files after : FileSystem} {written : String}
  {answer : Except CommandError Unit}

theorem succeeds_iff (ends : Transforms view received files answer after written) :
    answer = .ok () ↔
      (∃ text tree, Supplies files received text ∧ Formula.parse text = .ok tree) ∧
        ∀ path, received.value? outputOption.key = some path → files.Writable path := by
  constructor
  · rintro rfl
    cases ends with
    | printed supplied parsed shown outputless =>
      exact ⟨⟨_,_,supplied,parsed⟩,fun path output => by rw [outputless] at output; cases output⟩
    | stored supplied parsed shown output made wrote =>
      refine ⟨⟨_,_,supplied,parsed⟩,?_⟩
      intro path again
      rw [output] at again
      cases again
      exact ⟨_,made,FileSystem.append_other wrote⟩
  · rintro ⟨⟨text,tree,supplied,parsed⟩,writable⟩
    cases ends with
    | unread input refused =>
      cases supplied with
      | given formula alone => rw [alone] at input; cases input
      | stored input' readable =>
        rw [input] at input'
        cases input'
        rw [refused] at readable
        cases readable
    | malformed supplied' refused =>
      cases supplied.unique supplied'
      rw [refused] at parsed
      cases parsed
    | uncreated _ _ output refused =>
      obtain ⟨created,made,_⟩ := writable _ output
      rw [refused] at made
      cases made
    | unwritten _ _ output made refused =>
      obtain ⟨created,made',fits⟩ := writable _ output
      rw [made] at made'
      cases made'
      obtain ⟨final,wrote⟩ := fits _
      rw [refused] at wrote
      cases wrote
    | printed | stored => rfl

theorem delivered (ends : Transforms view received files (.ok ()) after written) :
    ∃ text tree body, Supplies files received text ∧ Formula.parse text = .ok tree ∧
      view.body tree = .ok body ∧
      (received.value? outputOption.key = none → written = body ∧ after = files) ∧
      ∀ path, received.value? outputOption.key = some path → written = "" ∧ files.Stores path body after := by
  cases ends with
  | printed supplied parsed shown outputless =>
    refine ⟨_,_,_,supplied,parsed,shown,fun _ => ⟨rfl,rfl⟩,?_⟩
    intro path output
    rw [outputless] at output
    cases output
  | stored supplied parsed shown output made wrote =>
    refine ⟨_,_,_,supplied,parsed,shown,?_,?_⟩
    · intro outputless
      rw [outputless] at output
      cases output
    · intro path again
      rw [output] at again
      cases again
      exact ⟨rfl,FileSystem.stores_of_append made wrote⟩

theorem untouched (ends : Transforms view received files answer after written)
    (unavailable : ¬ ∃ text tree, Supplies files received text ∧ Formula.parse text = .ok tree) :
    written = "" ∧ after = files := by
  cases ends with
  | unread | malformed => exact ⟨rfl,rfl⟩
  | uncreated supplied parsed | unwritten supplied parsed | printed supplied parsed | stored supplied parsed =>
    exact absurd ⟨_,_,supplied,parsed⟩ unavailable

end Transforms

section
variable {view : View} {received : Received} {machine : Machine}

def Reaches (view : View) (received : Received) (machine : Machine)
    (result : Except CommandError Unit × Machine) : Prop :=
  ∃ written, Transforms view received machine.files result.1 result.2.files written ∧
    result.2.output = machine.output ++ written

theorem Reaches.after_log {after : Machine} {result : Except CommandError Unit × Machine}
    (reached : Reaches view received after result) (logged : machine.Logged after) :
    Reaches view received machine result := by
  obtain ⟨written,ends,output⟩ := reached
  rw [logged.files] at ends
  rw [logged.output] at output
  exact ⟨written,ends,output⟩

theorem reaches_quietly {answer : Except CommandError Unit} {after : Machine}
    (ends : Transforms view received machine.files answer after.files "")
    (quiet : after.output = machine.output) : Reaches view received machine (answer,after) :=
  ⟨"",ends,quiet.trans String.append_empty.symm⟩

def deliver (view : View) (received : Received) (tree : Formula) :
    ExceptT CommandError (StateM Machine) Unit := do
  let target ← ExceptT.mk (openTarget received)
  let pieces ← ExceptT.mk (pure (view.pieces tree))
  ExceptT.mk (writePieces target pieces)

theorem deliver_opened {tree : Formula} {pieces : List Piece} {target : Target} {after : Machine}
    (cut : view.pieces tree = .ok pieces)
    (opened : openTarget (m := StateM Machine) received machine = (.ok target,after)) :
    deliver view received tree machine = writePieces (m := StateM Machine) target pieces after := by
  unfold deliver
  rw [stage_continues opened,cut]
  rfl

theorem deliver_reaches {text : String} {tree : Formula} (supplied : Supplies machine.files received text)
    (parsed : Formula.parse text = .ok tree) :
    Reaches view received machine (deliver view received tree machine) := by
  obtain ⟨_,shown⟩ := view.body_of_parse parsed
  obtain ⟨first,rest,cut,activity,rfl⟩ := View.pieces_of_body shown
  cases output : received.value? outputOption.key with
  | none =>
    have logged := logged_log machine .info "setting output to STDOUT"
    rw [deliver_opened cut (openTarget_console output machine),writePieces_console]
    refine ⟨joined (first :: rest),?_,?_⟩
    · rw [← logged.files] at supplied ⊢
      exact .printed supplied parsed shown output
    · rw [← logged.output]
  | some path =>
    have opened := openTarget_file output machine
    cases made : machine.files.create path with
    | error cause =>
      rw [made] at opened
      unfold deliver
      rw [stage_stops opened]
      exact reaches_quietly (.uncreated supplied parsed output made) rfl
    | ok created =>
      rw [made] at opened
      rw [deliver_opened cut opened]
      -- The name logged is read off the new files, so what it says does not matter from here on.
      have logged := logged_log {machine with files := created} .info
        ("setting output file to " ++ (created.canonical? path).getD path)
      generalize Machine.log {machine with files := created} .info _ = after at logged ⊢
      cases wrote : created.append path (joined (first :: rest)) with
      | error cause =>
        have refused : after.files.append path (joined (first :: rest)) = .error cause := logged.files ▸ wrote
        rw [writePieces_refused refused,activity]
        refine reaches_quietly ?_ logged.output
        rw [logged.files]
        exact .unwritten supplied parsed output made wrote
      | ok final =>
        have kept : after.files.append path (joined (first :: rest)) = .ok final := logged.files ▸ wrote
        rw [writePieces_wrote (List.cons_ne_nil first rest) kept]
        exact reaches_quietly (.stored supplied parsed shown output made wrote) logged.output

theorem transform_reaches (view : View) (sourced : OneSource received) (machine : Machine) :
    Reaches view received machine (transform (m := StateM Machine) view received machine) := by
  unfold transform
  obtain ⟨after,logged,⟨text,ran,supplied⟩ | ⟨path,cause,ran,input,refused⟩⟩ := readSource_cases sourced machine
  · rw [stage_continues ran]
    refine Reaches.after_log ?_ logged
    rw [← logged.files] at supplied
    cases parsed : Formula.parse text with
    | error cause =>
      have stopped : (pure (parseSource text) : StateM Machine _) after =
          (.error (.parsing text cause),after) := by
        rw [parseSource,parsed]
        rfl
      rw [stage_stops stopped]
      exact reaches_quietly (.malformed supplied parsed) rfl
    | ok tree =>
      have continued : (pure (parseSource text) : StateM Machine _) after = (.ok tree,after) := by
        rw [parseSource,parsed]
        rfl
      rw [stage_continues continued]
      exact deliver_reaches supplied parsed
  · rw [stage_stops ran]
    refine Reaches.after_log ?_ logged
    rw [← logged.files] at refused
    exact reaches_quietly (.unread input refused) rfl

end

def machineProgram : Program (StateM Machine) := formulaProgram

def launched (files : FileSystem) (arguments : List String) : Outcome × Machine :=
  machineProgram.launch arguments (Machine.start files)

theorem command_of_view (view : View) :
    ∃ about, machineProgram.command? view.commandName = some (transformation view.commandName about view) ∧
      machineProgram.grammar.command? view.commandName =
        some (transformation (m := StateM Machine) view.commandName about view).grammar := by
  cases view <;> exact ⟨_,rfl,rfl⟩

section
variable {arguments : List String} {selection : Selection} {view : View}

theorem oneSource_of_read (accepted : machineProgram.grammar.read arguments = .ok selection)
    (named : selection.command = view.commandName) : OneSource selection.own := by
  obtain ⟨command,reading,known,checked,answered⟩ := ProgramSpec.read_cases accepted
  obtain ⟨about,_,expected⟩ := command_of_view view
  rw [named,expected] at known
  cases known
  have one : [formulaOption,inputOption].countP selection.own.has = 1 := Scope.check_sources checked nofun
  have formula : (selection.own.value? formulaOption.key).isSome = selection.own.has formulaOption :=
    Scope.check_value (answered rfl) checked List.mem_cons_self
  have input : (selection.own.value? inputOption.key).isSome = selection.own.has inputOption :=
    Scope.check_value (answered rfl) checked (List.mem_cons_of_mem _ List.mem_cons_self)
  rw [List.countP_cons,List.countP_singleton,← formula,← input] at one
  cases text : selection.own.value? formulaOption.key with
  | none =>
    cases path : selection.own.value? inputOption.key with
    | none => rw [text,path] at one; cases one
    | some path' => exact .input path text
  | some text' =>
    cases path : selection.own.value? inputOption.key with
    | none => exact .formula text path
    | some _ => rw [text,path] at one; cases one

theorem launched_transforms (accepted : machineProgram.grammar.read arguments = .ok selection)
    (named : selection.command = view.commandName) (files : FileSystem) :
    ∃ outcome after answer, launched files arguments = (outcome,after) ∧
      Transforms view selection.own files answer after.files after.output ∧
      (outcome.status = 0 ↔ answer = .ok ()) := by
  obtain ⟨about,known,_⟩ := command_of_view view
  rw [← named] at known
  have begins : (Machine.start files).Logged
      (((Machine.start files).install selection.threshold).2.log .info machineProgram.banner) :=
    (logged_install _ _).trans (logged_log _ _ _)
  obtain ⟨written,ends,output⟩ :=
    (transform_reaches view (oneSource_of_read accepted named) _).after_log begins
  unfold launched Program.launch
  rw [accepted]
  dsimp only
  rw [Program.run_start,Program.dispatch_known known]
  have executed (machine : Machine) :
      (transformation (m := StateM Machine) selection.command about view).execute selection.own machine =
        ((transform (m := StateM Machine) view selection.own machine).1.mapError CommandError.chain,
          (transform (m := StateM Machine) view selection.own machine).2) := rfl
  rw [executed]
  generalize transform (m := StateM Machine) view selection.own _ = result at ends output ⊢
  obtain ⟨answer,after⟩ := result
  have printed : after.output = written := output.trans String.empty_append
  rw [← printed] at ends
  cases answer with
  | ok _ => exact ⟨.completed,after,.ok (),rfl,ends,fun _ => rfl,fun _ => rfl⟩
  | error cause =>
    have reported := logged_forM .error
      (cause.chain.context ("while executing command \"" ++ selection.command ++ "\"")).lines after
    refine ⟨.failed,_,.error cause,rfl,?_,nofun,nofun⟩
    rw [← reported.files,← reported.output] at ends
    exact ends

end

-- A launch succeeds if a formula is to be had and the output to be written. Then the body is on the console or in
-- the file and nowhere else, or nowhere at all if the output is the null device. Without a formula nothing has
-- changed, and no rendering faults.
theorem transformation_outcome {arguments : List String} {selection : Selection} {view : View}
    (accepted : machineProgram.grammar.read arguments = .ok selection)
    (named : selection.command = view.commandName) (files : FileSystem) :
    ∃ outcome after, launched files arguments = (outcome,after) ∧
      OneSource selection.own ∧
      (outcome.status = 0 ↔
        (∃ text tree, Supplies files selection.own text ∧ Formula.parse text = .ok tree) ∧
          ∀ path, selection.own.value? outputOption.key = some path → files.Writable path) ∧
      (outcome.status = 0 →
        ∃ text tree body, Supplies files selection.own text ∧ Formula.parse text = .ok tree ∧
          view.body tree = .ok body ∧
          (selection.own.value? outputOption.key = none → after.output = body ∧ after.files = files) ∧
          ∀ path, selection.own.value? outputOption.key = some path →
            after.output = "" ∧ files.Stores path body after.files) ∧
      ((¬ ∃ text tree, Supplies files selection.own text ∧ Formula.parse text = .ok tree) →
        after.output = "" ∧ after.files = files) ∧
      ∀ machine fault,
        (transform (m := StateM Machine) view selection.own machine).1 ≠ .error (.rendering fault) := by
  obtain ⟨outcome,after,answer,ran,ends,succeeds⟩ := launched_transforms accepted named files
  refine ⟨outcome,after,ran,oneSource_of_read accepted named,succeeds.trans ends.succeeds_iff,?_,
    ends.untouched,?_⟩
  · intro success
    cases succeeds.mp success
    exact ends.delivered
  · intro machine fault faulted
    obtain ⟨written,ends,_⟩ := transform_reaches view (oneSource_of_read accepted named) machine
    rw [faulted] at ends
    cases ends

def formulaBesideDirectory : FileSystem :=
  .ofEntries ["work"] [(["in.txt"],.file "x & (!y | z)".toUTF8),(["d"],.directory)]

-- The input is its own output, by another name.
theorem clauses_replace_their_input :
    machineProgram.grammar.read ["clause","-i","in.txt","-o","d/../in.txt"] =
        .ok ⟨"clause",⟨[],[]⟩,⟨["INPUT","OUTPUT"],[("INPUT","in.txt"),("OUTPUT","d/../in.txt")]⟩⟩ ∧
      "clause" = View.commandName .clauses ∧
      ∃ outcome after,
        launched formulaBesideDirectory ["clause","-i","in.txt","-o","d/../in.txt"] = (outcome,after) ∧
        outcome.status = 0 ∧ after.output = "" ∧
        formulaBesideDirectory.Stores "d/../in.txt" "x\n-y z\n" after.files := by
  have accepted : machineProgram.grammar.read ["clause","-i","in.txt","-o","d/../in.txt"] =
      .ok ⟨"clause",⟨[],[]⟩,⟨["INPUT","OUTPUT"],[("INPUT","in.txt"),("OUTPUT","d/../in.txt")]⟩⟩ := by
    rfl
  have named : "clause" = View.commandName .clauses := rfl
  have supplied : Supplies formulaBesideDirectory
      ⟨["INPUT","OUTPUT"],[("INPUT","in.txt"),("OUTPUT","d/../in.txt")]⟩ "x & (!y | z)" := .stored rfl rfl
  have parsed : Formula.parse "x & (!y | z)" =
      .ok (.binary .and (.var "x") (.binary .or (.not (.var "y")) (.var "z"))) := by
    decide +kernel
  have writable : formulaBesideDirectory.Writable "d/../in.txt" := by
    refine ⟨formulaBesideDirectory.put ["work","in.txt"] (.file .empty),rfl,?_⟩
    intro body
    exact ⟨_,rfl⟩
  obtain ⟨outcome,after,ran,_,succeeds,delivers,_⟩ :=
    transformation_outcome accepted named formulaBesideDirectory
  have success : outcome.status = 0 := by
    refine succeeds.mpr ⟨⟨_,_,supplied,parsed⟩,?_⟩
    rintro _ ⟨⟩
    exact writable
  obtain ⟨text,tree,body,supplied',parsed',shown,_,stores⟩ := delivers success
  cases supplied'.unique supplied
  rw [parsed] at parsed'
  cases parsed'
  cases shown
  exact ⟨accepted,named,outcome,after,ran,success,stores _ rfl⟩

end PropFormula
