import PropFormula.Proofs.Walking
import PropFormula.Render.Clauses
import PropFormula.Render.Infix

namespace PropFormula
variable {ε σ τ α β : Type}

def leftBy (action : EStateM ε σ α) (state : σ) : σ :=
  match action.run state with
  | .ok _ after => after
  | .error _ after => after

def answerOf (action : EStateM ε σ α) (state : σ) : Except ε α :=
  match action.run state with
  | .ok answer _ => .ok answer
  | .error fault _ => .error fault

-- A part of the state that an action leaves as it was, whatever becomes of the action.
def Keeps (view : σ → τ) (action : EStateM ε σ α) : Prop :=
  ∀ state, view (leftBy action state) = view state

section
variable {view : σ → τ}

theorem keeps_pure (answer : α) : Keeps view (pure answer : EStateM ε σ α) := fun _ => rfl

theorem keeps_throw (fault : ε) : Keeps view (throw fault : EStateM ε σ α) := fun _ => rfl

theorem keeps_get : Keeps view (get : EStateM ε σ σ) := fun _ => rfl

theorem keeps_modify {change : σ → σ} (same : ∀ state, view (change state) = view state) :
    Keeps view (modify change : EStateM ε σ PUnit) := same

theorem Keeps.bind {action : EStateM ε σ α} {later : α → EStateM ε σ β} (first : Keeps view action)
    (second : ∀ answer, Keeps view (later answer)) : Keeps view (action >>= later) := by
  intro state
  have before := first state
  unfold leftBy at before ⊢
  rw [EStateM.run_bind]
  cases ran : action.run state with
  | error fault after =>
    rw [ran] at before
    exact before
  | ok answer after =>
    rw [ran] at before
    exact (second answer after).trans before

theorem keeps_along {walker : Walker ε σ} (handles : ∀ node, Keeps view (walker.handle node))
    (nodes : List Formula) : Keeps view (walker.along nodes) := by
  induction nodes with
  | nil => exact keeps_pure false
  | cons node rest ih =>
    rw [Walker.along]
    refine (handles node).bind fun _ => keeps_get.bind fun state => ?_
    split
    · exact keeps_pure true
    · exact ih

end

inductive WriterCall where
  | render (tree : Formula)
  | visit (tree : Formula)
  | traverse (tree : Formula)

namespace InfixWriter

def call : WriterCall → EStateM Fault String Unit
  | .render tree => do let _ ← render tree
  | .visit tree => walker.visit tree
  | .traverse tree => do let _ ← walker.traverse tree

def afterCalls (calls : List WriterCall) : String :=
  calls.foldl (fun buffer request => leftBy (call request) buffer) ""

theorem render_run (tree : Formula) (buffer : String) : (render tree).run buffer = (render tree).run "" := rfl

theorem answer_render (tree : Formula) (buffer : String) : answerOf (render tree) buffer = tree.toInfix := by
  unfold answerOf Formula.toInfix
  rw [render_run]
  cases (render tree).run "" <;> rfl

end InfixWriter

namespace ClauseWriter

inductive Request where
  | call (request : WriterCall)
  | setSeparator (separator : String)

def call : WriterCall → EStateM Fault ClauseWriter Unit
  | .render tree => do let _ ← render tree
  | .visit tree => walker.visit tree
  | .traverse tree => do let _ ← walker.traverse tree

def perform : Request → EStateM Fault ClauseWriter Unit
  | .call request => call request
  | .setSeparator separator => setSeparator separator

def afterRequests (requests : List Request) : ClauseWriter :=
  requests.foldl (fun writer request => leftBy (perform request) writer) fresh

def Request.separator (before : String) : Request → String
  | .call _ => before
  | .setSeparator separator => separator

def lastSeparator (requests : List Request) : String :=
  requests.foldl Request.separator fresh.separator

theorem keeps_put (text : String) : Keeps separator (put text) := keeps_modify fun _ => rfl

mutual
theorem keeps_write : (tree : Formula) → Keeps separator (write tree)
  | .node (.binary .and) operands => by
    rw [write]
    exact keeps_get.bind fun writer => keeps_writeAll writer.separator operands
  | .node (.binary .or) operands => by
    rw [write]
    exact keeps_writeAll " " operands
  | .node (.binary .imp) _ => by rw [write]; exact keeps_pure ()
  | .node (.binary .iff) _ => by rw [write]; exact keeps_pure ()
  | .node .not (operand :: _) => by
    rw [write]
    exact (keeps_put "-").bind fun _ => keeps_write operand
  | .node .not [] => by
    rw [write]
    exact (keeps_put "-").bind fun _ => keeps_throw Fault.noOperand
  | .node (.var name) _ => by rw [write]; exact keeps_put name
  | .node .top _ => by rw [write]; exact keeps_pure ()
  | .node .bot _ => by rw [write]; exact keeps_pure ()
theorem keeps_writeAll (between : String) :
    (operands : List Formula) → Keeps separator (writeAll between operands)
  | [] => by rw [writeAll]; exact keeps_pure ()
  | [operand] => by rw [writeAll]; exact keeps_write operand
  | operand :: next :: rest => by
    rw [writeAll]
    exact (keeps_write operand).bind fun _ =>
      (keeps_put between).bind fun _ => keeps_writeAll between (next :: rest)
end

theorem keeps_call (request : WriterCall) : Keeps separator (call request) := by
  cases request with
  | render tree =>
    have cleared : Keeps separator
        (modify fun writer => {writer with buffer := ""} : EStateM Fault ClauseWriter PUnit) :=
      keeps_modify fun _ => rfl
    exact (cleared.bind fun _ => (keeps_write tree).bind fun _ =>
      keeps_get.bind fun _ => cleared.bind fun _ => keeps_pure _).bind fun _ => keeps_pure ()
  | visit tree => exact keeps_write tree
  | traverse tree =>
    have walked : Keeps separator (walker.traverse tree) := by
      rw [Walker.traverse_along]
      exact keeps_along keeps_write tree.preorder
    exact walked.bind fun _ => keeps_pure ()

theorem separator_after (requests : List Request) (writer : ClauseWriter) :
    (requests.foldl (fun writer request => leftBy (perform request) writer) writer).separator =
      requests.foldl Request.separator writer.separator := by
  induction requests generalizing writer with
  | nil => rfl
  | cons request rest ih =>
    have step : (leftBy (perform request) writer).separator = request.separator writer.separator := by
      cases request with
      | call request => exact keeps_call request writer
      | setSeparator next => rfl
    rw [List.foldl_cons,List.foldl_cons,ih,step]

theorem render_run (tree : Formula) (writer : ClauseWriter) :
    (render tree).run writer = (render tree).run ⟨"",writer.separator⟩ := rfl

theorem answer_render (tree : Formula) (writer : ClauseWriter) :
    answerOf (render tree) writer = tree.toClausesWith writer.separator := by
  unfold answerOf Formula.toClausesWith
  rw [render_run]
  cases (render tree).run ⟨"",writer.separator⟩ <;> rfl

end ClauseWriter

-- A rendering after any calls is the one of a fresh writer, which is given the last separator set.
theorem rendering_forgets_history :
    (∀ (calls : List WriterCall) (tree : Formula),
      (InfixWriter.render tree).run (InfixWriter.afterCalls calls) = (InfixWriter.render tree).run "" ∧
      answerOf (InfixWriter.render tree) (InfixWriter.afterCalls calls) = tree.toInfix) ∧
    ∀ (requests : List ClauseWriter.Request) (tree : Formula),
      (ClauseWriter.render tree).run (ClauseWriter.afterRequests requests) =
        (ClauseWriter.render tree).run ⟨"",ClauseWriter.lastSeparator requests⟩ ∧
      (ClauseWriter.lastSeparator requests = "\n" →
        answerOf (ClauseWriter.render tree) (ClauseWriter.afterRequests requests) = tree.toClauses) := by
  refine ⟨?_,?_⟩
  · intro calls tree
    exact ⟨InfixWriter.render_run tree _,InfixWriter.answer_render tree _⟩
  · intro requests tree
    have separator : (ClauseWriter.afterRequests requests).separator = ClauseWriter.lastSeparator requests :=
      ClauseWriter.separator_after requests ClauseWriter.fresh
    refine ⟨?_,?_⟩
    · rw [ClauseWriter.render_run,separator]
    · intro lineFeed
      rw [ClauseWriter.answer_render,separator,lineFeed]
      rfl

-- A visit that faults in mid-tree, another separator for a while, and a walk that leaves text behind.
theorem dirty_writer_renders_anew :
    ClauseWriter.lastSeparator
        [.call (.visit (.binary .or (.var "x") (.node .not []))),.setSeparator "; ",
          .call (.traverse (.binary .and (.var "x") (.var "y"))),.setSeparator "\n"] = "\n" ∧
      answerOf (ClauseWriter.render (.binary .and (.var "a") (.not (.var "b"))))
          (ClauseWriter.afterRequests
            [.call (.visit (.binary .or (.var "x") (.node .not []))),.setSeparator "; ",
              .call (.traverse (.binary .and (.var "x") (.var "y"))),.setSeparator "\n"]) =
        Formula.toClauses (.binary .and (.var "a") (.not (.var "b"))) ∧
      Formula.toClauses (.binary .and (.var "a") (.not (.var "b"))) = .ok "a\n-b" :=
  ⟨rfl,(rendering_forgets_history.2 _ _).2 rfl,by rfl⟩

end PropFormula
