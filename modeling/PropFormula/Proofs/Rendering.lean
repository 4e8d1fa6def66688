import PropFormula.Render.Infix
import PropFormula.Token

namespace PropFormula

section
variable {σ : Type} {hold : String → σ} {action later : EStateM Fault σ Unit} {text more : String}
  {first second : Option Fault}

-- What an action leaves in a state that holds a buffer: the fault there is, or this text behind the buffer.
def Leaves (hold : String → σ) (action : EStateM Fault σ Unit) : Option Fault → String → Prop
  | none, text => ∀ buffer, action.run (hold buffer) = .ok () (hold (buffer ++ text))
  | some fault, _ => ∀ buffer, ∃ left, action.run (hold buffer) = .error fault left

theorem Leaves.andThen (one : Leaves hold action first text) (two : Leaves hold later second more) :
    Leaves hold (do action; later) (first.or second) (text ++ more) := by
  cases first with
  | some fault =>
    intro buffer
    obtain ⟨left,failed⟩ := one buffer
    exact ⟨left,by rw [EStateM.run_bind,failed]⟩
  | none =>
    cases second with
    | none =>
      intro buffer
      have rest := two (buffer ++ text)
      rw [EStateM.run_bind,one buffer,← String.append_assoc]
      exact rest
    | some fault =>
      intro buffer
      obtain ⟨left,failed⟩ := two (buffer ++ text)
      exact ⟨left,by rw [EStateM.run_bind,one buffer]; exact failed⟩

end

namespace InfixWriter

def Adds (action : EStateM Fault String Unit) (text : String) : Prop :=
  ∀ buffer, action.run buffer = .ok () (buffer ++ text)

theorem adds_put (text : String) : Adds (put text) text := fun _ => rfl

theorem Adds.andThen {action later : EStateM Fault String Unit} {text more : String}
    (first : Adds action text) (second : Adds later more) :
    Adds (do action; later) (text ++ more) := by
  have one : Leaves id action none text := first
  have two : Leaves id later none more := second
  exact one.andThen two

def Writes (tree : Formula) (text : String) : Prop := Adds (write tree) text

theorem writes_atom (atom : Atom) : Writes (.leaf atom.label) atom.text := by
  unfold Writes
  cases atom <;> simp only [Formula.leaf,Atom.label,write] <;> exact adds_put _

theorem Writes.not {operand : Formula} {text : String} (inner : Writes operand text) :
    Writes (.not operand) ("!" ++ text) := by
  unfold Writes
  simp only [Formula.not,write]
  exact (adds_put "!").andThen inner

theorem Writes.binary {left right : Formula} {leftText rightText : String} (connective : Connective)
    (first : Writes left leftText) (second : Writes right rightText) :
    Writes (.binary connective left right)
      ("(" ++ (leftText ++ (spaced connective ++ (rightText ++ ")")))) := by
  have opens := adds_put "("
  have parts := adds_put (spaced connective)
  have closes := adds_put ")"
  unfold Writes
  cases connective with
  | and | or =>
    have joined := opens.andThen ((first.andThen (parts.andThen second)).andThen closes)
    simp only [Formula.binary,write,writeAll]
    simpa only [String.append_assoc] using joined
  | imp | iff =>
    simp only [Formula.binary,write]
    exact opens.andThen (first.andThen (parts.andThen (second.andThen closes)))

theorem toInfix_of_writes {tree : Formula} {text : String} (writes : Writes tree text) :
    tree.toInfix = .ok text := by
  have added := writes ""
  rw [String.empty_append] at added
  unfold Formula.toInfix render
  simp only [EStateM.run_bind,EStateM.run_set,EStateM.run_get,EStateM.run_pure]
  rw [added]

end InfixWriter
end PropFormula
