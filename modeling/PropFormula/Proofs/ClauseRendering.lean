import PropFormula.Proofs.Reached
import PropFormula.Render.Clauses

namespace PropFormula
namespace ClauseWriter

def Adds (action : EStateM Fault ClauseWriter Unit) (separator text : String) : Prop :=
  ∀ buffer, action.run ⟨buffer,separator⟩ = .ok () ⟨buffer ++ text,separator⟩

section
variable {separator : String}

theorem adds_nothing : Adds (pure ()) separator "" := by
  intro buffer
  rw [String.append_empty]
  rfl

theorem adds_put (text : String) : Adds (put text) separator text := fun _ => rfl

def Writes (separator : String) (tree : Formula) (text : String) : Prop := Adds (write tree) separator text

theorem toClauses_of_writes {tree : Formula} {text : String} (writes : Writes separator tree text) :
    tree.toClausesWith separator = .ok text := by
  have added := writes ""
  rw [String.empty_append] at added
  unfold Formula.toClausesWith render
  simp only [EStateM.run_bind,EStateM.run_modify,EStateM.run_get,EStateM.run_pure]
  rw [added]

end

-- How many of so many operands are written at a node of a kind.
def shows : Kind → Nat → Nat
  | .binary .and, count => count
  | .binary .or, count => count
  | .not, _ => 1
  | _, _ => 0

def shown (tree : Formula) : List Formula := tree.reached shows

def fault? : Formula → Option Fault
  | .node .not [] => some .noOperand
  | _ => none

-- The text of a tree, a malformed node being left empty.
mutual
def spelled (separator : String) : Formula → String
  | .node (.binary .and) operands => spelledAll separator separator operands
  | .node (.binary .or) operands => spelledAll separator " " operands
  | .node .not (operand :: _) => "-" ++ spelled separator operand
  | .node (.var name) _ => name
  | _ => ""
def spelledAll (separator between : String) : List Formula → String
  | [] => ""
  | [operand] => spelled separator operand
  | operand :: next :: rest =>
    spelled separator operand ++ (between ++ spelledAll separator between (next :: rest))
end

theorem spelledAll_eq (separator between : String) (operands : List Formula) :
    spelledAll separator between operands = between.intercalate (operands.map (spelled separator)) := by
  induction operands with
  | nil => simp [spelledAll]
  | cons operand rest ih =>
    cases rest with
    | nil => simp [spelledAll]
    | cons next rest =>
      rw [spelledAll,ih]
      simp only [List.map_cons,String.intercalate_cons_cons,String.append_assoc]

-- What becomes of an action while this is the separator: the fault there is, or this text.
def Outcome (action : EStateM Fault ClauseWriter Unit) (separator : String) (fault : Option Fault)
    (text : String) : Prop :=
  Leaves (fun buffer => ⟨buffer,separator⟩) action fault text

section
variable {separator text more : String} {action later : EStateM Fault ClauseWriter Unit}
  {first second : Option Fault}

theorem Outcome.andThen (one : Outcome action separator first text) (two : Outcome later separator second more) :
    Outcome (do action; later) separator (first.or second) (text ++ more) :=
  Leaves.andThen one two

theorem outcome_nothing : Outcome (pure ()) separator none "" := adds_nothing

theorem outcome_put (text : String) : Outcome (put text) separator none text := adds_put text

theorem outcome_throw (fault : Fault) : Outcome (throw fault) separator (some fault) text :=
  fun buffer => ⟨⟨buffer,separator⟩,rfl⟩

theorem Outcome.asked (later : String → EStateM Fault ClauseWriter Unit)
    (outcome : Outcome (later separator) separator first text) :
    Outcome (do let writer ← get; later writer.separator) separator first text := by
  cases first with
  | none => exact outcome
  | some fault => exact outcome

end

mutual
theorem write_outcome (separator : String) : (tree : Formula) →
    Outcome (write tree) separator ((shown tree).findSome? fault?) (spelled separator tree)
  | .node (.binary .and) operands => by
    have inner := writeAll_outcome separator separator operands
    rw [shown,Formula.findSome_reached,Label.kind,shows,List.take_length,write,spelled]
    exact Outcome.asked (fun separator => writeAll separator operands) inner
  | .node (.binary .or) operands => by
    have inner := writeAll_outcome separator " " operands
    rw [shown,Formula.findSome_reached,Label.kind,shows,List.take_length,write,spelled]
    exact inner
  | .node .not (operand :: _) => by
    have inner := (outcome_put "-").andThen (write_outcome separator operand)
    rw [shown,Formula.findSome_reached,Label.kind,shows,List.take_succ_cons,List.take_zero,
      List.flatMap_singleton,write,spelled]
    exact inner
  | .node .not [] => by
    have faults : Outcome (throw Fault.noOperand) separator (some .noOperand) "" := outcome_throw _
    have whole := (outcome_put "-").andThen faults
    rw [shown,Formula.findSome_reached,write]
    exact whole
  | .node (.var name) _ => by
    rw [shown,Formula.findSome_reached,write,spelled]
    exact outcome_put name
  | .node (.binary .imp) _ => by
    rw [shown,Formula.findSome_reached,write]
    exact outcome_nothing
  | .node (.binary .iff) _ => by
    rw [shown,Formula.findSome_reached,write]
    exact outcome_nothing
  | .node .top _ => by
    rw [shown,Formula.findSome_reached,write]
    exact outcome_nothing
  | .node .bot _ => by
    rw [shown,Formula.findSome_reached,write]
    exact outcome_nothing
theorem writeAll_outcome (separator between : String) : (operands : List Formula) →
    Outcome (writeAll between operands) separator ((operands.flatMap shown).findSome? fault?)
      (spelledAll separator between operands)
  | [] => by
    rw [writeAll,spelledAll]
    exact outcome_nothing
  | [operand] => by
    rw [writeAll,spelledAll,List.flatMap_singleton]
    exact write_outcome separator operand
  | operand :: next :: rest => by
    have later := writeAll_outcome separator between (next :: rest)
    have whole := (write_outcome separator operand).andThen ((outcome_put between).andThen later)
    rw [Option.none_or] at whole
    rw [writeAll,spelledAll,List.flatMap_cons,List.findSome?_append]
    exact whole
end

theorem toClausesWith_eq (separator : String) (tree : Formula) :
    tree.toClausesWith separator =
      match (shown tree).findSome? fault? with
      | none => .ok (spelled separator tree)
      | some fault => .error fault := by
  have outcome := write_outcome separator tree
  cases first : (shown tree).findSome? fault? with
  | none =>
    rw [first] at outcome
    exact toClauses_of_writes outcome
  | some fault =>
    rw [first] at outcome
    obtain ⟨left,failed⟩ := outcome ""
    unfold Formula.toClausesWith render
    simp only [EStateM.run_bind,EStateM.run_modify]
    rw [failed]

theorem fault_of_proper {node : Formula} (proper : Formula.ProperNode node) : fault? node = none := by
  obtain ⟨label,operands⟩ := node
  cases label with
  | not =>
    cases operands with
    | nil => cases proper.arity
    | cons operand rest => rfl
  | _ => rfl

theorem toClauses_of_proper {tree : Formula} (proper : tree.Proper) (separator : String) :
    tree.toClausesWith separator = .ok (spelled separator tree) := by
  have sound : (shown tree).findSome? fault? = none := proper.sound shows fault_of_proper
  rw [toClausesWith_eq,sound]

end ClauseWriter
end PropFormula
