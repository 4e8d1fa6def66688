import PropFormula.Proofs.Proper
import PropFormula.Proofs.Rendering

namespace PropFormula
namespace Formula

-- The nodes met from the root if only the first so many operands of each node are entered.
mutual
def reached (share : Kind → Nat → Nat) : Formula → List Formula
  | .node label operands =>
    .node label operands :: reachedAll share (share label.kind operands.length) operands
def reachedAll (share : Kind → Nat → Nat) : Nat → List Formula → List Formula
  | 0, _ => []
  | _ + 1, [] => []
  | count + 1, operand :: rest => reached share operand ++ reachedAll share count rest
end

theorem reachedAll_eq (share : Kind → Nat → Nat) (count : Nat) (operands : List Formula) :
    reachedAll share count operands = (operands.take count).flatMap (reached share) := by
  induction operands generalizing count with
  | nil => cases count <;> simp [reachedAll]
  | cons operand rest ih =>
    cases count with
    | zero => rfl
    | succ count => rw [reachedAll,ih,List.take_succ_cons,List.flatMap_cons]

theorem reached_node (share : Kind → Nat → Nat) (label : Label) (operands : List Formula) :
    reached share (.node label operands) =
      .node label operands :: (operands.take (share label.kind operands.length)).flatMap (reached share) := by
  rw [reached,reachedAll_eq]

theorem reached_root (share : Kind → Nat → Nat) (tree : Formula) : tree ∈ reached share tree := by
  cases tree
  rw [reached]
  exact List.mem_cons_self

theorem findSome_reached {β : Type} (share : Kind → Nat → Nat) (pick : Formula → Option β) (label : Label)
    (operands : List Formula) :
    (reached share (.node label operands)).findSome? pick = (pick (.node label operands)).or
      (((operands.take (share label.kind operands.length)).flatMap (reached share)).findSome? pick) := by
  rw [reached_node,List.findSome?_cons]
  cases pick (.node label operands) <;> rfl

section
variable {share wider : Kind → Nat → Nat}

mutual
theorem reached_wider (less : ∀ kind count, share kind count ≤ wider kind count) :
    (tree : Formula) → (reached share tree).Sublist (reached wider tree)
  | .node label operands => by
    rw [reached,reached]
    exact (reachedAll_wider less (less label.kind operands.length) operands).cons_cons _
theorem reachedAll_wider (less : ∀ kind count, share kind count ≤ wider kind count) {few many : Nat}
    (fewer : few ≤ many) : (operands : List Formula) →
    (reachedAll share few operands).Sublist (reachedAll wider many operands)
  | [] => by
    cases few <;> exact List.nil_sublist _
  | operand :: rest => by
    cases few with
    | zero => exact List.nil_sublist _
    | succ few =>
      obtain ⟨others,rfl⟩ := Nat.exists_eq_add_one.mpr (Nat.lt_of_lt_of_le few.succ_pos fewer)
      rw [reachedAll,reachedAll]
      exact (reached_wider less operand).append (reachedAll_wider less (Nat.le_of_succ_le_succ fewer) rest)
end

mutual
theorem reached_preorder (share : Kind → Nat → Nat) :
    (tree : Formula) → (reached share tree).Sublist tree.preorder
  | .node label operands => by
    rw [reached,preorder]
    exact (reachedAll_preorder share (share label.kind operands.length) operands).cons_cons _
theorem reachedAll_preorder (share : Kind → Nat → Nat) (count : Nat) : (operands : List Formula) →
    (reachedAll share count operands).Sublist (preorderAll operands)
  | [] => by
    cases count <;> exact List.nil_sublist _
  | operand :: rest => by
    cases count with
    | zero => exact List.nil_sublist _
    | succ count =>
      rw [reachedAll,preorderAll]
      exact (reached_preorder share operand).append (reachedAll_preorder share count rest)
end

end

theorem Proper.sound {tree : Formula} {fault? : Formula → Option Fault} (proper : tree.Proper)
    (share : Kind → Nat → Nat) (each : ∀ {node}, ProperNode node → fault? node = none) :
    (tree.reached share).findSome? fault? = none := by
  apply List.findSome?_eq_none_iff.mpr
  intro node member
  exact each (proper node ((reached_preorder share tree).subset member))

end Formula

namespace InfixWriter

def shows : Kind → Nat → Nat
  | .binary .and, count => count
  | .binary .or, count => count
  | .binary _, _ => 2
  | .not, _ => 1
  | _, _ => 0

def shown (tree : Formula) : List Formula := tree.reached shows

theorem shown_node (label : Label) (operands : List Formula) :
    shown (.node label operands) =
      .node label operands :: (operands.take (shows label.kind operands.length)).flatMap shown :=
  Formula.reached_node shows label operands

def fault? : Formula → Option Fault
  | .node (.binary .and) _ => none
  | .node (.binary .or) _ => none
  | .node (.binary _) (_ :: _ :: _) => none
  | .node (.binary connective) few => some (.notBinary (.binary connective) few.length)
  | .node .not [] => some .noOperand
  | _ => none

def firstFault? (nodes : List Formula) : Option Fault := nodes.findSome? fault?

mutual
def word : Formula → List Token
  | .node (.binary .and) operands => .opening :: wordAll .and operands ++ [.closing]
  | .node (.binary .or) operands => .opening :: wordAll .or operands ++ [.closing]
  | .node (.binary connective) (left :: right :: _) =>
    .opening :: (word left ++ .binary connective :: word right) ++ [.closing]
  | .node (.binary _) _ => []
  | .node .not (operand :: _) => .not :: word operand
  | .node .not [] => []
  | .node (.var name) _ => [.value (.var name)]
  | .node .top _ => [.value .top]
  | .node .bot _ => [.value .bot]
def wordAll (connective : Connective) : List Formula → List Token
  | [] => []
  | [operand] => word operand
  | operand :: next :: rest => word operand ++ .binary connective :: wordAll connective (next :: rest)
end

def laidOut : Token → String
  | .binary connective => spaced connective
  | token => token.text

def layout : List Token → String
  | [] => ""
  | token :: rest => laidOut token ++ layout rest

theorem layout_append (first second : List Token) : layout (first ++ second) = layout first ++ layout second := by
  induction first with
  | nil => rw [List.nil_append,layout,String.empty_append]
  | cons token rest ih => rw [List.cons_append,layout,layout,ih,String.append_assoc]

def Fails (action : EStateM Fault String Unit) (fault : Fault) : Prop :=
  ∀ buffer, ∃ left, action.run buffer = .error fault left

-- What becomes of an action: the fault there is, or this text.
def Outcome (action : EStateM Fault String Unit) : Option Fault → String → Prop
  | none, text => Adds action text
  | some fault, _ => Fails action fault

theorem fails_throw (fault : Fault) : Fails (throw fault) fault := fun buffer => ⟨buffer,rfl⟩

theorem outcome_iff {action : EStateM Fault String Unit} {fault : Option Fault} {text : String} :
    Outcome action fault text ↔ Leaves id action fault text := by
  cases fault <;> rfl

theorem Outcome.andThen {action later : EStateM Fault String Unit} {first second : Option Fault}
    {text more : String} (one : Outcome action first text) (two : Outcome later second more) :
    Outcome (do action; later) (first.or second) (text ++ more) :=
  outcome_iff.mpr ((outcome_iff.mp one).andThen (outcome_iff.mp two))

theorem outcome_put (text : String) : Outcome (put text) none text := adds_put text

theorem firstFault_append (first second : List Formula) :
    firstFault? (first ++ second) = (firstFault? first).or (firstFault? second) :=
  List.findSome?_append

theorem firstFault_shown (label : Label) (operands : List Formula) :
    firstFault? (shown (.node label operands)) = (fault? (.node label operands)).or
      (firstFault? ((operands.take (shows label.kind operands.length)).flatMap shown)) :=
  Formula.findSome_reached shows fault? label operands

theorem layout_parenthesized (inner : List Token) :
    layout (.opening :: inner ++ [.closing]) = "(" ++ (layout inner ++ ")") := by
  rw [List.cons_append,layout,layout_append,layout,layout,String.append_empty]
  rfl

-- What is to be shown of every tree. Below is one lemma for each way in which a node is written.
def Settled (tree : Formula) : Prop :=
  Outcome (write tree) (firstFault? (shown tree)) (layout (word tree))

section
variable {connective : Connective} {operands rest : List Formula} {left right operand : Formula}

theorem settled_joined (joins : connective = .and ∨ connective = .or)
    (inner : Outcome (writeAll (spaced connective) operands) (firstFault? (operands.flatMap shown))
      (layout (wordAll connective operands))) : Settled (.node (.binary connective) operands) := by
  have whole := (outcome_put "(").andThen (inner.andThen (outcome_put ")"))
  rw [Option.or_none,Option.none_or,← layout_parenthesized] at whole
  unfold Settled
  rw [firstFault_shown]
  rcases joins with rfl | rfl
  · rw [write,word,Label.kind,shows,List.take_length]
    exact whole
  · rw [write,word,Label.kind,shows,List.take_length]
    exact whole

theorem settled_paired (pairs : connective = .imp ∨ connective = .iff) (one : Settled left)
    (two : Settled right) : Settled (.node (.binary connective) (left :: right :: rest)) := by
  have whole := (outcome_put "(").andThen
    (one.andThen ((outcome_put (spaced connective)).andThen (two.andThen (outcome_put ")"))))
  have text : layout (word left) ++ (spaced connective ++ (layout (word right) ++ ")")) =
      layout (word left ++ .binary connective :: word right) ++ ")" := by
    rw [layout_append,layout,laidOut,String.append_assoc,String.append_assoc]
  have faults : firstFault? ([left,right].flatMap shown) =
      (firstFault? (shown left)).or (firstFault? (shown right)) := by
    rw [List.flatMap_cons,List.flatMap_singleton,firstFault_append]
  rw [Option.or_none,Option.none_or,Option.none_or,text,← layout_parenthesized,← faults] at whole
  unfold Settled
  rw [firstFault_shown]
  rcases pairs with rfl | rfl
  · simp only [write,word]
    exact whole
  · simp only [write,word]
    exact whole

theorem settled_few (pairs : connective = .imp ∨ connective = .iff) (few : operands.length < 2) :
    Settled (.node (.binary connective) operands) := by
  have faults : Outcome (throw (Fault.notBinary (.binary connective) operands.length))
      (some (.notBinary (.binary connective) operands.length)) "" := fails_throw _
  have whole := (outcome_put "(").andThen faults
  unfold Settled
  rw [firstFault_shown]
  match operands, few with
  | [], _ | [_], _ =>
    rcases pairs with rfl | rfl
    · simp only [write]
      exact whole
    · simp only [write]
      exact whole

theorem settled_negation (inner : Settled operand) : Settled (.node .not (operand :: rest)) := by
  have whole := (outcome_put "!").andThen inner
  unfold Settled
  rw [firstFault_shown,write,word,layout,Label.kind,shows,List.take_succ_cons,List.take_zero,
    List.flatMap_singleton]
  exact whole

theorem settled_empty_negation : Settled (.node .not []) := by
  have faults : Outcome (throw Fault.noOperand) (some .noOperand) "" := fails_throw _
  have whole := (outcome_put "!").andThen faults
  unfold Settled
  rw [firstFault_shown,write]
  exact whole

theorem settled_value (atom : Atom) (surplus : List Formula) : Settled (.node atom.label surplus) := by
  have whole := outcome_put atom.text
  unfold Settled
  rw [firstFault_shown]
  cases atom with
  | top | bot | var =>
    simp only [Atom.label,write,word,layout,String.append_empty]
    exact whole

end

mutual
theorem write_outcome : (tree : Formula) → Settled tree
  | .node (.binary .and) operands => settled_joined (.inl rfl) (writeAll_outcome .and operands)
  | .node (.binary .or) operands => settled_joined (.inr rfl) (writeAll_outcome .or operands)
  | .node (.binary .imp) (left :: right :: _) =>
    settled_paired (.inl rfl) (write_outcome left) (write_outcome right)
  | .node (.binary .iff) (left :: right :: _) =>
    settled_paired (.inr rfl) (write_outcome left) (write_outcome right)
  | .node (.binary .imp) [_] => settled_few (.inl rfl) (by simp)
  | .node (.binary .iff) [_] => settled_few (.inr rfl) (by simp)
  | .node (.binary .imp) [] => settled_few (.inl rfl) (by simp)
  | .node (.binary .iff) [] => settled_few (.inr rfl) (by simp)
  | .node .not (operand :: _) => settled_negation (write_outcome operand)
  | .node .not [] => settled_empty_negation
  | .node (.var name) surplus => settled_value (.var name) surplus
  | .node .top surplus => settled_value .top surplus
  | .node .bot surplus => settled_value .bot surplus
theorem writeAll_outcome (connective : Connective) : (operands : List Formula) →
    Outcome (writeAll (spaced connective) operands) (firstFault? (operands.flatMap shown))
      (layout (wordAll connective operands))
  | [] => by
    intro buffer
    rw [writeAll,wordAll,layout,String.append_empty]
    rfl
  | [operand] => by
    rw [writeAll,wordAll,List.flatMap_singleton]
    exact write_outcome operand
  | operand :: next :: rest => by
    have later := writeAll_outcome connective (next :: rest)
    have whole := (write_outcome operand).andThen ((outcome_put (spaced connective)).andThen later)
    rw [Option.none_or] at whole
    rw [writeAll,wordAll,List.flatMap_cons,firstFault_append,layout_append,layout]
    exact whole
end

theorem toInfix_of_fails {tree : Formula} {fault : Fault} (fails : Fails (write tree) fault) :
    tree.toInfix = .error fault := by
  obtain ⟨left,failed⟩ := fails ""
  unfold Formula.toInfix render
  simp only [EStateM.run_bind,EStateM.run_set]
  rw [failed]

theorem toInfix_ok_iff (tree : Formula) (text : String) :
    tree.toInfix = .ok text ↔ (∀ node ∈ shown tree, fault? node = none) ∧ layout (word tree) = text := by
  rw [← List.findSome?_eq_none_iff,← firstFault?]
  have outcome := write_outcome tree
  unfold Settled at outcome
  cases first : firstFault? (shown tree) with
  | none =>
    rw [first] at outcome
    rw [toInfix_of_writes outcome,Except.ok.injEq]
    exact (and_iff_right rfl).symm
  | some fault =>
    rw [first] at outcome
    rw [toInfix_of_fails outcome]
    exact ⟨nofun,fun ⟨absent,_⟩ => by cases absent⟩

end InfixWriter
end PropFormula
