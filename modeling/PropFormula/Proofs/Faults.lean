import PropFormula.Proofs.ClauseRendering
import PropFormula.Proofs.Reuse
import PropFormula.Proofs.RoundTrip

namespace PropFormula

section
variable {ε σ α β : Type} {action : EStateM ε σ α} {first second met : Option ε}

-- What an action comes to in every state: this fault, or none.
def Meets (action : EStateM ε σ α) : Option ε → Prop
  | none => ∀ state, ∃ answer after, action.run state = .ok answer after
  | some fault => ∀ state, ∃ after, action.run state = .error fault after

theorem meets_pure (answer : α) : Meets (pure answer : EStateM ε σ α) none := fun state => ⟨answer,state,rfl⟩

theorem meets_get : Meets (get : EStateM ε σ σ) none := fun state => ⟨state,state,rfl⟩

theorem meets_set (after : σ) : Meets (set after : EStateM ε σ PUnit) none := fun _ => ⟨(),after,rfl⟩

theorem meets_modify (change : σ → σ) : Meets (modify change : EStateM ε σ PUnit) none :=
  fun state => ⟨(),change state,rfl⟩

theorem Meets.bind {later : α → EStateM ε σ β} (one : Meets action first)
    (two : ∀ answer, Meets (later answer) second) : Meets (action >>= later) (first.or second) := by
  cases first with
  | some fault =>
    intro state
    obtain ⟨after,failed⟩ := one state
    exact ⟨after,by rw [EStateM.run_bind,failed]⟩
  | none =>
    cases second with
    | none =>
      intro state
      obtain ⟨answer,between,went⟩ := one state
      obtain ⟨other,after,done⟩ := two answer between
      exact ⟨other,after,by rw [EStateM.run_bind,went]; exact done⟩
    | some fault =>
      intro state
      obtain ⟨answer,between,went⟩ := one state
      obtain ⟨after,failed⟩ := two answer between
      exact ⟨after,by rw [EStateM.run_bind,went]; exact failed⟩

theorem Meets.faults_iff (meets : Meets action met) (state : σ) (fault : ε) :
    answerOf action state = .error fault ↔ met = some fault := by
  unfold answerOf
  cases met with
  | none =>
    obtain ⟨answer,after,went⟩ := meets state
    rw [went]
    exact ⟨nofun,nofun⟩
  | some other =>
    obtain ⟨after,failed⟩ := meets state
    rw [failed,Except.error.injEq,Option.some.injEq]

theorem Meets.answers_iff (meets : Meets action met) (state : σ) :
    (∃ answer, answerOf action state = .ok answer) ↔ met = none := by
  unfold answerOf
  cases met with
  | none =>
    obtain ⟨answer,after,went⟩ := meets state
    rw [went]
    exact ⟨fun _ => rfl,fun _ => ⟨answer,rfl⟩⟩
  | some other =>
    obtain ⟨after,failed⟩ := meets state
    rw [failed]
    exact ⟨nofun,nofun⟩

theorem meets_along {walker : Walker ε σ} {faultOf : Formula → Option ε}
    (goesOn : ∀ state, walker.stopped state = false)
    (handles : ∀ node, Meets (walker.handle node) (faultOf node)) (nodes : List Formula) :
    Meets (walker.along nodes) (nodes.findSome? faultOf) := by
  induction nodes with
  | nil => exact meets_pure false
  | cons node rest ih =>
    have asked : Meets (do if walker.stopped (← get) then pure true else walker.along rest)
        (Option.or none (rest.findSome? faultOf)) :=
      meets_get.bind fun state => by
        rw [goesOn]
        exact ih
    have whole := (handles node).bind fun _ => asked
    rw [Walker.along,List.findSome?_cons]
    cases first : faultOf node with
    | none =>
      rw [first] at whole
      exact whole
    | some fault =>
      rw [first] at whole
      exact whole

end

namespace Formula

mutual
theorem preorder_within {node below : Formula} (under : below ∈ node.preorder) :
    (tree : Formula) → node ∈ tree.preorder → below ∈ tree.preorder
  | .node label operands => by
    intro member
    rw [preorder] at member ⊢
    rcases List.mem_cons.mp member with rfl | inside
    · rwa [preorder] at under
    · exact List.mem_cons_of_mem _ (preorderAll_within under operands inside)
theorem preorderAll_within {node below : Formula} (under : below ∈ node.preorder) :
    (operands : List Formula) → node ∈ preorderAll operands → below ∈ preorderAll operands
  | [] => by
    intro member
    cases member
  | operand :: rest => by
    intro member
    rw [preorderAll] at member ⊢
    rcases List.mem_append.mp member with first | later
    · exact List.mem_append_left _ (preorder_within under operand first)
    · exact List.mem_append_right _ (preorderAll_within under rest later)
end

end Formula

-- A writer that goes on to these operands and finds these faults in single nodes. A rendering faults at the
-- first malformed node that it reaches, a walk if any node of the tree is malformed.
structure FaultsExactly {σ : Type} (render : Formula → EStateM Fault σ String) (walker : Walker Fault σ)
    (shows : Kind → Nat → Nat) (fault? : Formula → Option Fault) : Prop where
  rendering : ∀ tree state fault, answerOf (render tree) state = .error fault ↔
    ∃ before node after, tree.reached shows = before ++ node :: after ∧
      fault? node = some fault ∧ ∀ earlier ∈ before, fault? earlier = none
  walking : ∀ tree state, (∃ fault, answerOf (walker.traverse tree) state = .error fault) ↔
    ∃ node ∈ tree.preorder, (fault? node).isSome

section
variable {σ : Type} {render : Formula → EStateM Fault σ String} {walker : Walker Fault σ}
  {shows : Kind → Nat → Nat} {fault? : Formula → Option Fault}

theorem walk_faults_iff (goesOn : ∀ state, walker.stopped state = false)
    (handles : ∀ tree, Meets (walker.handle tree) ((tree.reached shows).findSome? fault?))
    (tree : Formula) (state : σ) :
    (∃ fault, answerOf (walker.traverse tree) state = .error fault) ↔
      ∃ node ∈ tree.preorder, (fault? node).isSome := by
  have walked := meets_along goesOn handles tree.preorder
  rw [Walker.traverse_along]
  simp only [walked.faults_iff,← Option.isSome_iff_exists]
  rw [List.findSome?_isSome_iff]
  constructor
  · rintro ⟨node,member,found⟩
    obtain ⟨below,reached,faulty⟩ := List.findSome?_isSome_iff.mp found
    have under := (Formula.reached_preorder shows node).subset reached
    exact ⟨below,Formula.preorder_within under tree member,faulty⟩
  · rintro ⟨node,member,faulty⟩
    exact ⟨node,member,List.findSome?_isSome_iff.mpr ⟨node,Formula.reached_root shows node,faulty⟩⟩

theorem faultsExactly (goesOn : ∀ state, walker.stopped state = false)
    (handles : ∀ tree, Meets (walker.handle tree) ((tree.reached shows).findSome? fault?))
    (renders : ∀ tree, Meets (render tree) ((tree.reached shows).findSome? fault?)) :
    FaultsExactly render walker shows fault? where
  rendering tree state fault := by rw [(renders tree).faults_iff,List.findSome?_eq_some_iff]
  walking := walk_faults_iff goesOn handles

end

namespace InfixWriter

theorem fault_of_proper {node : Formula} (proper : Formula.ProperNode node) : fault? node = none := by
  obtain ⟨label,operands⟩ := node
  have arity := proper.arity
  cases label with
  | binary connective =>
    match operands, arity with
    | [_,_], _ => cases connective <;> rfl
  | not =>
    match operands, arity with
    | [_], _ => rfl
  | var | top | bot => rfl

theorem meets_write (tree : Formula) : Meets (write tree) ((shown tree).findSome? fault?) := by
  have outcome := write_outcome tree
  unfold Settled firstFault? at outcome
  cases first : (shown tree).findSome? fault? with
  | none =>
    rw [first] at outcome
    exact fun buffer => ⟨(),_,outcome buffer⟩
  | some fault =>
    rw [first] at outcome
    exact outcome

theorem meets_render (tree : Formula) : Meets (render tree) ((shown tree).findSome? fault?) := by
  have whole := (meets_set "").bind fun _ => (meets_write tree).bind fun _ =>
    meets_get.bind fun text => (meets_set "").bind fun _ => meets_pure text
  simp only [Option.none_or,Option.or_none] at whole
  exact whole

end InfixWriter

namespace ClauseWriter

theorem meets_write (tree : Formula) : Meets (write tree) ((shown tree).findSome? fault?) := by
  have outcome (separator : String) := write_outcome separator tree
  cases first : (shown tree).findSome? fault? with
  | none =>
    simp only [first] at outcome
    exact fun writer => ⟨(),_,outcome writer.separator writer.buffer⟩
  | some fault =>
    simp only [first] at outcome
    exact fun writer => outcome writer.separator writer.buffer

theorem meets_render (tree : Formula) : Meets (render tree) ((shown tree).findSome? fault?) := by
  have clear : Meets (modify fun writer => {writer with buffer := ""} : EStateM Fault ClauseWriter PUnit) none :=
    meets_modify _
  have whole := clear.bind fun _ => (meets_write tree).bind fun _ =>
    meets_get.bind fun writer => clear.bind fun _ => meets_pure writer.buffer
  simp only [Option.none_or,Option.or_none] at whole
  exact whole

end ClauseWriter

theorem shows_less (kind : Kind) (count : Nat) : ClauseWriter.shows kind count ≤ InfixWriter.shows kind count := by
  cases kind with
  | binary connective =>
    cases connective with
    | and | or => exact Nat.le_refl count
    | imp | iff => exact Nat.zero_le 2
  | not => exact Nat.le_refl 1
  | var | top | bot => exact Nat.le_refl 0

theorem fault_less {node : Formula} (sound : InfixWriter.fault? node = none) : ClauseWriter.fault? node = none := by
  obtain ⟨label,operands⟩ := node
  cases label with
  | not =>
    cases operands with
    | nil => cases sound
    | cons operand rest => rfl
  | binary | var | top | bot => rfl

theorem clauses_sound {tree : Formula} (sound : (InfixWriter.shown tree).findSome? InfixWriter.fault? = none) :
    (ClauseWriter.shown tree).findSome? ClauseWriter.fault? = none := by
  apply List.findSome?_eq_none_iff.mpr
  intro node member
  have inside := (Formula.reached_wider shows_less tree).subset member
  exact fault_less (List.findSome?_eq_none_iff.mp sound node inside)

theorem writers_fault_exactly :
    FaultsExactly InfixWriter.render InfixWriter.walker InfixWriter.shows InfixWriter.fault? ∧
    FaultsExactly ClauseWriter.render ClauseWriter.walker ClauseWriter.shows ClauseWriter.fault? ∧
    (∀ tree text, tree.toInfix = .ok text →
      ∀ writer, ∃ clauses, answerOf (ClauseWriter.render tree) writer = .ok clauses) ∧
    ∀ source tree, Formula.parse source = .ok tree →
      (∀ buffer, ∃ text, answerOf (InfixWriter.render tree) buffer = .ok text) ∧
        ∀ writer, ∃ clauses, answerOf (ClauseWriter.render tree) writer = .ok clauses := by
  refine ⟨?_,?_,?_,?_⟩
  · exact faultsExactly (fun _ => rfl) InfixWriter.meets_write InfixWriter.meets_render
  · exact faultsExactly (fun _ => rfl) ClauseWriter.meets_write ClauseWriter.meets_render
  · intro tree text written writer
    have answered : answerOf (InfixWriter.render tree) "" = .ok text := by
      rw [InfixWriter.answer_render,written]
    have sound := ((InfixWriter.meets_render tree).answers_iff "").mp ⟨text,answered⟩
    exact ((ClauseWriter.meets_render tree).answers_iff writer).mpr (clauses_sound sound)
  · intro source tree parsed
    have proper := Formula.proper_of_parse parsed
    have sound := proper.sound InfixWriter.shows InfixWriter.fault_of_proper
    constructor
    · exact fun buffer => ((InfixWriter.meets_render tree).answers_iff buffer).mpr sound
    · exact fun writer => ((ClauseWriter.meets_render tree).answers_iff writer).mpr (clauses_sound sound)

-- Surplus operands are out of reach of a rendering, but not of a walk; of two faults the one met first counts.
theorem surplus_negation_walked :
    Formula.toInfix (.node (.binary .imp) [.var "a",.var "b",.leaf .not]) = .ok "(a => b)" ∧
      (∃ clauses, answerOf (ClauseWriter.render (.node (.binary .imp) [.var "a",.var "b",.leaf .not])) .fresh =
        .ok clauses) ∧
      (∃ fault, answerOf (InfixWriter.walker.traverse (.node (.binary .imp) [.var "a",.var "b",.leaf .not])) "" =
        .error fault) ∧
      answerOf (InfixWriter.render (.node (.binary .and) [.not (.leaf (.binary .imp)),.leaf .not])) "x" =
        .error (.notBinary (.binary .imp) 0) ∧
      Formula.parse "!a" = .ok (.not (.var "a")) ∧
      ∃ clauses, answerOf (ClauseWriter.render (.not (.var "a"))) ⟨"x","; "⟩ = .ok clauses := by
  obtain ⟨parenthesized,_,narrower,readable⟩ := writers_fault_exactly
  have written : Formula.toInfix (.node (.binary .imp) [.var "a",.var "b",.leaf .not]) = .ok "(a => b)" := by
    decide +kernel
  have parsed : Formula.parse "!a" = .ok (.not (.var "a")) := by decide +kernel
  refine ⟨written,narrower _ _ written _,(parenthesized.walking _ _).mpr ?_,
    (parenthesized.rendering _ _ _).mpr ?_,parsed,(readable _ _ parsed).2 _⟩
  · exact ⟨.leaf .not,by decide +kernel,rfl⟩
  · refine ⟨[_,_],.leaf (.binary .imp),[.leaf .not],rfl,rfl,?_⟩
    decide +kernel

end PropFormula
