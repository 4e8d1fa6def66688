import PropFormula.Proofs.ClauseRendering
import PropFormula.Proofs.Reuse
import PropFormula.Proofs.RoundTrip

namespace PropFormula

def replaceBreaks (separator text : String) : String :=
  .ofList (text.toList.flatMap (fun character => if character = '\n' then separator.toList else [character]))

section
variable {separator : String}

theorem replaceBreaks_append (first second : String) :
    replaceBreaks separator (first ++ second) = replaceBreaks separator first ++ replaceBreaks separator second := by
  rw [replaceBreaks,String.toList_append,List.flatMap_append,String.ofList_append]
  rfl

theorem replaceBreaks_empty : replaceBreaks separator "" = "" := rfl

theorem replaceBreaks_break : replaceBreaks separator "\n" = separator := by
  simp [replaceBreaks]

theorem replaceBreaks_unbroken {text : String} (unbroken : '\n' ∉ text.toList) :
    replaceBreaks separator text = text := by
  have same : text.toList.flatMap (fun character => if character = '\n' then separator.toList else [character]) =
      text.toList.flatMap (fun character => [character]) := by
    rw [List.flatMap_def,List.flatMap_def]
    congr 1
    apply List.map_congr_left
    intro character member
    have other : character ≠ '\n' := by
      rintro rfl
      exact unbroken member
    exact if_neg other
  rw [replaceBreaks,same,List.flatMap_singleton',String.ofList_toList]

end

namespace ClauseWriter

def Unbroken (nodes : List Formula) : Prop := ∀ node ∈ nodes, '\n' ∉ node.name.toList

section
variable {separator : String}

mutual
-- No name brings a line feed of its own, so the replacement goes through each way in which a node is written.
theorem replaceBreaks_spelled : (tree : Formula) → Unbroken tree.preorder →
    replaceBreaks separator (spelled "\n" tree) = spelled separator tree
  | .node (.binary .and) operands, unbroken => by
    rw [Formula.preorder] at unbroken
    have inner := replaceBreaks_spelledAll "\n" operands (List.forall_mem_cons.mp unbroken).2
    rw [spelled,spelled,inner,replaceBreaks_break]
  | .node (.binary .or) operands, unbroken => by
    rw [Formula.preorder] at unbroken
    have inner := replaceBreaks_spelledAll " " operands (List.forall_mem_cons.mp unbroken).2
    rw [spelled,spelled,inner,replaceBreaks_unbroken (by decide)]
  | .node .not (operand :: _), unbroken => by
    rw [Formula.preorder,Formula.preorderAll] at unbroken
    have inner := replaceBreaks_spelled operand
      (List.forall_mem_append.mp (List.forall_mem_cons.mp unbroken).2).1
    rw [spelled,spelled,replaceBreaks_append,inner,replaceBreaks_unbroken (by decide)]
  | .node (.var name) _, unbroken => by
    rw [Formula.preorder] at unbroken
    rw [spelled,spelled]
    exact replaceBreaks_unbroken (List.forall_mem_cons.mp unbroken).1
  | .node .not [], _ => replaceBreaks_empty
  | .node (.binary .imp) _, _ => replaceBreaks_empty
  | .node (.binary .iff) _, _ => replaceBreaks_empty
  | .node .top _, _ => replaceBreaks_empty
  | .node .bot _, _ => replaceBreaks_empty
theorem replaceBreaks_spelledAll (between : String) : (operands : List Formula) →
    Unbroken (Formula.preorderAll operands) →
    replaceBreaks separator (spelledAll "\n" between operands) =
      spelledAll separator (replaceBreaks separator between) operands
  | [], _ => by
    rw [spelledAll,spelledAll]
    exact replaceBreaks_empty
  | [operand], unbroken => by
    rw [Formula.preorderAll] at unbroken
    rw [spelledAll,spelledAll]
    exact replaceBreaks_spelled operand (List.forall_mem_append.mp unbroken).1
  | operand :: next :: rest, unbroken => by
    rw [Formula.preorderAll] at unbroken
    obtain ⟨first,others⟩ := List.forall_mem_append.mp unbroken
    rw [spelledAll,spelledAll,replaceBreaks_append,replaceBreaks_append,replaceBreaks_spelled operand first,
      replaceBreaks_spelledAll between (next :: rest) others]
end

end

theorem unbroken_of_proper {tree : Formula} (proper : tree.Proper) : Unbroken tree.preorder := by
  intro node member isBreak
  by_cases named : node.kind = .var
  · cases ((proper node member).named named).solid _ isBreak
  · rw [(proper node member).unnamed named] at isBreak
    cases isBreak

theorem toClausesWith_replaced (tree : Formula) (unbroken : Unbroken tree.preorder) (separator : String) :
    tree.toClausesWith separator = tree.toClauses.map (replaceBreaks separator) := by
  rw [Formula.toClauses,toClausesWith_eq,toClausesWith_eq]
  cases (shown tree).findSome? fault? with
  | none => exact congrArg Except.ok (replaceBreaks_spelled tree unbroken).symm
  | some fault => rfl

theorem answer_separated (tree : Formula) (separator : String) (writer : ClauseWriter) :
    answerOf (do setSeparator separator; render tree) writer = tree.toClausesWith separator := by
  rw [← answer_render tree {writer with separator := separator}]
  rfl

end ClauseWriter

-- What is written with another separator is what is written without one, its line feeds replaced.
theorem separator_replaces_breaks :
    (∀ tree, (∀ node ∈ tree.preorder, '\n' ∉ node.name.toList) → ∀ separator writer,
      answerOf (do ClauseWriter.setSeparator separator; ClauseWriter.render tree) writer =
        tree.toClauses.map (replaceBreaks separator)) ∧
    ∀ source tree, Formula.parse source = .ok tree → ∃ text, tree.toClauses = .ok text ∧
      ∀ separator writer,
        answerOf (do ClauseWriter.setSeparator separator; ClauseWriter.render tree) writer =
          .ok (replaceBreaks separator text) := by
  constructor
  · intro tree unbroken separator writer
    rw [ClauseWriter.answer_separated,ClauseWriter.toClausesWith_replaced tree unbroken]
  · intro source tree parsed
    have proper := Formula.proper_of_parse parsed
    have written : tree.toClauses = .ok _ := ClauseWriter.toClauses_of_proper proper "\n"
    refine ⟨_,written,fun separator writer => ?_⟩
    have replaced := ClauseWriter.toClausesWith_replaced tree (ClauseWriter.unbroken_of_proper proper) separator
    rw [ClauseWriter.answer_separated,replaced,written]
    rfl

-- A conjunction below a disjunction and below a negation, and a separator that holds a line feed itself.
theorem inner_breaks_replaced :
    answerOf (do ClauseWriter.setSeparator " 0\n"; ClauseWriter.render (.node (.binary .or)
        [.node (.binary .and) [.var "a",.var "b"],.not (.node (.binary .and) [.var "c",.leaf .top,.var "d"])]))
          .fresh = .ok "a 0\nb -c 0\n 0\nd" ∧
      Formula.parse "!(a & b)" = .ok (.not (.binary .and (.var "a") (.var "b"))) ∧
      answerOf (do ClauseWriter.setSeparator ""; ClauseWriter.render (.not (.binary .and (.var "a") (.var "b"))))
          .fresh = .ok "-ab" := by
  have parsed : Formula.parse "!(a & b)" = .ok (.not (.binary .and (.var "a") (.var "b"))) := by
    decide +kernel
  obtain ⟨general,readable⟩ := separator_replaces_breaks
  refine ⟨?_,parsed,?_⟩
  · rw [general _ (by decide +kernel)]
    rfl
  · obtain ⟨text,written,replaced⟩ := readable _ _ parsed
    cases Except.ok.inj (written.symm.trans rfl : Except.ok text = .ok "-a\nb")
    rw [replaced]
    rfl

end PropFormula
