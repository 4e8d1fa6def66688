import PropFormula.Formula.Variables
import PropFormula.Proofs.Acceptance
import PropFormula.Proofs.ByteOrder
import PropFormula.Proofs.Walking

namespace PropFormula

def Label.carried? : Label → Option String
  | .var name => some name
  | _ => none

theorem Label.carried_iff {label : Label} {name : String} : label.carried? = some name ↔ label = .var name := by
  cases label <;> simp [carried?]

-- On a sorted list equal names are neighbours.
theorem dropRepeats_increases {names : List String} (sorted : names.Pairwise (· ≤ ·)) :
    (dropRepeats names).Pairwise (· < ·) := by
  fun_induction dropRepeats names with
  | case1 => exact .nil
  | case2 name => exact List.pairwise_singleton _ name
  | case3 name rest ih =>
    apply ih
    exact (List.pairwise_cons.mp sorted).2
  | case4 name next rest different ih =>
    obtain ⟨first,later⟩ := List.pairwise_cons.mp sorted
    have ahead : name < next := lt_of_le_of_ne (first next List.mem_cons_self) different
    refine List.pairwise_cons.mpr ⟨?_,ih later⟩
    intro other member
    rcases List.mem_cons.mp ((mem_dropRepeats _ _).mp member) with rfl | further
    · exact ahead
    · exact lt_of_lt_of_le ahead ((List.pairwise_cons.mp later).1 other further)

namespace Formula

def variableNodes (tree : Formula) : List String := tree.preorder.filterMap (fun node => node.label.carried?)

theorem mem_variableNodes {tree : Formula} {name : String} :
    name ∈ tree.variableNodes ↔ ∃ node ∈ tree.preorder, node.label = .var name := by
  simp only [variableNodes,List.mem_filterMap,Label.carried_iff]

theorem collector_handles (node : Formula) (names : List String) :
    (variableCollector.handle node).run names = .ok () (names ++ node.label.carried?.toList) := by
  obtain ⟨label,operands⟩ := node
  cases label with
  | var name => rfl
  | _ => exact (congrArg (EStateM.Result.ok ()) (List.append_nil names)).symm

theorem collector_along (nodes : List Formula) (names : List String) :
    (variableCollector.along nodes).run names =
      .ok false (names ++ nodes.filterMap (fun node => node.label.carried?)) := by
  induction nodes generalizing names with
  | nil => exact (congrArg (EStateM.Result.ok false) (List.append_nil names)).symm
  | cons node rest ih =>
    have never (state : List String) : variableCollector.stopped state = false := rfl
    rw [Walker.along,EStateM.run_bind,collector_handles]
    simp only [EStateM.run_bind,EStateM.run_get,never,Bool.false_eq_true,if_false,ih]
    cases carried : node.label.carried? <;> simp [carried]

theorem occurrences_eq (tree : Formula) : tree.occurrences = tree.variableNodes := by
  rw [occurrences,Walker.traverse_along,collector_along]
  rfl

theorem variableNames_increase (tree : Formula) : tree.variableNames.Pairwise (· < ·) := by
  have transitive (a b c : String) (first : decide (a ≤ b) = true) (second : decide (b ≤ c) = true) :
      decide (a ≤ c) = true :=
    decide_eq_true (String.le_trans (of_decide_eq_true first) (of_decide_eq_true second))
  have total (a b : String) : (decide (a ≤ b) || decide (b ≤ a)) = true := by
    simpa using String.le_total a b
  have sorted := List.pairwise_mergeSort transitive total tree.occurrences
  apply dropRepeats_increases
  simpa using sorted

theorem mem_variableNames_iff {tree : Formula} {name : String} :
    name ∈ tree.variableNames ↔ ∃ node ∈ tree.preorder, node.label = .var name := by
  rw [mem_variableNames,occurrences_eq,mem_variableNodes]

end Formula

def Token.identifier? : Token → Option String
  | .value (.var name) => some name
  | _ => none

theorem Token.identifier_iff {token : Token} {name : String} :
    token.identifier? = some name ↔ token = .value (.var name) := by
  cases token with
  | value atom => cases atom <;> simp [identifier?]
  | _ => simp [identifier?]

theorem Derives.variableNodes {symbol : Nonterminal} {word : List Token} {tree : Formula}
    (derives : Derives symbol word tree) : tree.variableNodes = word.filterMap Token.identifier? := by
  induction derives with
  | single inner ih => exact ih
  | @chain connective leftWord rightWord left right first second ihFirst ihSecond =>
    have parts : (Formula.binary connective left right).variableNodes =
        left.variableNodes ++ right.variableNodes := by
      simp [Formula.variableNodes,Formula.binary,Formula.preorder,Formula.preorderAll,Formula.label,Label.carried?]
    rw [parts,ihFirst,ihSecond,List.filterMap_append]
    rfl
  | prime inner ih => exact ih
  | @negation word operand inner ih =>
    have part : (Formula.not operand).variableNodes = operand.variableNodes := by
      simp [Formula.variableNodes,Formula.not,Formula.preorder,Formula.preorderAll,Formula.label,Label.carried?]
    rw [part,ih]
    rfl
  | value atom => cases atom <;> rfl
  | parenthesized inner ih =>
    rw [ih,List.filterMap_append]
    exact (List.append_nil _).symm

theorem variableNames_sorted_set (tree : Formula) :
    tree.variableNames.Pairwise (fun first second => first < second ∧ encoding first < encoding second) ∧
      (∀ name, name ∈ tree.variableNames ↔ ∃ node ∈ tree.preorder, node.label = .var name) ∧
      ∀ text, Formula.parse text = .ok tree → ∃ tokens, tokenize text = .ok tokens ∧
        ∀ name, name ∈ tree.variableNames ↔ .value (.var name) ∈ tokens := by
  refine ⟨?_,fun name => Formula.mem_variableNames_iff,?_⟩
  · apply tree.variableNames_increase.imp
    intro first second less
    exact ⟨less,encoding_lt less⟩
  · intro text parsed
    obtain ⟨tokens,scanned,derives⟩ := (parse_exact text tree).mp parsed
    refine ⟨tokens,scanned,?_⟩
    intro name
    rw [Formula.mem_variableNames,Formula.occurrences_eq,derives.variableNodes]
    simp only [List.mem_filterMap,Token.identifier_iff,exists_eq_right]

-- A name that stands twice, and two names that differ in their prime marks.
theorem primed_names_listed :
    Formula.parse "y′ & !(x | y') & y′" =
        .ok (.binary .and (.binary .and (.var "y′") (.not (.binary .or (.var "x") (.var "y'")))) (.var "y′")) ∧
      ∃ tokens, tokenize "y′ & !(x | y') & y′" = .ok tokens ∧
        ∀ name, name ∈ Formula.variableNames
            (.binary .and (.binary .and (.var "y′") (.not (.binary .or (.var "x") (.var "y'")))) (.var "y′")) ↔
          .value (.var name) ∈ tokens := by
  have parsed : Formula.parse "y′ & !(x | y') & y′" =
      .ok (.binary .and (.binary .and (.var "y′") (.not (.binary .or (.var "x") (.var "y'")))) (.var "y′")) := by
    decide +kernel
  obtain ⟨_,_,listed⟩ := variableNames_sorted_set
    (.binary .and (.binary .and (.var "y′") (.not (.binary .or (.var "x") (.var "y'")))) (.var "y′"))
  exact ⟨parsed,listed _ parsed⟩

example : Formula.variableNames (.node .not
    [.node (.var "b") [.var "z′"],.node .top [.var "B",.var "b"],.node (.var "") []]) = ["","B","b","z′"] := by
  cbv

end PropFormula
