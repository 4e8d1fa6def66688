import Mathlib.Control.Monad.Basic
import PropFormula.Proofs.Outcome

namespace PropFormula

-- Reducing again and again, with the number of reductions that were made, until no rule applies or the rule
-- that applies misses a node.
inductive Repeats (rules : List Rule) (next : Symbol) : Stack → Nat → Except SyntaxError Stack → Prop where
  | settled {stack : Stack} (none : reduceOnce rules next stack = .ok none) :
      Repeats rules next stack 0 (.ok stack)
  | refused {stack : Stack} {cause : SyntaxError} (missing : reduceOnce rules next stack = .error cause) :
      Repeats rules next stack 0 (.error cause)
  | reduced {stack after : Stack} {reductions : Nat} {result : Except SyntaxError Stack}
      (step : reduceOnce rules next stack = .ok (some after))
      (later : Repeats rules next after reductions result) :
      Repeats rules next stack (reductions + 1) result

section
variable {rules : List Rule} {next : Symbol} {stack : Stack}

theorem pattern_on_top {rule : Rule} (applied : rule.applies stack next = true) :
    rule.pattern <:+ symbols stack.reverse := by
  unfold Rule.applies at applied
  have same : symbols (stack.take rule.pattern.length).reverse = rule.pattern :=
    eq_of_beq (Bool.and_eq_true_iff.mp applied).1
  rw [← same]
  exact (List.reverse_suffix.mpr (List.take_prefix _ stack)).map Entry.symbol

theorem patterns_apart : grammarRules.Pairwise fun first second =>
    ¬ first.pattern <:+ second.pattern ∧ ¬ second.pattern <:+ first.pattern := by
  decide

-- Of two patterns that lie on top of one stack, the shorter is the end of the longer.
theorem rules_exclusive (next : Symbol) (stack : Stack) : grammarRules.Pairwise fun first second =>
    ¬ (first.applies stack next = true ∧ second.applies stack next = true) := by
  apply patterns_apart.imp
  rintro first second ⟨notEnd,notBegin⟩ ⟨applied,other⟩
  rcases List.suffix_or_suffix_of_suffix (pattern_on_top applied) (pattern_on_top other) with ends | ends
  · exact notEnd ends
  · exact notBegin ends

theorem applicable_few (next : Symbol) (stack : Stack) :
    (grammarRules.filter fun rule => rule.applies stack next).length ≤ 1 := by
  have exclusive := (rules_exclusive next stack).filter fun rule => rule.applies stack next
  have applied : ∀ rule ∈ grammarRules.filter fun rule => rule.applies stack next,
      rule.applies stack next = true := fun _ member => (List.mem_filter.mp member).2
  -- A second rule that applies would exclude the first.
  generalize grammarRules.filter (fun rule => rule.applies stack next) = found at exclusive applied
  match found with
  | [] => exact Nat.zero_le 1
  | [_] => exact Nat.le_refl 1
  | first :: second :: rest =>
    have both := (List.pairwise_cons.mp exclusive).1 second List.mem_cons_self
    exact absurd ⟨applied first List.mem_cons_self,
      applied second (List.mem_cons_of_mem first List.mem_cons_self)⟩ both

theorem find_shuffled {α : Type} {p : α → Bool} {items others : List α} (shuffled : items.Perm others)
    (few : (others.filter p).length ≤ 1) : items.find? p = others.find? p := by
  have same := shuffled.filter p
  rw [← List.head?_filter,← List.head?_filter]
  generalize others.filter p = found at same few
  match found with
  | [] => rw [List.perm_nil.mp same]
  | [_] => rw [List.perm_singleton.mp same]
  | _ :: _ :: _ => simp at few

theorem reduceOnce_shuffled (shuffled : rules.Perm grammarRules) (next : Symbol) (stack : Stack) :
    reduceOnce rules next stack = reduceOnce grammarRules next stack := by
  unfold reduceOnce
  rw [find_shuffled shuffled (applicable_few next stack)]

theorem reduceAll_shuffled (shuffled : rules.Perm grammarRules) (next : Symbol) (stack : Stack) :
    reduceAll rules next stack = reduceAll grammarRules next stack := by
  fun_induction reduceAll grammarRules next stack with
  | case1 stack cause step => rw [reduceAll_eq,reduceOnce_shuffled shuffled,step]
  | case2 stack step => rw [reduceAll_eq,reduceOnce_shuffled shuffled,step]
  | case3 stack reduced step ih => rw [reduceAll_eq,reduceOnce_shuffled shuffled,step,← ih]

theorem parseFrom_shuffled (shuffled : rules.Perm grammarRules) (scanner : Scanner) (stack : Stack) :
    parseFrom rules scanner stack = parseFrom grammarRules scanner stack := by
  fun_induction parseFrom grammarRules scanner stack with
  | case1 scanner stack cause after read => rw [parseFrom_eq,read]
  | case2 scanner stack after read =>
    rw [parseFrom_eq,read]
    dsimp only
    rw [reduceAll_shuffled shuffled]
  | case3 scanner stack token after read ih =>
    rw [parseFrom_eq,read]
    dsimp only
    rw [reduceAll_shuffled shuffled]
    exact bind_congr ih

-- Each reduction takes at least one off the weight of the stack.
theorem reduceAll_repeats (rules : List Rule) (next : Symbol) (stack : Stack) :
    ∃ reductions ≤ weight stack, Repeats rules next stack reductions (reduceAll rules next stack) := by
  fun_induction reduceAll rules next stack with
  | case1 stack cause step => exact ⟨0,Nat.zero_le _,.refused step⟩
  | case2 stack step => exact ⟨0,Nat.zero_le _,.settled step⟩
  | case3 stack reduced step ih =>
    obtain ⟨reductions,bounded,later⟩ := ih
    have lighter := reduceOnce_lighter rules next stack reduced step
    exact ⟨reductions + 1,by omega,.reduced step later⟩

end

-- The order of the table is of no account, on stacks that no text leads to either.
theorem rules_in_any_order (rules : List Rule) (shuffled : rules.Perm grammarRules) :
    (∀ next stack, rules.countP (fun rule => rule.applies stack next) ≤ 1) ∧
      (∀ text, parseWith rules text = Formula.parse text) ∧
      (∀ next stack reduced, reduceOnce rules next stack = .ok (some reduced) →
        weight reduced < weight stack) ∧
      ∀ next stack, ∃ reductions ≤ weight stack,
        Repeats rules next stack reductions (reduceAll rules next stack) := by
  refine ⟨?_,?_,reduceOnce_lighter rules,reduceAll_repeats rules⟩
  · intro next stack
    rw [shuffled.countP_eq,List.countP_eq_length_filter]
    exact applicable_few next stack
  · intro text
    exact parseFrom_shuffled shuffled (.start text) []

-- The rules in reverse read the same tree. A value that is reduced leaves the stack as high as it was.
theorem reversed_rules_agree :
    grammarRules.reverse.Perm grammarRules ∧
      parseWith grammarRules.reverse "a | b & !c" =
        .ok (.binary .or (.var "a") (.binary .and (.var "b") (.not (.var "c")))) ∧
      reduceOnce grammarRules.reverse .closing [(Token.value .top).entry,Token.opening.entry] =
        .ok (some [.expression (.leaf .top),Token.opening.entry]) ∧
      weight [.expression (.leaf .top),Token.opening.entry] <
        weight [(Token.value .top).entry,Token.opening.entry] := by
  have shuffled : grammarRules.reverse.Perm grammarRules := List.reverse_perm grammarRules
  obtain ⟨_,alike,lighter,_⟩ := rules_in_any_order grammarRules.reverse shuffled
  have read : Formula.parse "a | b & !c" =
      .ok (.binary .or (.var "a") (.binary .and (.var "b") (.not (.var "c")))) := by decide +kernel
  exact ⟨shuffled,(alike _).trans read,rfl,lighter .closing _ _ rfl⟩

end PropFormula
