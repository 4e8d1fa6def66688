import PropFormula.Formula.Walk
import PropFormula.Proofs.Grammar
import PropFormula.Proofs.Names

namespace PropFormula
namespace Formula

structure ProperNode (node : Formula) : Prop where
  arity : node.operands.length = node.kind.arity
  unnamed : node.kind ≠ .var → node.name = ""
  named : node.kind = .var → LegalName node.name

def Proper (tree : Formula) : Prop := ∀ node ∈ tree.preorder, ProperNode node

-- The proper trees, told by the productions of the grammar (`built_of_proper`, `proper_of_built`).
inductive Built : Formula → Prop where
  | value (atom : Atom) (legal : atom.Legal) : Built (.leaf atom.label)
  | not {operand : Formula} (inner : Built operand) : Built (.not operand)
  | binary {left right : Formula} (connective : Connective) (first : Built left)
      (second : Built right) : Built (.binary connective left right)

theorem properNode_leaf {atom : Atom} (legal : atom.Legal) : ProperNode (.leaf atom.label) := by
  cases atom with
  | top => exact ⟨rfl,fun _ => rfl,fun named => by cases named⟩
  | bot => exact ⟨rfl,fun _ => rfl,fun named => by cases named⟩
  | var name => exact ⟨rfl,fun other => absurd rfl other,fun _ => legal⟩

theorem proper_of_built {tree : Formula} (built : Built tree) : tree.Proper := by
  induction built with
  | value atom legal =>
    intro node member
    rw [preorder_eq,leaf,operands,preorderAll] at member
    cases List.mem_singleton.mp member
    exact properNode_leaf legal
  | @not operand inner ih =>
    intro node member
    rw [preorder_eq] at member
    rcases List.mem_cons.mp member with rfl | under
    · exact ⟨rfl,fun _ => rfl,fun named => by cases named⟩
    · simp only [Formula.not,operands,preorderAll,List.append_nil] at under
      exact ih node under
  | @binary left right connective first second ihFirst ihSecond =>
    intro node member
    rw [preorder_eq] at member
    rcases List.mem_cons.mp member with rfl | under
    · exact ⟨rfl,fun _ => rfl,fun named => by cases named⟩
    · simp only [Formula.binary,operands,preorderAll,List.append_nil] at under
      rcases List.mem_append.mp under with inLeft | inRight
      · exact ihFirst node inLeft
      · exact ihSecond node inRight

theorem Proper.root {tree : Formula} (proper : tree.Proper) : ProperNode tree := by
  apply proper
  rw [preorder_eq]
  exact List.mem_cons_self

theorem Proper.operand {tree operand : Formula} (proper : tree.Proper)
    (member : operand ∈ tree.operands) : operand.Proper := by
  intro node under
  apply proper
  obtain ⟨before,after,split⟩ := List.append_of_mem member
  rw [preorder_eq,split,preorderAll_append,preorderAll]
  simp [under]

theorem size_operand {tree operand : Formula} (member : operand ∈ tree.operands) :
    operand.size < tree.size := by
  obtain ⟨before,after,split⟩ := List.append_of_mem member
  rw [size_eq tree,split,sizeAll_append,sizeAll]
  omega

theorem built_of_proper {tree : Formula} (proper : tree.Proper) : Built tree := by
  induction size : tree.size using Nat.strongRecOn generalizing tree with
  | ind _ ih =>
    have under : ∀ operand ∈ tree.operands, Built operand := fun operand member =>
      ih operand.size (size ▸ size_operand member) (proper.operand member) rfl
    obtain ⟨arity,_,named⟩ := proper.root
    obtain ⟨label,operands⟩ := tree
    cases label with
    | top => cases List.length_eq_zero_iff.mp arity; exact .value .top trivial
    | bot => cases List.length_eq_zero_iff.mp arity; exact .value .bot trivial
    | var name =>
      cases List.length_eq_zero_iff.mp arity
      exact .value (.var name) (named rfl)
    | not =>
      obtain ⟨operand,rfl⟩ := List.length_eq_one_iff.mp arity
      exact .not (under operand List.mem_cons_self)
    | binary connective =>
      match operands, arity with
      | [left,right], _ =>
        exact .binary connective (under left List.mem_cons_self)
          (under right (List.mem_cons_of_mem _ List.mem_cons_self))

theorem built_of_derives {symbol : Nonterminal} {word : List Token} {tree : Formula}
    (derives : Derives symbol word tree) (legal : ∀ token ∈ word, token.Legal) : Built tree := by
  induction derives with
  | single inner ih => exact ih legal
  | chain first second ihFirst ihSecond =>
    refine .binary _ (ihFirst fun token member => ?_) (ihSecond fun token member => ?_)
    · exact legal token (List.mem_append_left _ member)
    · exact legal token (List.mem_append_right _ (List.mem_cons_of_mem _ member))
  | prime inner ih => exact ih legal
  | negation inner ih => exact .not (ih fun token member => legal token (List.mem_cons_of_mem _ member))
  | value atom => exact .value atom (legal _ List.mem_cons_self)
  | parenthesized inner ih =>
    apply ih
    intro token member
    exact legal token (List.mem_append_left _ (List.mem_cons_of_mem _ member))

end Formula
end PropFormula
