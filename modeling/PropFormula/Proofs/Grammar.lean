import PropFormula.Token

namespace PropFormula

inductive Nonterminal where
  | operation (connective : Connective)
  | unary
  | primary
  deriving DecidableEq, Repr

namespace Nonterminal

def formula : Nonterminal := .operation .iff

def rank : Nonterminal → Nat
  | .operation connective => connective.rank
  | .unary => 4
  | .primary => 5

def within : Connective → Nonterminal
  | .iff => .operation .imp
  | .imp => .operation .or
  | .or => .operation .and
  | .and => .unary

theorem rank_within (connective : Connective) : (within connective).rank = connective.rank + 1 := by
  cases connective <;> rfl

theorem lt_of_within {connective : Connective} {most : Nat} (bound : (within connective).rank ≤ most) :
    connective.rank < most := by
  rwa [rank_within] at bound

theorem rank_le (symbol : Nonterminal) : symbol.rank ≤ 5 := by
  cases symbol with
  | operation connective => cases connective <;> decide
  | unary => decide
  | primary => decide

theorem rank_injective {first second : Nonterminal} (same : first.rank = second.rank) : first = second := by
  cases first with
  | operation left =>
    cases second with
    | operation right => cases left <;> cases right <;> first | rfl | cases same
    | _ => cases left <;> cases same
  | _ =>
    cases second with
    | operation right => cases right <;> cases same
    | _ => first | rfl | cases same

end Nonterminal

-- The left operand of an operation is of its own nonterminal and the right one of the next, so operations group
-- to the left. Parentheses leave no trace in the tree.
inductive Derives : Nonterminal → List Token → Formula → Prop where
  | single {connective : Connective} {word : List Token} {tree : Formula}
      (inner : Derives (.within connective) word tree) : Derives (.operation connective) word tree
  | chain {connective : Connective} {leftWord rightWord : List Token} {left right : Formula}
      (first : Derives (.operation connective) leftWord left)
      (second : Derives (.within connective) rightWord right) :
      Derives (.operation connective) (leftWord ++ .binary connective :: rightWord)
        (.binary connective left right)
  | prime {word : List Token} {tree : Formula} (inner : Derives .primary word tree) :
      Derives .unary word tree
  | negation {word : List Token} {operand : Formula} (inner : Derives .unary word operand) :
      Derives .unary (.not :: word) (.not operand)
  | value (atom : Atom) : Derives .primary [.value atom] (.leaf atom.label)
  | parenthesized {word : List Token} {tree : Formula} (inner : Derives .formula word tree) :
      Derives .primary (.opening :: word ++ [.closing]) tree

theorem Derives.loosen {symbol wider : Nonterminal} {word : List Token} {tree : Formula}
    (derives : Derives symbol word tree) (loose : wider.rank ≤ symbol.rank) :
    Derives wider word tree := by
  induction distance : symbol.rank - wider.rank generalizing wider with
  | zero =>
    have same : symbol.rank = wider.rank := by omega
    rwa [← Nonterminal.rank_injective same]
  | succ steps ih =>
    cases wider with
    | operation connective =>
      have next := Nonterminal.rank_within connective
      have here : (Nonterminal.operation connective).rank = connective.rank := rfl
      exact .single (ih (by omega) (by omega))
    | unary =>
      have here : Nonterminal.unary.rank = 4 ∧ Nonterminal.primary.rank = 5 := ⟨rfl,rfl⟩
      exact .prime (ih (by omega) (by omega))
    | primary =>
      have here : Nonterminal.primary.rank = 5 := rfl
      have most := symbol.rank_le
      omega

end PropFormula
