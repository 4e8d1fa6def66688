import Mathlib.Control.Monad.Basic
import PropFormula.Proofs.Acceptance
import PropFormula.Proofs.Rendering

namespace PropFormula

def isKept (character : Char) : Bool :=
  !(character == '(' || character == ')' || isSeparator character)

-- A text without its parentheses and separators.
def bare (text : List Char) : List Char := text.filter isKept

def bareWord (word : List Token) : List Char := word.flatMap (fun token => bare token.text.toList)

theorem bare_append (left right : List Char) : bare (left ++ right) = bare left ++ bare right :=
  List.filter_append left right

theorem bare_gap {gap : List Char} (blank : IsGap gap) : bare gap = [] := by
  apply List.filter_eq_nil_iff.mpr
  intro character member
  simp [isKept,blank character member]

theorem bare_spaced (connective : Connective) :
    bare (InfixWriter.spaced connective).toList = bare connective.sign.toList := by
  cases connective <;> rfl

theorem bareWord_append (left right : List Token) :
    bareWord (left ++ right) = bareWord left ++ bareWord right :=
  List.flatMap_append

theorem bareWord_cons (token : Token) (rest : List Token) :
    bareWord (token :: rest) = bare token.text.toList ++ bareWord rest :=
  List.flatMap_cons

theorem Cuts.conserved {text : List Char} {tokens : List Token} (cuts : Cuts text tokens) :
    bare text = bareWord tokens := by
  induction cuts with
  | finish blank => exact bare_gap blank
  | token blank found later ih =>
    rw [lexeme_text _ _ _ found,bare_append,bare_gap blank,List.nil_append,bare_append,ih,bareWord_cons]

theorem Derives.conserved {symbol : Nonterminal} {word : List Token} {tree : Formula}
    (derives : Derives symbol word tree) :
    ∃ text, InfixWriter.Writes tree text ∧ bare text.toList = bareWord word := by
  induction derives with
  | single inner ih => exact ih
  | @chain connective leftWord rightWord left right first second ihFirst ihSecond =>
    obtain ⟨leftText,writesLeft,sameLeft⟩ := ihFirst
    obtain ⟨rightText,writesRight,sameRight⟩ := ihSecond
    refine ⟨_,writesLeft.binary connective writesRight,?_⟩
    have opened : bare "(".toList = [] := rfl
    have closed : bare ")".toList = [] := rfl
    simp only [String.toList_append,bare_append,bare_spaced,bareWord_append,bareWord_cons,
      opened,closed,sameLeft,sameRight,List.nil_append,List.append_nil]
    rfl
  | prime inner ih => exact ih
  | negation inner ih =>
    obtain ⟨text,writes,same⟩ := ih
    refine ⟨_,writes.not,?_⟩
    rw [String.toList_append,bare_append,same,bareWord_cons]
    rfl
  | value atom =>
    refine ⟨_,InfixWriter.writes_atom atom,?_⟩
    rw [bareWord_cons]
    exact (List.append_nil _).symm
  | parenthesized inner ih =>
    obtain ⟨text,writes,same⟩ := ih
    refine ⟨text,writes,?_⟩
    rw [same,bareWord_append,bareWord_cons]
    exact (List.append_nil _).symm

theorem parse_conserves_text (text : String) (tree : Formula)
    (parsed : Formula.parse text = .ok tree) :
    ∃ written, tree.toInfix = .ok written ∧ bare text.toList = bare written.toList := by
  obtain ⟨tokens,scanned,derives⟩ := (parse_exact text tree).mp parsed
  obtain ⟨written,writes,same⟩ := derives.conserved
  have cuts := (cuts_exact text tokens).mpr scanned
  exact ⟨written,InfixWriter.toInfix_of_writes writes,cuts.conserved.trans same.symm⟩

-- Redundant parentheses, separators of three kinds, a constant, prime marks and two connectives.
theorem spaced_implication_conserved :
    Formula.parse "((a))\t&!b1′\n=> 0" =
        .ok (.binary .imp (.binary .and (.var "a") (.not (.var "b1′"))) (.leaf .bot)) ∧
      ∃ written, Formula.toInfix
        (.binary .imp (.binary .and (.var "a") (.not (.var "b1′"))) (.leaf .bot)) = .ok written ∧
        bare "((a))\t&!b1′\n=> 0".toList = bare written.toList := by
  have parsed : Formula.parse "((a))\t&!b1′\n=> 0" =
      .ok (.binary .imp (.binary .and (.var "a") (.not (.var "b1′"))) (.leaf .bot)) := by
    decide +kernel
  exact ⟨parsed,parse_conserves_text _ _ parsed⟩

end PropFormula
