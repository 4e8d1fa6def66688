import Mathlib.Control.Monad.Basic
import PropFormula.Proofs.Acceptance
import PropFormula.Proofs.Proper
import PropFormula.Proofs.Rendering

namespace PropFormula

theorem lexeme_atom {atom : Atom} (legal : atom.Legal) {rest : List Char} (stops : Stops rest) :
    lexeme? (atom.text.toList ++ rest) = some (.value atom,rest) := by
  cases atom with
  | top => rfl
  | bot => rfl
  | var name =>
    exact lexeme_name legal rest fun character ahead =>
      ⟨(stops character ahead).2,fun _ => (stops character ahead).1⟩

theorem lexeme_sign (connective : Connective) (rest : List Char) :
    lexeme? (connective.sign.toList ++ rest) = some (.binary connective,rest) := by
  cases connective <;> rfl

namespace Formula

-- A text that a tree writes, and the word of tokens that the text falls into whatever follows it.
structure Spelling (tree : Formula) (text : String) (word : List Token) : Prop where
  writes : InfixWriter.Writes tree text
  derives : Derives .unary word tree
  cuts : ∀ rest tokens, Stops rest → Cuts rest tokens → Cuts (text.toList ++ rest) (word ++ tokens)

theorem spelling_atom (atom : Atom) (legal : atom.Legal) :
    Spelling (.leaf atom.label) atom.text [.value atom] where
  writes := InfixWriter.writes_atom atom
  derives := .prime (.value atom)
  cuts _ _ stops later := .cons (lexeme_atom legal stops) later

theorem Spelling.not {operand : Formula} {text : String} {word : List Token}
    (inner : Spelling operand text word) : Spelling (.not operand) ("!" ++ text) (.not :: word) where
  writes := inner.writes.not
  derives := .negation inner.derives
  cuts rest tokens stops later := by
    rw [String.toList_append,List.append_assoc]
    exact .cons rfl (inner.cuts rest tokens stops later)

theorem Spelling.binary {left right : Formula} {leftText rightText : String}
    {leftWord rightWord : List Token} (connective : Connective)
    (first : Spelling left leftText leftWord) (second : Spelling right rightText rightWord) :
    Spelling (.binary connective left right)
      ("(" ++ (leftText ++ (InfixWriter.spaced connective ++ (rightText ++ ")"))))
      (.opening :: (leftWord ++ .binary connective :: rightWord) ++ [.closing]) where
  writes := first.writes.binary connective second.writes
  derives := by
    have operand : Derives (.operation connective) leftWord left :=
      first.derives.loosen (Nat.le_of_lt (rank_lt_unary (.binary connective)))
    have other : Derives (.within connective) rightWord right := by
      apply second.derives.loosen
      rw [Nonterminal.rank_within]
      exact rank_lt_unary (.binary connective)
    exact .prime (.parenthesized ((Derives.chain operand other).loosen (Nat.zero_le _)))
  cuts rest tokens stops later := by
    have closes : Cuts (')' :: rest) (.closing :: tokens) := .cons rfl later
    have rights := (second.cuts _ _ (stops_closing rest) closes).gap IsGap.space
    have signs := (Cuts.cons (lexeme_sign connective _) rights).gap IsGap.space
    have lefts := first.cuts _ _ (stops_space _) signs
    have whole : Cuts ('(' :: _) (.opening :: _) := .cons rfl lefts
    simpa [InfixWriter.spaced] using whole

theorem Built.spelled {tree : Formula} (built : Built tree) :
    ∃ text word, Spelling tree text word := by
  induction built with
  | value atom legal => exact ⟨_,_,spelling_atom atom legal⟩
  | not inner ih =>
    obtain ⟨text,word,spelling⟩ := ih
    exact ⟨_,_,spelling.not⟩
  | binary connective first second ihFirst ihSecond =>
    obtain ⟨leftText,leftWord,left⟩ := ihFirst
    obtain ⟨rightText,rightWord,right⟩ := ihSecond
    exact ⟨_,_,left.binary connective right⟩

theorem Spelling.parse {tree : Formula} {text : String} {word : List Token}
    (spelling : Spelling tree text word) : Formula.parse text = .ok tree := by
  have cuts := spelling.cuts [] [] (fun _ ahead => by cases ahead) (.finish IsGap.nil)
  rw [List.append_nil,List.append_nil] at cuts
  exact (parse_exact text tree).mpr
    ⟨word,(cuts_exact text word).mp cuts,spelling.derives.loosen (Nat.zero_le _)⟩

theorem proper_of_parse {text : String} {tree : Formula} (parsed : Formula.parse text = .ok tree) :
    tree.Proper := by
  obtain ⟨word,scanned,derives⟩ := (parse_exact text tree).mp parsed
  have legal := ((cuts_exact text word).mpr scanned).legal
  exact proper_of_built (built_of_derives derives legal)

theorem Proper.reread {tree : Formula} (proper : tree.Proper) :
    ∃ text, tree.toInfix = .ok text ∧ Formula.parse text = .ok tree := by
  obtain ⟨text,word,spelling⟩ := (built_of_proper proper).spelled
  exact ⟨text,InfixWriter.toInfix_of_writes spelling.writes,spelling.parse⟩

theorem proper_exactly_round_trips :
    (∀ tree : Formula, tree.Proper ↔ ∃ text, Formula.parse text = .ok tree) ∧
    (∀ (tree : Formula) (text : String), tree.toInfix = .ok text →
      (Formula.parse text = .ok tree ↔ tree.Proper)) ∧
    ∀ (text : String) (tree : Formula), Formula.parse text = .ok tree →
      ∃ written, tree.toInfix = .ok written ∧ Formula.parse written = .ok tree := by
  refine ⟨?_,?_,?_⟩
  · intro tree
    constructor
    · intro proper
      obtain ⟨text,_,parsed⟩ := proper.reread
      exact ⟨text,parsed⟩
    · rintro ⟨text,parsed⟩
      exact proper_of_parse parsed
  · intro tree text written
    constructor
    · exact proper_of_parse
    · intro proper
      obtain ⟨other,same,parsed⟩ := proper.reread
      rw [written] at same
      cases same
      exact parsed
  · intro text tree parsed
    exact (proper_of_parse parsed).reread

theorem negated_constant_round_trips :
    Formula.toInfix (.binary .imp (.not (.leaf .top)) (.var "x1′")) = .ok "(!1 => x1′)" ∧
      Formula.parse "(!1 => x1′)" = .ok (.binary .imp (.not (.leaf .top)) (.var "x1′")) ∧
      Proper (.binary .imp (.not (.leaf .top)) (.var "x1′")) ∧
      ∃ written, Formula.toInfix (.binary .imp (.not (.leaf .top)) (.var "x1′")) = .ok written ∧
        Formula.parse written = .ok (.binary .imp (.not (.leaf .top)) (.var "x1′")) := by
  have written : Formula.toInfix (.binary .imp (.not (.leaf .top)) (.var "x1′")) =
      .ok "(!1 => x1′)" := by
    decide +kernel
  have parsed : Formula.parse "(!1 => x1′)" =
      .ok (.binary .imp (.not (.leaf .top)) (.var "x1′")) := by
    decide +kernel
  obtain ⟨_,reread,again⟩ := proper_exactly_round_trips
  exact ⟨written,parsed,(reread _ _ written).mp parsed,again _ _ parsed⟩

end Formula
end PropFormula
