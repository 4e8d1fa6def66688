import PropFormula.Proofs.Placement

namespace PropFormula

def nesting (front : List Token) : Int := front.count .opening - front.count .closing

structure Splits (word left : List Token) (connective : Connective) (right : List Token) : Prop where
  parts : word = left ++ .binary connective :: right
  outside : nesting left = 0

-- No connective outside of all parentheses is looser, and none of this kind stands further right.
structure SplitsLast (word left : List Token) (connective : Connective) (right : List Token) : Prop
    extends Splits word left connective right where
  loosest : ∀ other kind others, Splits word other kind others → connective.rank ≤ kind.rank
  last : ∀ other others, Splits word other connective others → other.length ≤ left.length

section
variable {word left right first second : List Token} {connective between : Connective} {tree : Formula}
  {symbol : Nonterminal}

theorem nesting_append (front rest : List Token) : nesting (front ++ rest) = nesting front + nesting rest := by
  simp only [nesting,List.count_append]
  omega

theorem nesting_binary (connective : Connective) (rest : List Token) :
    nesting (.binary connective :: rest) = nesting rest := by
  simp [nesting]

theorem Derives.wellPlaced (derives : Derives symbol word tree) : WellPlaced word :=
  (derives_iff_wellPlaced word).mp ⟨tree,derives.loosen (Nat.zero_le _)⟩

theorem Derives.nesting_zero (derives : Derives symbol word tree) : nesting word = 0 := by
  have total := derives.wellPlaced.total
  unfold nesting
  omega

theorem splits_operation (balanced : nesting first = 0)
    (splits : Splits (first ++ .binary between :: second) left connective right) :
    (∃ others, Splits first left connective others) ∨
      (left = first ∧ connective = between ∧ right = second) ∨
      ∃ inner, left = first ++ .binary between :: inner ∧ Splits second inner connective right := by
  obtain ⟨parts,outside⟩ := splits
  rcases List.append_eq_append_iff.mp parts with ⟨middle,leftEq,rest⟩ | ⟨middle,firstEq,rest⟩
  · cases middle with
    | nil =>
      rw [List.append_nil] at leftEq
      cases rest
      exact .inr (.inl ⟨leftEq,rfl,rfl⟩)
    | cons token inner =>
      cases rest
      rw [leftEq,nesting_append,nesting_binary,balanced,Int.zero_add] at outside
      exact .inr (.inr ⟨inner,leftEq,rfl,outside⟩)
  · cases middle with
    | nil =>
      rw [List.append_nil] at firstEq
      cases rest
      exact .inr (.inl ⟨firstEq.symm,rfl,rfl⟩)
    | cons token others =>
      cases rest
      exact .inl ⟨others,firstEq,outside⟩

theorem not_splits_parenthesized (placed : WellPlaced word) :
    ¬ Splits (.opening :: word ++ [.closing]) left connective right := by
  rintro ⟨parts,outside⟩
  cases left with
  | nil => cases parts
  | cons token front =>
    rw [List.cons_append,List.cons_append] at parts
    obtain ⟨rfl,same⟩ := List.cons.inj parts
    have shorter : front <+: word := by
      rcases List.append_eq_append_iff.mp same with ⟨middle,frontEq,rest⟩ | ⟨middle,wordEq,_⟩
      · cases middle with
        | nil => cases rest
        | cons token inner =>
          have lengths := congrArg List.length rest
          simp at lengths
      · exact ⟨middle,wordEq.symm⟩
    have bound := placed.prefixes front shorter
    simp only [nesting,List.count_cons_self] at outside
    rw [List.count_cons_of_ne (by decide)] at outside
    omega

theorem Derives.splits_rank (derives : Derives symbol word tree)
    (splits : Splits word left connective right) : symbol.rank ≤ connective.rank := by
  induction derives generalizing left right with
  | single inner ih => exact Nat.le_of_lt (Nonterminal.lt_of_within (ih splits))
  | @chain outer leftWord rightWord leftTree rightTree leftDerives rightDerives ihLeft ihRight =>
    rcases splits_operation leftDerives.nesting_zero splits with ⟨_,inLeft⟩ | ⟨_,rfl,_⟩ | ⟨_,_,inRight⟩
    · exact ihLeft inLeft
    · exact Nat.le_refl _
    · exact Nat.le_of_lt (Nonterminal.lt_of_within (ihRight inRight))
  | prime inner ih => exact Nat.le_of_succ_le (ih splits)
  | @negation word operand inner ih =>
    obtain ⟨parts,outside⟩ := splits
    cases left with
    | nil => cases parts
    | cons token front =>
      obtain ⟨rfl,rest⟩ := List.cons.inj parts
      exact ih ⟨rest,outside⟩
  | value atom =>
    obtain ⟨parts,_⟩ := splits
    have lengths := congrArg List.length parts
    cases left with
    | nil => cases parts
    | cons token front => simp at lengths
  | parenthesized inner ih => exact absurd splits (not_splits_parenthesized inner.wellPlaced)

-- Nothing splits a negation, a value or a word in parentheses: no connective binds that tight.
theorem Derives.not_splits (derives : Derives .unary word tree) : ¬ Splits word left connective right :=
  fun splits => Nat.not_le_of_lt (rank_lt_unary (.binary connective)) (derives.splits_rank splits)

theorem splitsLast_operation {leftTree rightTree : Formula}
    (leftDerives : Derives (.operation connective) left leftTree)
    (rightDerives : Derives (.within connective) right rightTree) :
    SplitsLast (left ++ .binary connective :: right) left connective right where
  parts := rfl
  outside := leftDerives.nesting_zero
  loosest other kind others splits := by
    rcases splits_operation leftDerives.nesting_zero splits with ⟨_,inLeft⟩ | ⟨_,rfl,_⟩ | ⟨_,_,inRight⟩
    · exact leftDerives.splits_rank inLeft
    · exact Nat.le_refl _
    · exact Nat.le_of_lt (Nonterminal.lt_of_within (rightDerives.splits_rank inRight))
  last other others splits := by
    rcases splits_operation leftDerives.nesting_zero splits with ⟨_,inLeft⟩ | ⟨rfl,_,_⟩ | ⟨_,_,inRight⟩
    · rw [inLeft.parts,List.length_append]
      exact Nat.le_add_right _ _
    · exact Nat.le_refl _
    · exact absurd (Nonterminal.lt_of_within (rightDerives.splits_rank inRight)) (Nat.lt_irrefl _)

theorem SplitsLast.unique {other others : List Token} {kind : Connective}
    (one : SplitsLast word left connective right) (two : SplitsLast word other kind others) :
    left = other ∧ connective = kind ∧ right = others := by
  have ranks : (Nonterminal.operation connective).rank = (Nonterminal.operation kind).rank :=
    Nat.le_antisymm (one.loosest _ _ _ two.toSplits) (two.loosest _ _ _ one.toSplits)
  cases Nonterminal.rank_injective ranks
  have lengths : left.length = other.length :=
    Nat.le_antisymm (two.last _ _ one.toSplits) (one.last _ _ two.toSplits)
  have words := one.parts.symm.trans two.parts
  obtain ⟨same,rest⟩ := List.append_inj words lengths
  cases rest
  exact ⟨same,rfl,rfl⟩

theorem Derives.root (derives : Derives symbol word tree) :
    (∃ connective left right leftTree rightTree, word = left ++ .binary connective :: right ∧
      tree = .binary connective leftTree rightTree ∧ Derives (.operation connective) left leftTree ∧
      Derives (.within connective) right rightTree) ∨ Derives .unary word tree := by
  induction derives with
  | single inner ih => exact ih
  | chain first second => exact .inl ⟨_,_,_,_,_,rfl,rfl,first,second⟩
  | prime inner => exact .inr (.prime inner)
  | negation inner => exact .inr (.negation inner)
  | value atom => exact .inr (.prime (.value atom))
  | parenthesized inner => exact .inr (.prime (.parenthesized inner))

theorem Derives.unary_cases (derives : Derives .unary word tree) :
    (∃ atom, word = [.value atom] ∧ tree = .leaf atom.label) ∨
      (∃ rest operand, word = .not :: rest ∧ tree = .not operand ∧ Derives .unary rest operand) ∨
      ∃ inner, word = .opening :: inner ++ [.closing] ∧ Derives .formula inner tree := by
  cases derives with
  | negation inner => exact .inr (.inl ⟨_,_,rfl,rfl,inner⟩)
  | prime primary =>
    cases primary with
    | value atom => exact .inl ⟨atom,rfl,rfl⟩
    | parenthesized inner => exact .inr (.inr ⟨_,rfl,inner⟩)

theorem Derives.parsed (derives : Derives symbol word tree) : parseTokens grammarRules [] word = .ok tree :=
  parseTokens_complete (derives.loosen (Nat.zero_le _))

end

-- The connective at the root is the last of the loosest ones outside of all parentheses; without one the
-- text is a value, a negation, or another text in parentheses.
theorem root_splits_word (text : String) (word : List Token) (tree : Formula)
    (scanned : tokenize text = .ok word) (parsed : Formula.parse text = .ok tree) :
    ((∃ left connective right, Splits word left connective right) →
      ∃ left connective right, SplitsLast word left connective right) ∧
    (∀ left connective right, SplitsLast word left connective right →
      ∃ leftTree rightTree, tree.kind = .binary connective ∧ tree.operands = [leftTree,rightTree] ∧
        tree.left = .ok leftTree ∧ tree.right = .ok rightTree ∧
        parseTokens grammarRules [] left = .ok leftTree ∧
        parseTokens grammarRules [] right = .ok rightTree) ∧
    ((¬ ∃ left connective right, Splits word left connective right) →
      (∃ atom, word = [.value atom] ∧ tree = .leaf atom.label) ∨
      (∃ rest operand, word = .not :: rest ∧ tree = .not operand ∧
        parseTokens grammarRules [] rest = .ok operand) ∨
      ∃ inner, word = .opening :: inner ++ [.closing] ∧ parseTokens grammarRules [] inner = .ok tree) := by
  obtain ⟨found,same,derives⟩ := (parse_exact text tree).mp parsed
  cases scanned.symm.trans same
  rcases derives.root with ⟨between,first,second,firstTree,secondTree,rfl,rfl,one,two⟩ | unary
  · have root := splitsLast_operation one two
    refine ⟨fun _ => ⟨_,_,_,root⟩,?_,fun none => absurd ⟨_,_,_,root.toSplits⟩ none⟩
    intro left connective right splits
    obtain ⟨rfl,rfl,rfl⟩ := splits.unique root
    exact ⟨firstTree,secondTree,rfl,rfl,rfl,rfl,one.parsed,two.parsed⟩
  · refine ⟨?_,?_,?_⟩
    · rintro ⟨left,connective,right,splits⟩
      exact absurd splits unary.not_splits
    · intro left connective right splits
      exact absurd splits.toSplits unary.not_splits
    · intro _
      rcases unary.unary_cases with value | ⟨rest,operand,wordEq,treeEq,inner⟩ | ⟨inner,wordEq,whole⟩
      · exact .inl value
      · exact .inr (.inl ⟨rest,operand,wordEq,treeEq,inner.parsed⟩)
      · exact .inr (.inr ⟨inner,wordEq,whole.parsed⟩)

-- The equivalence is in parentheses, and of the two implications the second one stands last.
theorem later_implication_at_root :
    tokenize "a => (b <=> c) => !d" =
        .ok [.value (.var "a"),.binary .imp,.opening,.value (.var "b"),.binary .iff,.value (.var "c"),
          .closing,.binary .imp,.not,.value (.var "d")] ∧
      Formula.parse "a => (b <=> c) => !d" =
        .ok (.binary .imp (.binary .imp (.var "a") (.binary .iff (.var "b") (.var "c"))) (.not (.var "d"))) ∧
      parseTokens grammarRules []
          [.value (.var "a"),.binary .imp,.opening,.value (.var "b"),.binary .iff,.value (.var "c"),.closing] =
        .ok (.binary .imp (.var "a") (.binary .iff (.var "b") (.var "c"))) ∧
      parseTokens grammarRules [] [.not,.value (.var "d")] = .ok (.not (.var "d")) := by
  have scanned : tokenize "a => (b <=> c) => !d" =
      .ok [.value (.var "a"),.binary .imp,.opening,.value (.var "b"),.binary .iff,.value (.var "c"),
        .closing,.binary .imp,.not,.value (.var "d")] := by
    decide +kernel
  have parsed : Formula.parse "a => (b <=> c) => !d" =
      .ok (.binary .imp (.binary .imp (.var "a") (.binary .iff (.var "b") (.var "c")))
        (.not (.var "d"))) := by
    decide +kernel
  have first : Derives (.operation .imp) [.value (.var "a")] (.var "a") :=
    (Derives.value (.var "a")).loosen (by decide)
  have inner : Derives .formula [.value (.var "b"),.binary .iff,.value (.var "c")]
      (.binary .iff (.var "b") (.var "c")) :=
    .chain ((Derives.value (.var "b")).loosen (by decide)) ((Derives.value (.var "c")).loosen (by decide))
  have left : Derives (.operation .imp) _ _ :=
    .chain first ((Derives.parenthesized inner).loosen (by decide))
  have right : Derives (.within .imp) _ _ :=
    (Derives.negation (.prime (.value (.var "d")))).loosen (by decide)
  obtain ⟨_,_,_,operands,_,_,leftParsed,rightParsed⟩ :=
    (root_splits_word _ _ _ scanned parsed).2.1 _ _ _ (splitsLast_operation left right)
  cases operands
  exact ⟨scanned,parsed,leftParsed,rightParsed⟩

end PropFormula
