import PropFormula.Reduction

namespace PropFormula

inductive Item where
  | token (token : Token)
  | expression (formula : Formula)

def Item.entry : Item → Entry
  | .token shifted => shifted.entry
  | .expression formula => .expression formula

def Item.symbol (item : Item) : Symbol := item.entry.symbol

def stackOf (items : List Item) : Stack := items.map Item.entry

theorem symbols_stackOf (items : List Item) : symbols (stackOf items) = items.map Item.symbol := by
  simp [symbols,stackOf,Function.comp_def,Item.symbol]

theorem expression_of_symbol {item : Item} (same : item.symbol = .expression) :
    ∃ formula, item = .expression formula := by
  cases item with
  | token token => cases token <;> cases same
  | expression formula => exact ⟨formula,rfl⟩

theorem value_of_symbol {item : Item} (same : item.symbol = .value) :
    ∃ atom, item = .token (.value atom) := by
  cases item with
  | token token =>
    cases token with
    | value atom => exact ⟨atom,rfl⟩
    | _ => cases same
  | expression formula => cases same

theorem token_of_symbol {item : Item} (token : Token) (plain : token.symbol ≠ .value)
    (same : item.symbol = token.symbol) : item = .token token := by
  cases item with
  | token found =>
    cases found <;> cases token <;> cases same <;> first | rfl | exact absurd rfl plain
  | expression formula => cases token <;> cases same

-- A connective in front is reduced against, any other symbol is not.
def Symbol.rank : Symbol → Nat
  | .binary connective => connective.rank
  | _ => 0

theorem binary_ends (connective : Connective) : .binary connective ∈ anyEnd := by
  cases connective <;> decide

-- The four reductions there are, on stacks that hold tokens and finished expressions (`reduceOnce_exact`).
inductive Reduces (next : Symbol) : List Item → List Item → Prop where
  | value {atom : Atom} {below : List Item} (ends : next ∈ anyEnd) :
      Reduces next (.token (.value atom) :: below) (.expression (.leaf atom.label) :: below)
  | negation {operand : Formula} {below : List Item} (ends : next ∈ anyEnd) :
      Reduces next (.expression operand :: .token .not :: below) (.expression (.not operand) :: below)
  | parenthesized {inner : Formula} {below : List Item} (ends : next ∈ anyEnd) :
      Reduces next (.token .closing :: .expression inner :: .token .opening :: below)
        (.expression inner :: below)
  | operation {connective : Connective} {left right : Formula} {below : List Item}
      (ends : next ∈ anyEnd) (loose : next.rank ≤ connective.rank) :
      Reduces next
        (.expression right :: .token (.binary connective) :: .expression left :: below)
        (.expression (.binary connective left right) :: below)

def Stuck (next : Symbol) (items : List Item) : Prop := ∀ reduced, ¬ Reduces next items reduced

variable {next : Symbol} {items reduced settled : List Item}

theorem Reduces.ends (reduces : Reduces next items reduced) : next ∈ anyEnd := by
  cases reduces <;> assumption

theorem stuck_nil : Stuck next [] := by
  intro reduced step
  cases step

theorem Reduces.deterministic {other : List Item} (first : Reduces next items reduced)
    (second : Reduces next items other) : reduced = other := by
  cases first <;> cases second <;> rfl

theorem applies_iff (rule : Rule) :
    rule.applies (stackOf items) next = true ↔
      ∃ top below, items = top ++ below ∧ top.map Item.symbol = rule.pattern.reverse ∧
        next ∈ rule.lookahead := by
  unfold Rule.applies
  rw [Bool.and_eq_true_iff,beq_iff_eq,List.contains_iff_mem]
  have read : ∀ top : List Item, symbols (stackOf top).reverse = (top.map Item.symbol).reverse := by
    intro top
    rw [← symbols_stackOf,symbols,symbols,List.map_reverse]
  constructor
  · rintro ⟨same,ahead⟩
    refine ⟨items.take rule.pattern.length,items.drop rule.pattern.length,
      (List.take_append_drop _ _).symm,?_,ahead⟩
    rw [stackOf,← List.map_take,← stackOf,read] at same
    exact List.reverse_eq_iff.mp same
  · rintro ⟨top,below,rfl,same,ahead⟩
    have length : rule.pattern.length = (stackOf top).length := by
      have := congrArg List.length same
      simpa [stackOf] using this.symm
    refine ⟨?_,ahead⟩
    rw [stackOf,List.map_append,← stackOf,length,List.take_left,read,same,List.reverse_reverse]

theorem grammarRules_cases {rule : Rule} (member : rule ∈ grammarRules) :
    (∃ connective, rule.pattern = [.expression,.binary connective,.expression] ∧
      rule.assembly = .between ∧
      ∀ next ∈ rule.lookahead, next ∈ anyEnd ∧ next.rank ≤ connective.rank) ∨
    (rule.pattern = [.opening,.expression,.closing] ∧ rule.assembly = .alone ∧
      rule.lookahead = anyEnd) ∨
    (rule.pattern = [.not,.expression] ∧ rule.assembly = .before ∧ rule.lookahead = anyEnd) ∨
    (rule.pattern = [.value] ∧ rule.assembly = .alone ∧ rule.lookahead = anyEnd) := by
  simp only [grammarRules,List.mem_cons,List.not_mem_nil,or_false] at member
  rcases member with rfl | rfl | rfl | rfl | rfl | rfl | rfl
  · exact .inl ⟨.and,rfl,rfl,by decide⟩
  · exact .inl ⟨.or,rfl,rfl,by decide⟩
  · exact .inl ⟨.imp,rfl,rfl,by decide⟩
  · exact .inl ⟨.iff,rfl,rfl,by decide⟩
  · exact .inr (.inl ⟨rfl,rfl,rfl⟩)
  · exact .inr (.inr (.inl ⟨rfl,rfl,rfl⟩))
  · exact .inr (.inr (.inr ⟨rfl,rfl,rfl⟩))

theorem operation_rule (connective : Connective) :
    ∃ rule ∈ grammarRules, rule.pattern = [.expression,.binary connective,.expression] ∧
      ∀ next ∈ anyEnd, next.rank ≤ connective.rank → next ∈ rule.lookahead := by
  cases connective with
  | and => exact ⟨grammarRules[0],List.getElem_mem _,rfl,by decide⟩
  | or => exact ⟨grammarRules[1],List.getElem_mem _,rfl,by decide⟩
  | imp => exact ⟨grammarRules[2],List.getElem_mem _,rfl,by decide⟩
  | iff => exact ⟨grammarRules[3],List.getElem_mem _,rfl,by decide⟩

-- A list of items is known from its symbols one item at a time, the expressions in it up to their trees.
theorem expression_first {top : List Item} {others : List Symbol}
    (same : top.map Item.symbol = .expression :: others) :
    ∃ formula rest, top = .expression formula :: rest ∧ rest.map Item.symbol = others := by
  obtain ⟨first,rest,rfl,found,later⟩ := List.map_eq_cons_iff.mp same
  obtain ⟨formula,rfl⟩ := expression_of_symbol found
  exact ⟨formula,rest,rfl,later⟩

theorem token_first {top : List Item} {others : List Symbol} (token : Token)
    (plain : token.symbol ≠ .value) (same : top.map Item.symbol = token.symbol :: others) :
    ∃ rest, top = .token token :: rest ∧ rest.map Item.symbol = others := by
  obtain ⟨first,rest,rfl,found,later⟩ := List.map_eq_cons_iff.mp same
  rw [token_of_symbol token plain found]
  exact ⟨rest,rfl,later⟩

theorem operation_items {top : List Item} {connective : Connective}
    (same : top.map Item.symbol = [.expression,.binary connective,.expression]) :
    ∃ right left, top = [.expression right,.token (.binary connective),.expression left] := by
  obtain ⟨right,_,rfl,afterRight⟩ := expression_first same
  obtain ⟨_,rfl,afterSign⟩ := token_first (.binary connective) (by simp [Token.symbol]) afterRight
  obtain ⟨left,_,rfl,afterLeft⟩ := expression_first afterSign
  cases List.map_eq_nil_iff.mp afterLeft
  exact ⟨right,left,rfl⟩

theorem parenthesized_items {top : List Item}
    (same : top.map Item.symbol = [.closing,.expression,.opening]) :
    ∃ inner, top = [.token .closing,.expression inner,.token .opening] := by
  obtain ⟨_,rfl,afterClosing⟩ := token_first .closing (by decide) same
  obtain ⟨inner,_,rfl,afterInner⟩ := expression_first afterClosing
  obtain ⟨_,rfl,afterOpening⟩ := token_first .opening (by decide) afterInner
  cases List.map_eq_nil_iff.mp afterOpening
  exact ⟨inner,rfl⟩

theorem negation_items {top : List Item} (same : top.map Item.symbol = [.expression,.not]) :
    ∃ operand, top = [.expression operand,.token .not] := by
  obtain ⟨operand,_,rfl,afterOperand⟩ := expression_first same
  obtain ⟨_,rfl,afterNot⟩ := token_first .not (by decide) afterOperand
  cases List.map_eq_nil_iff.mp afterNot
  exact ⟨operand,rfl⟩

theorem value_items {top : List Item} (same : top.map Item.symbol = [.value]) :
    ∃ atom, top = [.token (.value atom)] := by
  obtain ⟨first,others,rfl,isValue,rest⟩ := List.map_eq_cons_iff.mp same
  cases List.map_eq_nil_iff.mp rest
  obtain ⟨atom,rfl⟩ := value_of_symbol isValue
  exact ⟨atom,rfl⟩

theorem reduces_applies (reduces : Reduces next items reduced) :
    ∃ rule ∈ grammarRules, rule.applies (stackOf items) next = true := by
  cases reduces with
  | value ends =>
    exact ⟨grammarRules[6],List.getElem_mem _,(applies_iff _).mpr ⟨[_],_,rfl,rfl,ends⟩⟩
  | negation ends =>
    exact ⟨grammarRules[5],List.getElem_mem _,(applies_iff _).mpr ⟨[_,_],_,rfl,rfl,ends⟩⟩
  | parenthesized ends =>
    exact ⟨grammarRules[4],List.getElem_mem _,(applies_iff _).mpr ⟨[_,_,_],_,rfl,rfl,ends⟩⟩
  | @operation connective left right below ends loose =>
    obtain ⟨rule,member,pattern,ahead⟩ := operation_rule connective
    refine ⟨rule,member,(applies_iff _).mpr ⟨[_,_,_],_,rfl,?_,ahead next ends loose⟩⟩
    rw [pattern]
    rfl

theorem applies_reduces {rule : Rule} (member : rule ∈ grammarRules)
    (applied : rule.applies (stackOf items) next = true) :
    ∃ reduced, Reduces next items reduced ∧ rule.apply (stackOf items) = .ok (stackOf reduced) := by
  obtain ⟨top,below,rfl,same,ahead⟩ := (applies_iff rule).mp applied
  have table := grammarRules_cases member
  obtain ⟨pattern,lookahead,assembly,_⟩ := rule
  rcases table with ⟨connective,rfl,rfl,ranks⟩ | ⟨rfl,rfl,rfl⟩ | ⟨rfl,rfl,rfl⟩ | ⟨rfl,rfl,rfl⟩
  · obtain ⟨ends,loose⟩ := ranks next ahead
    obtain ⟨right,left,rfl⟩ := operation_items same
    exact ⟨_,.operation ends loose,rfl⟩
  · obtain ⟨inner,rfl⟩ := parenthesized_items same
    exact ⟨_,.parenthesized ahead,rfl⟩
  · obtain ⟨operand,rfl⟩ := negation_items same
    exact ⟨_,.negation ahead,rfl⟩
  · obtain ⟨atom,rfl⟩ := value_items same
    exact ⟨_,.value ahead,rfl⟩

theorem reduceOnce_of_reduces (reduces : Reduces next items reduced) :
    reduceOnce grammarRules next (stackOf items) = .ok (some (stackOf reduced)) := by
  unfold reduceOnce
  split
  · rename_i missing
    obtain ⟨rule,member,applied⟩ := reduces_applies reduces
    exact absurd applied (List.find?_eq_none.mp missing rule member)
  · rename_i rule found
    have applied := List.find?_some found
    obtain ⟨other,step,replaced⟩ := applies_reduces (List.mem_of_find?_eq_some found) applied
    rw [replaced,reduces.deterministic step]
    rfl

theorem reduceOnce_of_stuck (stuck : Stuck next items) :
    reduceOnce grammarRules next (stackOf items) = .ok none := by
  unfold reduceOnce
  split
  · rfl
  · rename_i rule found
    have applied := List.find?_some found
    obtain ⟨other,step,_⟩ := applies_reduces (List.mem_of_find?_eq_some found) applied
    exact absurd step (stuck other)

theorem reduceOnce_exact (result : Option Stack) :
    reduceOnce grammarRules next (stackOf items) = .ok result ↔
      (Stuck next items ∧ result = none) ∨
        ∃ reduced, Reduces next items reduced ∧ result = some (stackOf reduced) := by
  constructor
  · intro done
    by_cases stuck : Stuck next items
    · rw [reduceOnce_of_stuck stuck] at done
      exact .inl ⟨stuck,(Except.ok.inj done).symm⟩
    · obtain ⟨reduced,step⟩ := Classical.not_forall_not.mp stuck
      rw [reduceOnce_of_reduces step] at done
      exact .inr ⟨reduced,step,(Except.ok.inj done).symm⟩
  · rintro (⟨stuck,rfl⟩ | ⟨reduced,step,rfl⟩)
    · exact reduceOnce_of_stuck stuck
    · exact reduceOnce_of_reduces step

-- Reducing until nothing is left to reduce, as `reduceAll` does; it never fails.
inductive Settles (next : Symbol) : List Item → List Item → Prop where
  | rest {items : List Item} (stuck : Stuck next items) : Settles next items items
  | step {items reduced settled : List Item} (first : Reduces next items reduced)
      (later : Settles next reduced settled) : Settles next items settled

theorem reduceAll_eq (rules : List Rule) (next : Symbol) (stack : Stack) :
    reduceAll rules next stack =
      match reduceOnce rules next stack with
      | .error cause => .error cause
      | .ok none => .ok stack
      | .ok (some reduced) => reduceAll rules next reduced := by
  rw [reduceAll]
  split <;> rename_i step <;> rw [step]

theorem reduceAll_of_stuck (stuck : Stuck next items) :
    reduceAll grammarRules next (stackOf items) = .ok (stackOf items) := by
  rw [reduceAll_eq,reduceOnce_of_stuck stuck]

theorem reduceAll_of_reduces (reduces : Reduces next items reduced) :
    reduceAll grammarRules next (stackOf items) = reduceAll grammarRules next (stackOf reduced) := by
  rw [reduceAll_eq,reduceOnce_of_reduces reduces]

theorem reduceAll_of_settles (settles : Settles next items settled) :
    reduceAll grammarRules next (stackOf items) = .ok (stackOf settled) := by
  induction settles with
  | rest stuck => exact reduceAll_of_stuck stuck
  | step first later ih => rw [reduceAll_of_reduces first,ih]

-- Every reduction makes the stack lighter.
theorem settles_exists (next : Symbol) (items : List Item) : ∃ settled, Settles next items settled := by
  induction measure : weight (stackOf items) using Nat.strongRecOn generalizing items with
  | ind size ih =>
    by_cases stuck : Stuck next items
    · exact ⟨items,.rest stuck⟩
    · obtain ⟨reduced,step⟩ := Classical.not_forall_not.mp stuck
      have lighter := reduceOnce_lighter _ _ _ _ (reduceOnce_of_reduces step)
      obtain ⟨settled,later⟩ := ih _ (measure ▸ lighter) reduced rfl
      exact ⟨settled,.step step later⟩

theorem Settles.stuck (settles : Settles next items settled) : Stuck next settled := by
  induction settles with
  | rest stuck => exact stuck
  | step _ _ ih => exact ih

end PropFormula
