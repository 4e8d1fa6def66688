import PropFormula.Formula.Walk
import PropFormula.Proofs.Outcome

namespace PropFormula

namespace Formula

def Full (tree : Formula) : Prop := ∀ node ∈ tree.preorder, node.operands.length = node.kind.arity

theorem full_value (atom : Atom) : (leaf atom.label).Full := by
  intro node member
  rw [preorder_eq,leaf,operands,preorderAll] at member
  cases List.mem_singleton.mp member
  cases atom <;> rfl

theorem Full.not {operand : Formula} (full : operand.Full) : (Formula.not operand).Full := by
  intro node member
  simp only [Formula.not,preorder,preorderAll,List.append_nil,List.mem_cons] at member
  rcases member with rfl | under
  · rfl
  · exact full node under

theorem Full.binary {left right : Formula} (connective : Connective) (first : left.Full)
    (second : right.Full) : (Formula.binary connective left right).Full := by
  intro node member
  simp only [Formula.binary,preorder,preorderAll,List.append_nil,List.mem_cons,List.mem_append] at member
  rcases member with rfl | inLeft | inRight
  · rfl
  · exact first node inLeft
  · exact second node inRight

end Formula

-- The stacks that reading these tokens leads through, each with the tokens that are still to be shifted.
inductive Reached (tokens : List Token) : List Token → Stack → Prop where
  | start : Reached tokens tokens []
  | reduced {rest : List Token} {stack after : Stack} (before : Reached tokens rest stack)
      (step : reduceOnce grammarRules (peek rest) stack = .ok (some after)) : Reached tokens rest after
  | shifted {token : Token} {rest : List Token} {stack : Stack}
      (before : Reached tokens (token :: rest) stack)
      (settled : reduceOnce grammarRules token.symbol stack = .ok none) :
      Reached tokens rest (token.entry :: stack)

def Entry.Sound (entry : Entry) : Prop :=
  match entry.symbol with
  | .opening | .closing => entry.node? = none
  | .not => ∃ node, entry.node? = some node ∧ node.kind = .not ∧ node.operands = []
  | .binary connective =>
    ∃ node, entry.node? = some node ∧ node.kind = .binary connective ∧ node.operands = []
  | .value => ∃ node, entry.node? = some node ∧ node.kind.arity = 0 ∧ node.operands = []
  | .expression => ∃ tree, entry.node? = some tree ∧ tree.Full
  | .finish => False

def Symbol.Joins : Symbol → Prop
  | .closing => True
  | .binary _ => True
  | _ => False

-- What the top of a stack may be, the oldest symbol of each operand last.
structure Guarded (stack : Stack) : Prop where
  tighter {first second : Connective} {below : List Symbol}
    (top : symbols stack = .binary second :: .expression :: .binary first :: .expression :: below) :
    first.rank < second.rank
  reduced {next : Symbol} {below : List Symbol} (joins : next.Joins) (top : symbols stack = next :: below) :
    ∀ operand ∈ [[Symbol.value],[.expression,.not],[.closing,.expression,.opening]], ¬ operand <+: below

-- A token was shifted when no rule applied to what lies below it. That stays true until the token itself is
-- reduced, because a reduction takes entries off the top only.
structure Kept (items : List Item) : Prop where
  full : ∀ tree, .expression tree ∈ items → tree.Full
  stuck : ∀ token below, .token token :: below <:+ items → Stuck token.symbol below

section
variable {next : Symbol} {items below reduced settled : List Item} {tokens rest : List Token} {token : Token}
  {stack after : Stack}

theorem kept_nil : Kept [] := by
  refine ⟨nofun,?_⟩
  intro token below suffix
  cases List.suffix_nil.mp suffix

theorem Kept.shift (kept : Kept items) (stuck : Stuck token.symbol items) : Kept (.token token :: items) where
  full tree member := by
    apply kept.full tree
    simpa using member
  stuck other below suffix := by
    rcases List.suffix_cons_iff.mp suffix with same | inside
    · cases same
      exact stuck
    · exact kept.stuck other below inside

theorem Kept.replace {tree : Formula} (kept : Kept items) (under : below <:+ items) (full : tree.Full) :
    Kept (.expression tree :: below) where
  full other member := by
    rcases List.mem_cons.mp member with same | inside
    · cases same
      exact full
    · exact kept.full other (under.subset inside)
  stuck other deeper suffix := by
    rcases List.suffix_cons_iff.mp suffix with same | inside
    · cases same
    · exact kept.stuck other deeper (inside.trans under)

theorem Kept.reduce (kept : Kept items) (reduces : Reduces next items reduced) : Kept reduced := by
  cases reduces with
  | value ends => exact kept.replace (List.suffix_append [_] _) (Formula.full_value _)
  | negation ends =>
    have operand := kept.full _ List.mem_cons_self
    exact kept.replace (List.suffix_append [_,_] _) operand.not
  | parenthesized ends =>
    have inner := kept.full _ (List.mem_cons_of_mem _ List.mem_cons_self)
    exact kept.replace (List.suffix_append [_,_,_] _) inner
  | operation ends loose =>
    have right := kept.full _ List.mem_cons_self
    have left := kept.full _ (List.mem_cons_of_mem _ (List.mem_cons_of_mem _ List.mem_cons_self))
    exact kept.replace (List.suffix_append [_,_,_] _) (left.binary _ right)

theorem reached_kept (reached : Reached tokens rest stack) : ∃ items, stack = stackOf items ∧ Kept items := by
  induction reached with
  | start => exact ⟨[],rfl,kept_nil⟩
  | reduced before step ih =>
    obtain ⟨items,rfl,kept⟩ := ih
    rcases (reduceOnce_exact _).mp step with ⟨_,none⟩ | ⟨reduced,reduces,same⟩
    · cases none
    · cases same
      exact ⟨reduced,rfl,kept.reduce reduces⟩
  | @shifted token rest stack before settled ih =>
    obtain ⟨items,rfl,kept⟩ := ih
    rcases (reduceOnce_exact _).mp settled with ⟨stuck,_⟩ | ⟨_,_,same⟩
    · exact ⟨.token token :: items,rfl,kept.shift stuck⟩
    · cases same

theorem Kept.sound (kept : Kept items) : ∀ entry ∈ stackOf items, entry.Sound := by
  intro entry member
  obtain ⟨item,inside,rfl⟩ := List.mem_map.mp member
  cases item with
  | expression tree => exact ⟨tree,rfl,kept.full tree inside⟩
  | token token =>
    cases token with
    | opening | closing => rfl
    | not => exact ⟨_,rfl,rfl,rfl⟩
    | binary connective => exact ⟨_,rfl,rfl,rfl⟩
    | value atom => exact ⟨_,rfl,by cases atom <;> rfl,rfl⟩

theorem joins_token (joins : next.Joins) : ∃ token : Token, token.symbol = next ∧ next ≠ .value ∧ next ∈ anyEnd := by
  cases next with
  | closing => exact ⟨.closing,rfl,nofun,by decide⟩
  | binary connective => exact ⟨.binary connective,rfl,nofun,binary_ends connective⟩
  | _ => cases joins

theorem guarded_of_stuck (stuck : ∀ token below, items = .token token :: below → Stuck token.symbol below) :
    Guarded (stackOf items) where
  tighter {first second below} top := by
    rw [symbols_stackOf] at top
    obtain ⟨_,rfl,afterSecond⟩ := token_first (.binary second) nofun top
    obtain ⟨right,_,rfl,afterRight⟩ := expression_first afterSecond
    obtain ⟨_,rfl,afterFirst⟩ := token_first (.binary first) nofun afterRight
    obtain ⟨left,_,rfl,_⟩ := expression_first afterFirst
    apply Nat.lt_of_not_le
    intro loose
    exact stuck _ _ rfl _ (.operation (binary_ends second) loose)
  reduced {next below} joins top operand member within := by
    obtain ⟨token,rfl,plain,ends⟩ := joins_token joins
    rw [symbols_stackOf] at top
    obtain ⟨under,rfl,same⟩ := token_first token plain top
    obtain ⟨rest,rfl⟩ := within
    obtain ⟨front,back,rfl,shape,_⟩ := List.map_eq_append_iff.mp same
    have never := stuck token _ rfl
    simp only [List.mem_cons,List.not_mem_nil,or_false] at member
    rcases member with rfl | rfl | rfl
    · obtain ⟨atom,rfl⟩ := value_items shape
      exact never _ (.value ends)
    · obtain ⟨inner,rfl⟩ := negation_items shape
      exact never _ (.negation ends)
    · obtain ⟨inner,rfl⟩ := parenthesized_items shape
      exact never _ (.parenthesized ends)

theorem Kept.guarded (kept : Kept items) {inner : Stack} (within : inner <:+ stackOf items) : Guarded inner := by
  obtain ⟨above,whole⟩ := within
  obtain ⟨front,back,rfl,_,rfl⟩ := List.map_eq_append_iff.mp whole.symm
  apply guarded_of_stuck
  rintro token below rfl
  exact kept.stuck token below (List.suffix_append front _)

theorem reached_parse (reached : Reached tokens rest stack) :
    parseTokens grammarRules [] tokens = parseTokens grammarRules stack rest := by
  induction reached with
  | start => rfl
  | @reduced rest stack after before step ih =>
    rw [ih]
    cases rest with
    | nil =>
      rw [peek] at step
      rw [parseTokens,parseTokens,reduceAll_eq,step]
    | cons token rest =>
      rw [peek] at step
      rw [parseTokens,parseTokens,reduceAll_eq,step]
  | @shifted token rest stack before settled ih =>
    rw [ih,parseTokens,reduceAll_eq,settled]
    rfl

theorem Reached.settles (reached : Reached tokens rest (stackOf items))
    (settles : Settles (peek rest) items settled) : Reached tokens rest (stackOf settled) := by
  induction settles with
  | rest => exact reached
  | step first later ih =>
    apply ih
    exact reached.reduced (reduceOnce_of_reduces first)

theorem Reached.ends (reached : Reached tokens rest (stackOf items)) :
    ∃ final, Reached tokens [] (stackOf final) ∧ Stuck .finish final := by
  induction rest generalizing items with
  | nil =>
    obtain ⟨settled,settles⟩ := settles_exists .finish items
    exact ⟨settled,reached.settles settles,settles.stuck⟩
  | cons token rest ih =>
    obtain ⟨settled,settles⟩ := settles_exists token.symbol items
    have shifted : Reached tokens rest (stackOf (.token token :: settled)) :=
      (reached.settles settles).shifted (reduceOnce_of_stuck settles.stuck)
    exact ih shifted

end

-- Right after a shift the whole stack is guarded, and whatever comes on top of it later leaves it an inner
-- part of the stack.
theorem stacks_keep_shape (tokens : List Token) :
    (∃ stack, Reached tokens [] stack ∧ reduceOnce grammarRules .finish stack = .ok none ∧
      parseTokens grammarRules [] tokens = conclude stack) ∧
    ∀ rest stack, Reached tokens rest stack →
      parseTokens grammarRules [] tokens = parseTokens grammarRules stack rest ∧
      (∀ entry ∈ stack, entry.Sound) ∧ ∀ inner, inner <:+ stack → Guarded inner := by
  refine ⟨?_,?_⟩
  · have begins : Reached tokens tokens (stackOf []) := .start
    obtain ⟨final,reached,stuck⟩ := begins.ends
    refine ⟨stackOf final,reached,reduceOnce_of_stuck stuck,?_⟩
    exact (reached_parse reached).trans (parseTokens_finish (.rest stuck))
  · intro rest stack reached
    obtain ⟨items,rfl,kept⟩ := reached_kept reached
    exact ⟨reached_parse reached,kept.sound,fun _ within => kept.guarded within⟩

-- A parenthesis that nothing has opened lies on two operations that wait for their operands.
theorem stray_parenthesis_shifted :
    Reached [.value (.var "a"),.binary .or,.value (.var "b"),.binary .and,.closing,.not] [.not]
        [Token.closing.entry,(Token.binary .and).entry,.expression (.var "b"),(Token.binary .or).entry,
          .expression (.var "a")] ∧
      (∀ entry ∈ [Token.closing.entry,(Token.binary .and).entry,.expression (.var "b"),
        (Token.binary .or).entry,.expression (.var "a")], entry.Sound) ∧
      Guarded [(Token.binary .and).entry,.expression (.var "b"),(Token.binary .or).entry,
        .expression (.var "a")] := by
  have left : Reached [.value (.var "a"),.binary .or,.value (.var "b"),.binary .and,.closing,.not] _
      [.expression (.var "a")] := .reduced (.shifted .start rfl) rfl
  have right : Reached _ _ [.expression (.var "b"),(Token.binary .or).entry,.expression (.var "a")] :=
    .reduced (.shifted (.shifted left rfl) rfl) rfl
  have reached := Reached.shifted (.shifted right rfl) rfl
  obtain ⟨_,sound,guarded⟩ := (stacks_keep_shape _).2 _ _ reached
  exact ⟨reached,sound,guarded _ (List.suffix_cons _ _)⟩

end PropFormula
