import PropFormula.Proofs.Grammar
import PropFormula.Proofs.Outcome

namespace PropFormula

-- The rank that an expression on top of these items needs to become an operand of theirs.
def demand : List Item → Nat
  | .token .not :: _ => Nonterminal.unary.rank
  | .token (.binary connective) :: .expression _ :: _ => connective.rank + 1
  | _ => 0

def room : List Item → Nat
  | .expression _ :: below => demand below
  | _ => 0

section
variable {next : Symbol} {items settled : List Item} {tree : Formula}

theorem rank_lt_unary (next : Symbol) : next.rank < Nonterminal.unary.rank := by
  cases next with
  | binary connective => cases connective <;> decide
  | _ => decide

theorem stuck_of_demand (fits : demand items ≤ next.rank) : Stuck next (.expression tree :: items) := by
  have loose := rank_lt_unary next
  intro reduced step
  cases step with
  | negation =>
    simp only [demand] at fits
    omega
  | operation ends binds =>
    simp only [demand] at fits
    omega

theorem demand_of_stuck (ends : next ∈ anyEnd) (stuck : Stuck next (.expression tree :: items)) :
    demand items ≤ next.rank := by
  match items with
  | [] => exact Nat.zero_le _
  | .token .not :: _ => exact absurd (.negation ends) (stuck _)
  | .token (.binary connective) :: .expression _ :: _ =>
    have tight : ¬ next.rank ≤ connective.rank := fun loose => stuck _ (.operation ends loose)
    simp only [demand]
    omega
  | .token (.binary _) :: .token _ :: _ => exact Nat.zero_le _
  | [.token (.binary _)] => exact Nat.zero_le _
  | .token .opening :: _ => exact Nat.zero_le _
  | .token .closing :: _ => exact Nat.zero_le _
  | .token (.value _) :: _ => exact Nat.zero_le _
  | .expression _ :: _ => exact Nat.zero_le _

theorem room_of_stuck (ends : next ∈ anyEnd) (stuck : Stuck next items) : room items ≤ next.rank := by
  match items with
  | [] => exact Nat.zero_le _
  | .token _ :: _ => exact Nat.zero_le _
  | .expression _ :: _ => exact demand_of_stuck ends stuck

theorem stuck_of_begins (begins : next ∉ anyEnd) : Stuck next items :=
  fun _ step => begins step.ends

-- By induction on the derivation: on a stack that leaves room for it, reading a word comes to pushing its tree.
theorem derives_parsed {symbol : Nonterminal} {word : List Token} (derives : Derives symbol word tree)
    (items : List Item) (rest : List Token) (fits : demand items ≤ symbol.rank)
    (ends : peek rest ∈ anyEnd) (loose : (peek rest).rank ≤ symbol.rank) :
    parseTokens grammarRules (stackOf items) (word ++ rest) =
      parseTokens grammarRules (stackOf (.expression tree :: items)) rest := by
  induction derives generalizing items rest with
  | @single connective word tree inner ih =>
    have next := Nonterminal.rank_within connective
    have here : (Nonterminal.operation connective).rank = connective.rank := rfl
    exact ih items rest (by omega) ends (by omega)
  | @chain connective leftWord rightWord left right first second ihFirst ihSecond =>
    have next := Nonterminal.rank_within connective
    have stuck : Stuck (Token.binary connective).symbol (.expression left :: items) :=
      stuck_of_demand fits
    rw [List.append_assoc,List.cons_append,
      ihFirst items (.binary connective :: (rightWord ++ rest)) fits (binary_ends connective)
        (Nat.le_refl _),
      parseTokens_shift (.rest stuck),
      ihSecond (.token (.binary connective) :: .expression left :: items) rest (Nat.le_of_eq next.symm)
        ends (by rw [next]; exact Nat.le_succ_of_le loose)]
    exact parseTokens_reduces (.operation ends loose)
  | @prime word tree inner ih =>
    have next : Nonterminal.primary.rank = Nonterminal.unary.rank + 1 := rfl
    exact ih items rest (by omega) ends (by omega)
  | @negation word operand inner ih =>
    rw [List.cons_append,parseTokens_shift (.rest (stuck_of_begins (by decide))),
      ih (.token .not :: items) rest (Nat.le_refl _) ends loose]
    exact parseTokens_reduces (.negation ends)
  | value atom =>
    rw [List.singleton_append,parseTokens_shift (.rest (stuck_of_begins (by simp [Token.symbol,anyEnd])))]
    exact parseTokens_reduces (.value ends)
  | @parenthesized word tree inner ih =>
    have closes : Symbol.closing ∈ anyEnd := by decide
    have stuck : Stuck Token.closing.symbol (.expression tree :: .token .opening :: items) :=
      stuck_of_demand (Nat.zero_le _)
    rw [List.append_assoc,List.singleton_append,List.cons_append,
      parseTokens_shift (.rest (stuck_of_begins (by decide))),
      ih (.token .opening :: items) (.closing :: rest) (Nat.zero_le _) closes (Nat.zero_le _),
      parseTokens_shift (.rest stuck)]
    exact parseTokens_reduces (.parenthesized ends)

theorem parseTokens_complete {word : List Token} (derives : Derives .formula word tree) :
    parseTokens grammarRules [] word = .ok tree := by
  have parsed := derives_parsed derives [] [] (Nat.zero_le _) (by decide) (by decide)
  rw [List.append_nil] at parsed
  exact parsed.trans (parseTokens_finish (.rest (stuck_of_demand (Nat.zero_le _))))

-- A stack spells the word it was built from. An expression on it is derived by a nonterminal tight
-- enough to be an operand of the items below, and at least as tight as the rank given for the top.
inductive Spells : Nat → List Item → List Token → Prop where
  | empty {least : Nat} : Spells least [] []
  | token {least : Nat} {items : List Item} {word : List Token} (token : Token)
      (below : Spells token.symbol.rank items word)
      (fits : token.symbol ∈ anyEnd → room items ≤ token.symbol.rank) :
      Spells least (.token token :: items) (word ++ [token])
  | expression {least : Nat} {items : List Item} {word part : List Token} {tree : Formula}
      {symbol : Nonterminal} (below : Spells 0 items word) (derives : Derives symbol part tree)
      (fits : demand items ≤ symbol.rank) (tight : least ≤ symbol.rank) :
      Spells least (.expression tree :: items) (word ++ part)

theorem demand_le (items : List Item) : demand items ≤ Nonterminal.unary.rank := by
  unfold demand
  split
  · exact Nat.le_refl _
  · rename_i connective _ _
    exact rank_lt_unary (.binary connective)
  · exact Nat.zero_le _

theorem Spells.primary {below : List Item} {word part : List Token} (under : Spells 0 below word)
    (derives : Derives .primary part tree) :
    Spells next.rank (.expression tree :: below) (word ++ part) := by
  have tightest : Nonterminal.primary.rank = Nonterminal.unary.rank + 1 := rfl
  have needed := demand_le below
  have seen := rank_lt_unary next
  exact .expression under derives (by omega) (by omega)

theorem reduces_spells {reduced : List Item} {word : List Token} (reduces : Reduces next items reduced)
    (spells : Spells next.rank items word) : Spells next.rank reduced word := by
  cases reduces with
  | @value atom below ends =>
    cases spells with
    | token _ under _ => exact under.primary (.value atom)
  | @negation operand below ends =>
    cases spells with
    | @expression _ _ _ part _ symbol under derives fits tight =>
      cases under with
      | token _ under _ =>
        have inner : Derives .unary part operand := derives.loosen fits
        rw [List.append_assoc]
        exact .expression under (.negation inner) (demand_le below) (Nat.le_of_lt (rank_lt_unary next))
  | @parenthesized inner below ends =>
    cases spells with
    | token _ under _ =>
      cases under with
      | @expression _ _ _ part _ symbol under derives fits tight =>
        cases under with
        | token _ under _ =>
          have whole : Derives .formula part inner := derives.loosen (Nat.zero_le _)
          rw [List.append_assoc,List.append_assoc]
          exact under.primary (.parenthesized whole)
  | @operation connective left right below ends loose =>
    cases spells with
    | @expression _ _ _ rightPart _ _ under derivesRight fitsRight _ =>
      cases under with
      | token _ under fits =>
        cases under with
        | @expression _ _ _ leftPart _ _ under derivesLeft fitsLeft tight =>
          have first : Derives (.operation connective) leftPart left := derivesLeft.loosen tight
          have second : Derives (.within connective) rightPart right := by
            apply derivesRight.loosen
            rw [Nonterminal.rank_within]
            exact fitsRight
          rw [List.append_assoc,List.append_assoc]
          exact .expression under (.chain first second) (fits (binary_ends connective)) loose

theorem settles_spells {word : List Token} (settles : Settles next items settled)
    (spells : Spells next.rank items word) : Spells next.rank settled word := by
  induction settles with
  | rest => exact spells
  | step first later ih => exact ih (reduces_spells first spells)

-- The run keeps `Spells`, so whatever it concludes with is derived.
theorem parseTokens_sound (tokens : List Token) (items : List Item) (word : List Token)
    (spells : ∀ least, Spells least items word)
    (accepted : parseTokens grammarRules (stackOf items) tokens = .ok tree) :
    Derives .formula (word ++ tokens) tree := by
  induction tokens generalizing items word with
  | nil =>
    obtain ⟨settled,settles⟩ := settles_exists .finish items
    rw [parseTokens_finish settles] at accepted
    have spelled := settles_spells settles (spells _)
    rw [conclude_ok accepted] at spelled
    cases spelled with
    | expression under derives fits tight =>
      cases under with
      | empty =>
        rw [List.append_nil,List.nil_append]
        exact derives.loosen (Nat.zero_le _)
  | cons token rest ih =>
    obtain ⟨settled,settles⟩ := settles_exists token.symbol items
    rw [parseTokens_shift settles] at accepted
    have spelled := settles_spells settles (spells _)
    have derives := ih _ (word ++ [token])
      (fun least => .token token spelled fun ends => room_of_stuck ends settles.stuck) accepted
    rwa [List.append_assoc,List.singleton_append] at derives

theorem parseTokens_exact (tokens : List Token) (tree : Formula) :
    parseTokens grammarRules [] tokens = .ok tree ↔ Derives .formula tokens tree := by
  constructor
  · exact parseTokens_sound tokens [] [] fun _ => .empty
  · exact parseTokens_complete

theorem parse_exact (text : String) (tree : Formula) :
    Formula.parse text = .ok tree ↔
      ∃ tokens, tokenize text = .ok tokens ∧ Derives .formula tokens tree := by
  rw [parse_tokens]
  cases tokenize text with
  | error cause =>
    constructor
    · intro failed
      cases failed
    · rintro ⟨tokens,scanned,_⟩
      cases scanned
  | ok tokens =>
    constructor
    · intro accepted
      exact ⟨tokens,rfl,(parseTokens_exact tokens tree).mp accepted⟩
    · rintro ⟨_,scanned,derives⟩
      cases scanned
      exact (parseTokens_exact _ tree).mpr derives

theorem parse_refused {text : String} {word : List Token} (scanned : tokenize text = .ok word)
    (filled : word ≠ []) (underived : ∀ tree, ¬ Derives .formula word tree) :
    Formula.parse text = .error .incomplete := by
  rcases parse_cases text with ⟨_,_,failed,_⟩ | ⟨empty,_,_⟩ | ⟨_,_,_,⟨tree,parsed⟩ | refused⟩
  · cases scanned.symm.trans failed
  · cases scanned.symm.trans empty
    exact absurd rfl filled
  · obtain ⟨found,same,derives⟩ := (parse_exact text tree).mp parsed
    cases scanned.symm.trans same
    exact absurd derives (underived tree)
  · exact refused

theorem Derives.unique {word : List Token} {first second : Formula}
    (left : Derives .formula word first) (right : Derives .formula word second) : first = second := by
  have one := parseTokens_complete left
  rw [parseTokens_complete right] at one
  exact (Except.ok.inj one).symm

end

theorem parse_accepts_grammar :
    (∀ (text : String) (tree : Formula), Formula.parse text = .ok tree ↔
      ∃ tokens, tokenize text = .ok tokens ∧ Derives .formula tokens tree) ∧
    ∀ (tokens : List Token) (first second : Formula),
      Derives .formula tokens first → Derives .formula tokens second → first = second :=
  ⟨parse_exact,fun _ _ _ left right => left.unique right⟩

theorem conjunction_binds_tighter :
    Derives .formula
        [.value (.var "a"),.binary .or,.value (.var "b"),.binary .and,.value (.var "c")]
        (.binary .or (.var "a") (.binary .and (.var "b") (.var "c"))) ∧
      ¬ Derives .formula
        [.value (.var "a"),.binary .or,.value (.var "b"),.binary .and,.value (.var "c")]
        (.binary .and (.binary .or (.var "a") (.var "b")) (.var "c")) := by
  have grouped : Derives .formula
      [.value (.var "a"),.binary .or,.value (.var "b"),.binary .and,.value (.var "c")]
      (.binary .or (.var "a") (.binary .and (.var "b") (.var "c"))) := by
    have left : Derives (.operation .or) _ (.var "a") := (Derives.value (.var "a")).loosen (by decide)
    have middle : Derives (.operation .and) _ (.var "b") := (Derives.value (.var "b")).loosen (by decide)
    have right : Derives .unary _ (.var "c") := .prime (.value (.var "c"))
    have whole : Derives (.operation .or) _ _ := .chain left (.chain middle right)
    exact whole.loosen (by decide)
  refine ⟨grouped,?_⟩
  intro other
  cases parse_accepts_grammar.2 _ _ _ grouped other

end PropFormula
