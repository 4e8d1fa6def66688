import PropFormula.Parser
import PropFormula.Proofs.Reducing
import PropFormula.Proofs.Scanning

namespace PropFormula

def parseTokens (rules : List Rule) (stack : Stack) : List Token → Except SyntaxError Formula
  | [] => do conclude (← reduceAll rules .finish stack)
  | token :: rest => do
    let reduced ← reduceAll rules token.symbol stack
    parseTokens rules (token.entry :: reduced) rest

def peek : List Token → Symbol
  | [] => .finish
  | token :: _ => token.symbol

theorem parseFrom_eq (rules : List Rule) (scanner : Scanner) (stack : Stack) :
    parseFrom rules scanner stack =
      match scanner.next with
      | (.error cause,_) => .error cause
      | (.ok none,_) => do conclude (← reduceAll rules .finish stack)
      | (.ok (some token),after) => (do
        let reduced ← reduceAll rules token.symbol stack
        parseFrom rules after (token.entry :: reduced)) := by
  rw [parseFrom]
  split <;> rename_i read <;> rw [read]

section
variable {items reduced settled : List Item} {tokens rest : List Token} {token : Token}

theorem parseTokens_finish (settles : Settles .finish items settled) :
    parseTokens grammarRules (stackOf items) [] = conclude (stackOf settled) := by
  rw [parseTokens,reduceAll_of_settles settles]
  rfl

theorem parseTokens_shift (settles : Settles token.symbol items settled) :
    parseTokens grammarRules (stackOf items) (token :: rest) =
      parseTokens grammarRules (stackOf (.token token :: settled)) rest := by
  rw [parseTokens,reduceAll_of_settles settles]
  rfl

theorem parseTokens_reduces (reduces : Reduces (peek tokens) items reduced) :
    parseTokens grammarRules (stackOf items) tokens =
      parseTokens grammarRules (stackOf reduced) tokens := by
  have same := reduceAll_of_reduces reduces
  cases tokens with
  | nil =>
    rw [peek] at same
    rw [parseTokens,parseTokens,same]
  | cons token rest =>
    rw [peek] at same
    rw [parseTokens,parseTokens,same]

theorem parseFrom_tokens (scanner : Scanner) (items : List Item) :
    parseFrom grammarRules scanner (stackOf items) = (do
      parseTokens grammarRules (stackOf items) (← scanner.tokens)) := by
  fun_induction Scanner.tokens scanner generalizing items with
  | case1 scanner cause after read =>
    rw [parseFrom_eq,read]
    rfl
  | case2 scanner after read =>
    rw [parseFrom_eq,read]
    rfl
  | case3 scanner token after read ih =>
    obtain ⟨settled,settles⟩ := settles_exists token.symbol items
    have shifted := ih (.token token :: settled)
    rw [parseFrom_eq,read]
    dsimp only
    rw [reduceAll_of_settles settles]
    cases later : after.tokens with
    | error cause =>
      rw [later] at shifted
      exact shifted
    | ok rest =>
      rw [later] at shifted
      refine shifted.trans ?_
      exact (parseTokens_shift settles).symm

-- No reduction of a stack of items fails, so it makes no difference when the tokens are read.
theorem parse_tokens (text : String) :
    Formula.parse text = (do parseTokens grammarRules [] (← tokenize text)) :=
  parseFrom_tokens (.start text) []

theorem conclude_ok {tree : Formula} (done : conclude (stackOf items) = .ok tree) :
    items = [.expression tree] := by
  match items with
  | [] => cases done
  | [.expression _] => cases done; rfl
  | [.token token] => cases token <;> cases done
  | .token token :: _ :: _ => cases token <;> cases done
  | .expression _ :: _ :: _ => cases done

theorem conclude_cases (items : List Item) (filled : items ≠ []) :
    (∃ tree, conclude (stackOf items) = .ok tree) ∨
      conclude (stackOf items) = .error .incomplete := by
  match items with
  | [] => exact absurd rfl filled
  | [.expression tree] => exact .inl ⟨tree,rfl⟩
  | [.token token] => cases token <;> exact .inr rfl
  | .token token :: _ :: _ => cases token <;> exact .inr rfl
  | .expression _ :: _ :: _ => exact .inr rfl

theorem Settles.filled (settles : Settles next items settled) (filled : items ≠ []) :
    settled ≠ [] := by
  induction settles with
  | rest => exact filled
  | step first later ih =>
    apply ih
    cases first <;> exact List.cons_ne_nil _ _

theorem parseTokens_cases (items : List Item) (tokens : List Token)
    (filled : items ≠ [] ∨ tokens ≠ []) :
    (∃ tree, parseTokens grammarRules (stackOf items) tokens = .ok tree) ∨
      parseTokens grammarRules (stackOf items) tokens = .error .incomplete := by
  induction tokens generalizing items with
  | nil =>
    obtain ⟨settled,settles⟩ := settles_exists .finish items
    rw [parseTokens_finish settles]
    apply conclude_cases
    exact settles.filled (filled.resolve_right fun some => some rfl)
  | cons token rest ih =>
    obtain ⟨settled,settles⟩ := settles_exists token.symbol items
    rw [parseTokens_shift settles]
    exact ih _ (.inl (List.cons_ne_nil _ _))

end

-- A text with a bad character is refused for it whatever comes before; a text without one is refused for
-- being empty or for its form, or it is accepted.
theorem parse_cases (text : String) :
    (∃ character offset,
        tokenize text = .error (.unexpectedCharacter character offset) ∧
        Formula.parse text = .error (.unexpectedCharacter character offset)) ∨
      (tokenize text = .ok [] ∧ IsGap text.toList ∧
        Formula.parse text = .error .emptyFormula) ∨
      (∃ tokens, tokenize text = .ok tokens ∧ ¬ IsGap text.toList ∧
        ((∃ tree, Formula.parse text = .ok tree) ∨
          Formula.parse text = .error .incomplete)) := by
  have staged := parse_tokens text
  cases scanned : tokenize text with
  | error cause =>
    obtain ⟨character,offset,rfl⟩ := Scanner.tokens_error (.start text) cause scanned
    rw [scanned] at staged
    exact .inl ⟨character,offset,rfl,staged⟩
  | ok tokens =>
    rw [scanned] at staged
    have cuts := (cuts_exact text tokens).mpr scanned
    cases tokens with
    | nil =>
      have empty : Formula.parse text = .error .emptyFormula := by
        rw [staged]
        exact parseTokens_finish (.rest stuck_nil)
      exact .inr (.inl ⟨rfl,(cuts_nil_iff _).mp cuts,empty⟩)
    | cons token rest =>
      have outcome := parseTokens_cases [] (token :: rest) (.inr (List.cons_ne_nil _ _))
      exact .inr (.inr ⟨_,rfl,cuts.not_gap,staged ▸ outcome⟩)

theorem parse_outcome (text : String) :
    Formula.parse text = (do parseTokens grammarRules [] (← tokenize text)) ∧
      ((∃ character offset,
          tokenize text = .error (.unexpectedCharacter character offset) ∧
          Formula.parse text = .error (.unexpectedCharacter character offset)) ∨
        (tokenize text = .ok [] ∧ IsGap text.toList ∧
          Formula.parse text = .error .emptyFormula) ∨
        (∃ tokens, tokenize text = .ok tokens ∧ ¬ IsGap text.toList ∧
          ((∃ tree, Formula.parse text = .ok tree) ∨
            Formula.parse text = .error .incomplete))) ∧
      ∀ pattern, Formula.parse text ≠ .error (.missingNode pattern) := by
  refine ⟨parse_tokens text,parse_cases text,?_⟩
  intro pattern missing
  rcases parse_cases text with ⟨_,_,_,read⟩ | ⟨_,_,read⟩ | ⟨_,_,_,⟨_,read⟩ | read⟩ <;>
    cases read.symm.trans missing

end PropFormula
