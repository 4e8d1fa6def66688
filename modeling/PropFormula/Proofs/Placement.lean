import Mathlib.Data.List.Chain
import PropFormula.Proofs.Acceptance

namespace PropFormula

inductive Due where
  | operand
  | operator
  deriving DecidableEq, Repr

-- An operand begins with a value, a negation or a parenthesis; a complete one is followed by a connective
-- or by the end of the parentheses around it.
def Due.Admits : Due → Token → Prop
  | .operand, token => token = .not ∨ token = .opening ∨ ∃ atom, token = .value atom
  | .operator, token => token = .closing ∨ ∃ connective, token = .binary connective

def Token.leaves : Token → Due
  | .value _ => .operator
  | .closing => .operator
  | .binary _ => .operand
  | .not => .operand
  | .opening => .operand

structure WellPlaced (word : List Token) : Prop where
  first : ∃ token ∈ word.head?, Due.operand.Admits token
  last : ∃ token ∈ word.getLast?, token.leaves = .operator
  neighbours : word.IsChain (fun first second => first.leaves.Admits second)
  prefixes : ∀ front, front <+: word → front.count .closing ≤ front.count .opening
  total : word.count .closing = word.count .opening

-- A word is read from left to right with two things in mind: what is due, and how many parentheses are open.
inductive Completes : Due → Nat → List Token → Prop where
  | finish : Completes .operator 0 []
  | value {depth : Nat} {rest : List Token} (atom : Atom) (later : Completes .operator depth rest) :
      Completes .operand depth (.value atom :: rest)
  | negation {depth : Nat} {rest : List Token} (later : Completes .operand depth rest) :
      Completes .operand depth (.not :: rest)
  | opening {depth : Nat} {rest : List Token} (later : Completes .operand (depth + 1) rest) :
      Completes .operand depth (.opening :: rest)
  | binary {depth : Nat} {rest : List Token} (connective : Connective)
      (later : Completes .operand depth rest) : Completes .operator depth (.binary connective :: rest)
  | closing {depth : Nat} {rest : List Token} (later : Completes .operator depth rest) :
      Completes .operator (depth + 1) (.closing :: rest)

section
variable {due : Due} {depth : Nat} {word rest front : List Token} {token : Token}

structure Continues (due : Due) (depth : Nat) (word : List Token) : Prop where
  filled : due = .operand → word ≠ []
  first : ∀ token ∈ word.head?, due.Admits token
  last : ∀ token ∈ word.getLast?, token.leaves = .operator
  neighbours : word.IsChain (fun first second => first.leaves.Admits second)
  prefixes : ∀ front, front <+: word → front.count .closing ≤ depth + front.count .opening
  total : word.count .closing = depth + word.count .opening

theorem wellPlaced_iff_continues : WellPlaced word ↔ Continues .operand 0 word := by
  constructor
  · rintro ⟨⟨head,isHead,begins⟩,⟨final,isFinal,ends⟩,neighbours,prefixes,total⟩
    refine ⟨?_,?_,?_,neighbours,?_,?_⟩
    · rintro _ rfl
      cases isHead
    · intro token member
      rwa [Option.mem_unique member isHead]
    · intro token member
      rwa [Option.mem_unique member isFinal]
    · intro front shorter
      rw [Nat.zero_add]
      exact prefixes front shorter
    · rw [Nat.zero_add]
      exact total
  · rintro ⟨filled,first,last,neighbours,prefixes,total⟩
    have filled := filled rfl
    refine ⟨⟨_,List.head?_eq_some_head filled,first _ (List.head?_eq_some_head filled)⟩,
      ⟨_,List.getLast?_eq_some_getLast filled,last _ (List.getLast?_eq_some_getLast filled)⟩,
      neighbours,?_,?_⟩
    · intro front shorter
      have bound := prefixes front shorter
      omega
    · omega

theorem continues_cons {after : Nat}
    (deeper : depth + [token].count .opening = after + [token].count .closing) :
    Continues due depth (token :: rest) ↔ due.Admits token ∧ Continues token.leaves after rest := by
  simp only [List.count_cons,List.count_nil,Nat.zero_add] at deeper
  constructor
  · rintro ⟨_,first,last,neighbours,prefixes,total⟩
    obtain ⟨follows,chain⟩ := List.isChain_cons.mp neighbours
    refine ⟨first token rfl,⟨?_,follows,?_,chain,?_,?_⟩⟩
    · rintro waits rfl
      rw [last token rfl] at waits
      cases waits
    · intro final isFinal
      apply last
      cases rest with
      | nil => cases isFinal
      | cons next tail => rwa [List.getLast?_cons_cons]
    · intro front shorter
      have bound := prefixes (token :: front) ((List.prefix_cons_inj token).mpr shorter)
      simp only [List.count_cons] at bound
      omega
    · simp only [List.count_cons] at total
      omega
  · rintro ⟨admits,filled,first,last,chain,prefixes,total⟩
    refine ⟨fun _ => List.cons_ne_nil _ _,?_,?_,List.isChain_cons.mpr ⟨first,chain⟩,?_,?_⟩
    · rintro _ ⟨⟩
      exact admits
    · intro final isFinal
      cases rest with
      | nil =>
        cases isFinal
        cases leaves : token.leaves with
        | operand => exact absurd rfl (filled leaves)
        | operator => exact leaves
      | cons next tail => exact last final (by rwa [List.getLast?_cons_cons] at isFinal)
    · intro front shorter
      rcases List.prefix_cons_iff.mp shorter with rfl | ⟨tail,rfl,inner⟩
      · exact Nat.zero_le _
      · have bound := prefixes tail inner
        simp only [List.count_cons]
        omega
    · simp only [List.count_cons]
      omega

theorem continues_nil : Continues due depth [] ↔ due = .operator ∧ depth = 0 := by
  constructor
  · rintro ⟨filled,_,_,_,_,total⟩
    refine ⟨?_,by simpa using total.symm⟩
    cases due with
    | operand => exact absurd rfl (filled rfl)
    | operator => rfl
  · rintro ⟨rfl,rfl⟩
    refine ⟨nofun,nofun,nofun,.nil,?_,rfl⟩
    intro front shorter
    rw [List.prefix_nil.mp shorter]
    exact Nat.le_refl _

theorem completes_of_continues (continues : Continues due depth word) : Completes due depth word := by
  induction word generalizing due depth with
  | nil =>
    obtain ⟨rfl,rfl⟩ := continues_nil.mp continues
    exact .finish
  | cons token rest ih =>
    have admits := continues.first token rfl
    cases due with
    | operand =>
      rcases admits with rfl | rfl | ⟨atom,rfl⟩
      · exact .negation (ih ((continues_cons rfl).mp continues).2)
      · exact .opening (ih ((continues_cons rfl).mp continues).2)
      · exact .value atom (ih ((continues_cons (by simp)).mp continues).2)
    | operator =>
      rcases admits with rfl | ⟨connective,rfl⟩
      · cases depth with
        | zero =>
          have bound := continues.prefixes [.closing] (List.prefix_append [.closing] rest)
          cases bound
        | succ depth => exact .closing (ih ((continues_cons rfl).mp continues).2)
      · exact .binary connective (ih ((continues_cons (by simp)).mp continues).2)

theorem continues_of_completes (completes : Completes due depth word) : Continues due depth word := by
  induction completes with
  | finish => exact continues_nil.mpr ⟨rfl,rfl⟩
  | value atom later ih => exact (continues_cons (by simp)).mpr ⟨.inr (.inr ⟨atom,rfl⟩),ih⟩
  | negation later ih => exact (continues_cons rfl).mpr ⟨.inl rfl,ih⟩
  | opening later ih => exact (continues_cons rfl).mpr ⟨.inr (.inl rfl),ih⟩
  | binary connective later ih => exact (continues_cons (by simp)).mpr ⟨.inr ⟨connective,rfl⟩,ih⟩
  | closing later ih => exact (continues_cons rfl).mpr ⟨.inl rfl,ih⟩

theorem completes_iff (word : List Token) : WellPlaced word ↔ Completes .operand 0 word := by
  rw [wellPlaced_iff_continues]
  exact ⟨completes_of_continues,continues_of_completes⟩

theorem completes_of_derives {symbol : Nonterminal} {tree : Formula} (derives : Derives symbol word tree)
    (later : Completes .operator depth rest) : Completes .operand depth (word ++ rest) := by
  induction derives generalizing depth rest with
  | single inner ih => exact ih later
  | chain first second ihFirst ihSecond =>
    rw [List.append_assoc]
    exact ihFirst (.binary _ (ihSecond later))
  | prime inner ih => exact ih later
  | negation inner ih => exact .negation (ih later)
  | value atom => exact .value atom later
  | parenthesized inner ih =>
    rw [List.append_assoc]
    exact .opening (ih (.closing later))

-- A word may go on with any connective that binds no looser than its nonterminal: the operand that
-- follows joins the rightmost operation that is loose enough for it.
theorem Derives.extend {symbol : Nonterminal} {part : List Token} {left right : Formula}
    {connective : Connective} (derives : Derives symbol word left)
    (tight : symbol.rank ≤ connective.rank) (operand : Derives .unary part right) :
    ∃ tree, Derives symbol (word ++ .binary connective :: part) tree := by
  have unary := rank_lt_unary (.binary connective)
  have here : (Symbol.binary connective).rank = connective.rank := rfl
  have second : Derives (.within connective) part right := by
    apply operand.loosen
    rw [Nonterminal.rank_within]
    exact unary
  induction derives with
  | @single outer word tree inner ih =>
    have inside := Nonterminal.rank_within outer
    have bound : outer.rank ≤ connective.rank := tight
    by_cases same : outer.rank = connective.rank
    · have equal : Nonterminal.operation outer = .operation connective := Nonterminal.rank_injective same
      cases equal
      exact ⟨_,.chain (.single inner) second⟩
    · obtain ⟨tree,extended⟩ := ih (by omega)
      exact ⟨tree,.single extended⟩
  | @chain outer leftWord rightWord left tree first last ihFirst ihLast =>
    have inside := Nonterminal.rank_within outer
    have bound : outer.rank ≤ connective.rank := tight
    by_cases same : outer.rank = connective.rank
    · have equal : Nonterminal.operation outer = .operation connective := Nonterminal.rank_injective same
      cases equal
      exact ⟨_,.chain (.chain first last) second⟩
    · obtain ⟨tree,extended⟩ := ihLast (by omega)
      rw [List.append_assoc,List.cons_append]
      exact ⟨_,.chain first extended⟩
  | prime inner ih =>
    have rank : Nonterminal.unary.rank = 4 := rfl
    omega
  | negation inner ih => omega
  | value atom =>
    have rank : Nonterminal.primary.rank = Nonterminal.unary.rank + 1 := rfl
    omega
  | parenthesized inner ih =>
    have rank : Nonterminal.primary.rank = Nonterminal.unary.rank + 1 := rfl
    omega

def Awaits (front : List Token) : Prop :=
  ∀ part tree, Derives .unary part tree → ∃ whole, Derives .formula (front ++ part) whole

-- What has been read since the innermost open parenthesis, according to what is due.
def Ready : Due → List Token → Prop
  | .operand, front => Awaits front
  | .operator, front => ∃ tree, Derives .formula front tree

theorem awaits_nil : Awaits [] :=
  fun _ tree derives => ⟨tree,derives.loosen (Nat.zero_le _)⟩

theorem Awaits.not (awaits : Awaits front) : Awaits (front ++ [.not]) := by
  intro part tree derives
  rw [List.append_assoc]
  exact awaits _ _ (.negation derives)

theorem awaits_binary {tree : Formula} (connective : Connective) (derives : Derives .formula front tree) :
    Awaits (front ++ [.binary connective]) := by
  intro part right operand
  rw [List.append_assoc]
  exact derives.extend (Nat.zero_le _) operand

def enclose : List (List Token) → List Token → List Token
  | [],inner => inner
  | front :: outer,inner => enclose outer (front ++ .opening :: inner)

-- Whatever is being read in these parentheses, what is still to come completes it to a word of the grammar.
theorem Completes.derived (completes : Completes due depth rest) (outer : List (List Token))
    (deep : outer.length = depth) (waiting : ∀ front ∈ outer, Awaits front) (ready : Ready due front) :
    ∃ tree, Derives .formula (enclose outer (front ++ rest)) tree := by
  induction completes generalizing outer front with
  | finish =>
    cases List.length_eq_zero_iff.mp deep
    rw [List.append_nil]
    exact ready
  | @value depth rest atom later ih =>
    have read := ih outer deep waiting (ready _ _ (.prime (.value atom)))
    rwa [List.append_assoc] at read
  | @negation depth rest later ih =>
    have read := ih outer deep waiting (Awaits.not ready)
    rwa [List.append_assoc] at read
  | opening later ih =>
    exact ih (front :: outer) (congrArg Nat.succ deep) (List.forall_mem_cons.mpr ⟨ready,waiting⟩) awaits_nil
  | @binary depth rest connective later ih =>
    obtain ⟨tree,derives⟩ := ready
    have read := ih outer deep waiting (awaits_binary connective derives)
    rwa [List.append_assoc] at read
  | @closing depth rest later ih =>
    obtain ⟨tree,derives⟩ := ready
    cases outer with
    | nil => cases deep
    | cons before outer =>
      obtain ⟨awaits,others⟩ := List.forall_mem_cons.mp waiting
      have read := ih outer (Nat.succ.inj deep) others (awaits _ _ (.prime (.parenthesized derives)))
      simpa only [enclose,List.append_assoc,List.cons_append,List.nil_append] using read

theorem derives_iff_wellPlaced (word : List Token) :
    (∃ tree, Derives .formula word tree) ↔ WellPlaced word := by
  rw [completes_iff]
  constructor
  · rintro ⟨tree,derives⟩
    have read := completes_of_derives derives .finish
    rwa [List.append_nil] at read
  · intro completes
    exact completes.derived [] rfl nofun awaits_nil

end

theorem parse_accepts_wellPlaced (text : String) (word : List Token) (scanned : tokenize text = .ok word) :
    ((∃ tree, Formula.parse text = .ok tree) ↔ WellPlaced word) ∧
      (¬ WellPlaced word →
        Formula.parse text = .error (if word = [] then .emptyFormula else .incomplete)) := by
  have accepted : (∃ tree, Formula.parse text = .ok tree) ↔ WellPlaced word := by
    rw [← derives_iff_wellPlaced]
    constructor
    · rintro ⟨tree,parsed⟩
      obtain ⟨found,same,derives⟩ := (parse_exact text tree).mp parsed
      cases scanned.symm.trans same
      exact ⟨tree,derives⟩
    · rintro ⟨tree,derives⟩
      exact ⟨tree,(parse_exact text tree).mpr ⟨word,scanned,derives⟩⟩
  refine ⟨accepted,?_⟩
  intro misplaced
  rcases parse_cases text with ⟨_,_,failed,_⟩ | ⟨empty,_,refused⟩ | ⟨found,same,filled,outcome⟩
  · cases scanned.symm.trans failed
  · cases scanned.symm.trans empty
    exact refused
  · cases scanned.symm.trans same
    have tokens : word ≠ [] := by
      rintro rfl
      exact filled ((cuts_nil_iff _).mp ((cuts_exact text []).mpr scanned))
    rw [if_neg tokens]
    exact outcome.resolve_left fun parsed => misplaced (accepted.mp parsed)

-- Two operands side by side keep a text from being read although its parentheses balance.
theorem juxtaposition_misplaced :
    WellPlaced [.not,.opening,.value (.var "a"),.binary .or,.value (.var "b"),.closing] ∧
      (∃ tree, Formula.parse "!(a | b)" = .ok tree) ∧
      ¬ WellPlaced [.opening,.value (.var "a"),.not,.value (.var "b"),.closing] ∧
      Formula.parse "(a !b)" = .error .incomplete := by
  have placed : WellPlaced [.not,.opening,.value (.var "a"),.binary .or,.value (.var "b"),.closing] :=
    (completes_iff _).mpr
      (.negation (.opening (.value _ (.binary _ (.value _ (.closing .finish))))))
  have misplaced : ¬ WellPlaced [.opening,.value (.var "a"),.not,.value (.var "b"),.closing] := by
    rintro ⟨_,_,neighbours,_,_⟩
    have afterValue := (List.isChain_cons_cons.mp (List.isChain_cons_cons.mp neighbours).2).1
    simp [Token.leaves,Due.Admits] at afterValue
  have accepted := parse_accepts_wellPlaced "!(a | b)"
    [.not,.opening,.value (.var "a"),.binary .or,.value (.var "b"),.closing] (by decide +kernel)
  have refused := parse_accepts_wellPlaced "(a !b)"
    [.opening,.value (.var "a"),.not,.value (.var "b"),.closing] (by decide +kernel)
  exact ⟨placed,accepted.1.mpr placed,misplaced,refused.2 misplaced⟩

end PropFormula
