import PropFormula.Token

namespace PropFormula

structure Entry where
  symbol : Symbol
  node? : Option Formula
  deriving DecidableEq

def Token.entry (token : Token) : Entry := ⟨token.symbol,token.node?⟩

def Entry.expression (formula : Formula) : Entry := ⟨.expression,some formula⟩

-- The top of the stack comes first.
abbrev Stack := List Entry

inductive Assembly where
  | between
  | before
  | alone
  deriving DecidableEq, Repr

def Assembly.build? : Assembly → List Formula → Option Formula
  | .between, left :: operator :: right :: _ => some ((operator.addOperand left).addOperand right)
  | .before, operator :: operand :: _ => some (operator.addOperand operand)
  | .alone, node :: _ => some node
  | _, _ => none

-- The pattern lists the oldest symbol first. It weighs more than the expression that replaces it.
structure Rule where
  pattern : List Symbol
  lookahead : List Symbol
  assembly : Assembly
  heavy : 1 < pattern.length + pattern.count .value := by decide

def anyEnd : List Symbol :=
  [.closing,.binary .and,.binary .or,.binary .imp,.binary .iff,.finish]

-- The lookahead sets alone decide how tightly the connectives bind, and that they group to the left.
def grammarRules : List Rule :=
  [{ pattern := [.expression,.binary .and,.expression]
     lookahead := anyEnd
     assembly := .between },
   { pattern := [.expression,.binary .or,.expression]
     lookahead := [.closing,.binary .or,.binary .imp,.binary .iff,.finish]
     assembly := .between },
   { pattern := [.expression,.binary .imp,.expression]
     lookahead := [.closing,.binary .imp,.binary .iff,.finish]
     assembly := .between },
   { pattern := [.expression,.binary .iff,.expression]
     lookahead := [.closing,.binary .iff,.finish]
     assembly := .between },
   { pattern := [.opening,.expression,.closing]
     lookahead := anyEnd
     assembly := .alone },
   { pattern := [.not,.expression]
     lookahead := anyEnd
     assembly := .before },
   { pattern := [.value]
     lookahead := anyEnd
     assembly := .alone }]

def symbols (stack : Stack) : List Symbol := stack.map Entry.symbol

def Rule.applies (rule : Rule) (stack : Stack) (next : Symbol) : Bool :=
  symbols (stack.take rule.pattern.length).reverse == rule.pattern && rule.lookahead.contains next

def Rule.apply (rule : Rule) (stack : Stack) : Except SyntaxError Stack :=
  match rule.assembly.build? ((stack.take rule.pattern.length).reverse.filterMap Entry.node?) with
  | none => .error (.missingNode rule.pattern)
  | some formula => .ok (.expression formula :: stack.drop rule.pattern.length)

def reduceOnce (rules : List Rule) (next : Symbol) (stack : Stack) : Except SyntaxError (Option Stack) :=
  match rules.find? (fun rule => rule.applies stack next) with
  | none => .ok none
  | some rule => (rule.apply stack).map some

-- A value still to be reduced counts twice.
def weight (stack : Stack) : Nat := stack.length + (symbols stack).count .value

theorem weight_append (top below : Stack) : weight (top ++ below) = weight top + weight below := by
  simp only [weight,symbols,List.map_append,List.count_append,List.length_append]
  omega

theorem weight_reverse (stack : Stack) : weight stack.reverse = weight stack := by
  simp [weight,symbols]

theorem Rule.weight_matched (rule : Rule) (stack : Stack) (next : Symbol)
    (applied : rule.applies stack next = true) :
    weight (stack.take rule.pattern.length) = rule.pattern.length + rule.pattern.count .value := by
  have same : symbols (stack.take rule.pattern.length).reverse = rule.pattern := by
    unfold Rule.applies at applied
    exact eq_of_beq (Bool.and_eq_true_iff.mp applied).1
  have length : (stack.take rule.pattern.length).reverse.length = rule.pattern.length := by
    have := congrArg List.length same
    simpa [symbols] using this
  rw [← weight_reverse,weight,same,length]

theorem Rule.weight_apply (rule : Rule) (stack reduced : Stack) (next : Symbol)
    (applied : rule.applies stack next = true) (done : rule.apply stack = .ok reduced) :
    weight reduced < weight stack := by
  unfold Rule.apply at done
  split at done
  · cases done
  · rename_i formula _
    cases done
    have split := weight_append (stack.take rule.pattern.length) (stack.drop rule.pattern.length)
    rw [List.take_append_drop] at split
    have matched := rule.weight_matched stack next applied
    have heavy := rule.heavy
    have pushed : weight (.expression formula :: stack.drop rule.pattern.length) =
        1 + weight (stack.drop rule.pattern.length) := by
      simp only [weight,symbols,List.map_cons,List.length_cons,Entry.expression]
      rw [List.count_cons_of_ne (by decide)]
      omega
    omega

theorem reduceOnce_lighter (rules : List Rule) (next : Symbol) (stack reduced : Stack)
    (step : reduceOnce rules next stack = .ok (some reduced)) : weight reduced < weight stack := by
  unfold reduceOnce at step
  split at step
  · cases step
  · rename_i rule found
    have applied := List.find?_some found
    cases done : rule.apply stack with
    | error cause => rw [done] at step; cases step
    | ok result =>
      rw [done] at step
      cases step
      exact rule.weight_apply stack _ next applied done

def reduceAll (rules : List Rule) (next : Symbol) (stack : Stack) : Except SyntaxError Stack :=
  match _step : reduceOnce rules next stack with
  | .error cause => .error cause
  | .ok none => .ok stack
  | .ok (some reduced) => reduceAll rules next reduced
termination_by weight stack
decreasing_by exact reduceOnce_lighter _ _ _ _ (by assumption)

end PropFormula
