import PropFormula.Proofs.Placement
import PropFormula.Proofs.Proper
import PropFormula.Proofs.Reached
import PropFormula.Proofs.Spacing

namespace PropFormula
namespace Formula

-- The operands of one connective grouped to the left; a single operand stands for itself.
def grouped (connective : Connective) : List Formula → Formula
  | [] => leaf (.binary connective)
  | first :: rest => rest.foldl (binary connective) first

mutual
def normal : Formula → Formula
  | .node (.binary .and) operands => grouped .and (normalAll operands)
  | .node (.binary .or) operands => grouped .or (normalAll operands)
  | .node (.binary connective) (left :: right :: _) => binary connective (normal left) (normal right)
  | .node .not (operand :: _) => not (normal operand)
  | .node label _ => leaf label
def normalAll : List Formula → List Formula
  | [] => []
  | operand :: rest => normal operand :: normalAll rest
end

structure Hollow (node : Formula) : Prop where
  joins : node.kind = .binary .and ∨ node.kind = .binary .or
  empty : node.operands = []

instance (node : Formula) : Decidable node.Hollow :=
  decidable_of_iff ((node.kind = .binary .and ∨ node.kind = .binary .or) ∧ node.operands = [])
    ⟨fun ⟨joins,empty⟩ => ⟨joins,empty⟩,fun ⟨joins,empty⟩ => ⟨joins,empty⟩⟩

end Formula

namespace InfixWriter

inductive Enough : Connective → List Formula → Prop where
  | joined {connective : Connective} {operands : List Formula} (joins : connective = .and ∨ connective = .or) :
      Enough connective operands
  | paired {connective : Connective} {left right : Formula} {rest : List Formula}
      (pairs : connective = .imp ∨ connective = .iff) : Enough connective (left :: right :: rest)

-- The trees that are written to their end, by the ways in which their nodes are written.
inductive Whole : Formula → Prop where
  | operation {connective : Connective} {operands : List Formula} (enough : Enough connective operands)
      (each : ∀ operand ∈ operands.take (shows (.binary connective) operands.length), Whole operand) :
      Whole (.node (.binary connective) operands)
  | negation {operand : Formula} {surplus : List Formula} (inner : Whole operand) :
      Whole (.node .not (operand :: surplus))
  | value (atom : Atom) (surplus : List Formula) : Whole (.node atom.label surplus)

section
variable {tree operand : Formula} {connective : Connective} {operands : List Formula} {label : Label}

theorem shown_root (tree : Formula) : tree ∈ shown tree := Formula.reached_root shows tree

theorem shown_operand (member : operand ∈ operands.take (shows label.kind operands.length)) :
    ∀ node ∈ shown operand, node ∈ shown (.node label operands) := by
  intro node under
  rw [shown_node]
  exact List.mem_cons_of_mem _ (List.mem_flatMap.mpr ⟨operand,member,under⟩)

theorem enough_of_sound (sound : fault? (.node (.binary connective) operands) = none) :
    Enough connective operands := by
  cases connective with
  | and => exact .joined (.inl rfl)
  | or => exact .joined (.inr rfl)
  | imp | iff =>
    cases operands with
    | nil => cases sound
    | cons left rest =>
      cases rest with
      | nil => cases sound
      | cons right rest => exact .paired (by simp)

theorem whole_of_sound (sound : ∀ node ∈ shown tree, fault? node = none) : Whole tree := by
  induction size : tree.size using Nat.strongRecOn generalizing tree with
  | ind _ ih =>
    have root := sound tree (shown_root tree)
    obtain ⟨label,operands⟩ := tree
    have under : ∀ operand ∈ operands.take (shows label.kind operands.length), Whole operand := by
      intro operand member
      have smaller : operand.size < (Formula.node label operands).size :=
        Formula.size_operand (List.mem_of_mem_take member)
      exact ih _ (size ▸ smaller) (fun node below => sound node (shown_operand member node below)) rfl
    cases label with
    | top => exact .value .top operands
    | bot => exact .value .bot operands
    | var name => exact .value (.var name) operands
    | not =>
      cases operands with
      | nil => cases root
      | cons operand surplus => exact .negation (under operand List.mem_cons_self)
    | binary connective => exact .operation (enough_of_sound root) under

theorem word_operation (enough : Enough connective operands) :
    word (.node (.binary connective) operands) =
      .opening :: wordAll connective (operands.take (shows (.binary connective) operands.length)) ++
        [.closing] := by
  cases enough with
  | joined joins => rcases joins with rfl | rfl <;> rw [word,shows,List.take_length]
  | paired pairs => rcases pairs with rfl | rfl <;> simp [word,wordAll,shows]

theorem normal_operation (enough : Enough connective operands) :
    Formula.normal (.node (.binary connective) operands) =
      .grouped connective ((operands.take (shows (.binary connective) operands.length)).map Formula.normal) := by
  have all (operands : List Formula) : Formula.normalAll operands = operands.map Formula.normal := by
    induction operands with
    | nil => rfl
    | cons operand rest ih => rw [Formula.normalAll,ih,List.map_cons]
  cases enough with
  | joined joins => rcases joins with rfl | rfl <;> rw [Formula.normal,all,shows,List.take_length]
  | paired pairs => rcases pairs with rfl | rfl <;> simp [Formula.normal,Formula.grouped,shows]

def Falls (word : List Token) : Prop := Cuts (layout word).toList word

theorem falls_wordAll (operands : List Formula) (each : ∀ operand ∈ operands, Falls (word operand)) :
    Falls (wordAll connective operands) := by
  induction operands with
  | nil => exact .finish IsGap.nil
  | cons operand rest ih =>
    obtain ⟨first,others⟩ := List.forall_mem_cons.mp each
    cases rest with
    | nil => exact first
    | cons next rest =>
      have later := ih others
      have sign : Cuts (connective.sign.toList ++ ' ' :: (layout (wordAll connective (next :: rest))).toList)
          (.binary connective :: wordAll connective (next :: rest)) :=
        .cons ((lexeme_exact _ _ _).mpr ⟨trivial,rfl,(stops_space _).not_takesIn⟩) (later.gap IsGap.space)
      have whole := first.append (stops_space _) (sign.gap IsGap.space)
      simpa [Falls,wordAll,layout_append,layout,laidOut,spaced] using whole

theorem falls_parenthesized {inner : List Token} (falls : Falls inner) :
    Falls (.opening :: inner ++ [.closing]) := by
  have whole := Cuts.parenthesized falls (.finish IsGap.nil)
  unfold Falls
  rw [layout_parenthesized]
  simpa using whole

theorem falls_negation {inner : List Token} (falls : Falls inner) : Falls (.not :: inner) := by
  have whole : Cuts ('!' :: _) (.not :: _) := .cons rfl falls
  unfold Falls
  rw [layout,String.toList_append]
  exact whole

theorem falls_value {atom : Atom} (legal : atom.Legal) : Falls [.value atom] := by
  have alone : lexeme? (Token.value atom).text.toList = some (.value atom,[]) := lexeme_alone legal
  unfold Falls
  rw [layout,layout,String.append_empty]
  exact .cons alone (.finish IsGap.nil)

theorem Whole.falls (whole : Whole tree)
    (named : ∀ node ∈ shown tree, node.kind = .var → LegalName node.name) : Falls (word tree) := by
  induction whole with
  | operation enough each ih =>
    rw [word_operation enough]
    apply falls_parenthesized
    apply falls_wordAll
    intro operand member
    exact ih operand member fun node under => named node (shown_operand member node under)
  | negation inner ih =>
    rw [word]
    exact falls_negation (ih fun node under => named node (shown_operand List.mem_cons_self node under))
  | value atom surplus =>
    have root := named _ (shown_root _)
    cases atom with
    | top => exact falls_value trivial
    | bot => exact falls_value trivial
    | var name => exact falls_value (root rfl)

theorem derives_chain (operands : List Formula) (filled : operands ≠ [])
    (each : ∀ operand ∈ operands, Derives .unary (word operand) operand.normal) {front : List Token}
    {left : Formula} (derives : Derives (.operation connective) front left) :
    Derives (.operation connective) (front ++ .binary connective :: wordAll connective operands)
      ((operands.map Formula.normal).foldl (.binary connective) left) := by
  induction operands generalizing front left with
  | nil => exact absurd rfl filled
  | cons operand rest ih =>
    obtain ⟨first,others⟩ := List.forall_mem_cons.mp each
    have inner : Derives (.within connective) (word operand) operand.normal := by
      apply first.loosen
      rw [Nonterminal.rank_within]
      exact rank_lt_unary (.binary connective)
    have longer := Derives.chain derives inner
    cases rest with
    | nil => exact longer
    | cons next rest =>
      have whole := ih (List.cons_ne_nil next rest) others longer
      rwa [List.append_assoc,List.cons_append] at whole

theorem derives_grouped (operands : List Formula) (filled : operands ≠ [])
    (each : ∀ operand ∈ operands, Derives .unary (word operand) operand.normal) :
    Derives (.operation connective) (wordAll connective operands)
      (.grouped connective (operands.map Formula.normal)) := by
  cases operands with
  | nil => exact absurd rfl filled
  | cons operand rest =>
    obtain ⟨first,others⟩ := List.forall_mem_cons.mp each
    have left : Derives (.operation connective) (word operand) operand.normal :=
      first.loosen (Nat.le_of_lt (rank_lt_unary (.binary connective)))
    cases rest with
    | nil => exact left
    | cons next rest => exact derives_chain (next :: rest) (List.cons_ne_nil next rest) others left

theorem operands_shown (enough : Enough connective operands)
    (filled : ¬ (Formula.node (.binary connective) operands).Hollow) :
    operands.take (shows (.binary connective) operands.length) ≠ [] := by
  cases enough with
  | joined joins =>
    rcases joins with rfl | rfl
    · rw [shows,List.take_length]
      exact fun empty => filled ⟨.inl rfl,empty⟩
    · rw [shows,List.take_length]
      exact fun empty => filled ⟨.inr rfl,empty⟩
  | paired pairs => rcases pairs with rfl | rfl <;> exact List.cons_ne_nil _ _

theorem Whole.derives (whole : Whole tree) (filled : ∀ node ∈ shown tree, ¬ node.Hollow) :
    Derives .unary (word tree) tree.normal := by
  induction whole with
  | @operation connective operands enough each ih =>
    have some := operands_shown enough (filled _ (shown_root _))
    have inner : Derives (.operation connective) _ _ := derives_grouped _ some fun operand member =>
      ih operand member fun node under => filled node (shown_operand member node under)
    rw [word_operation enough,normal_operation enough]
    exact .prime (.parenthesized (inner.loosen (Nat.zero_le _)))
  | negation inner ih =>
    rw [word,Formula.normal]
    exact .negation (ih fun node under => filled node (shown_operand List.mem_cons_self node under))
  | value atom surplus =>
    cases atom with
    | top => exact .prime (.value .top)
    | bot => exact .prime (.value .bot)
    | var name => exact .prime (.value (.var name))

theorem infix_wordAll (connective : Connective) (member : operand ∈ operands) :
    word operand <:+: wordAll connective operands := by
  induction operands with
  | nil => cases member
  | cons first rest ih =>
    cases rest with
    | nil =>
      cases List.mem_singleton.mp member
      exact List.infix_rfl
    | cons next rest =>
      rw [wordAll]
      rcases List.mem_cons.mp member with rfl | further
      · exact (List.prefix_append _ _).isInfix
      · exact (List.infix_cons (ih further)).trans (List.suffix_append (word first) _).isInfix

-- A hollow node that is shown leaves two parentheses side by side.
theorem Whole.hollow (whole : Whole tree) (node : Formula) (member : node ∈ shown tree) (hollow : node.Hollow) :
    [.opening,.closing] <:+: word tree := by
  induction whole with
  | @operation connective operands enough each ih =>
    rw [shown_node] at member
    rw [word_operation enough]
    rcases List.mem_cons.mp member with rfl | under
    · obtain ⟨_,rfl : operands = []⟩ := hollow
      rw [List.take_nil,wordAll]
      exact List.infix_rfl
    · obtain ⟨operand,inside,below⟩ := List.mem_flatMap.mp under
      have inner := (ih operand inside below).trans (infix_wordAll connective inside)
      exact (inner.trans (List.infix_cons List.infix_rfl)).trans (List.prefix_append _ _).isInfix
  | @negation operand surplus inner ih =>
    rw [shown_node,Label.kind,shows,List.take_succ_cons,List.take_zero,List.flatMap_singleton] at member
    rw [word]
    rcases List.mem_cons.mp member with rfl | under
    · rcases hollow.joins with joins | joins <;> cases joins
    · exact List.infix_cons (ih under)
  | value atom surplus =>
    have root : node = .node atom.label surplus := by
      cases atom <;> simpa [shown_node,Atom.label,Label.kind,shows] using member
    subst root
    cases atom <;> rcases hollow.joins with joins | joins <;> cases joins

-- An opening parenthesis asks for an operand, which a closing one does not begin.
theorem underived_of_empty_pair {word : List Token} (pair : [.opening,.closing] <:+: word) :
    ∀ tree, ¬ Derives .formula word tree := by
  intro tree derives
  have placed := (derives_iff_wellPlaced word).mp ⟨tree,derives⟩
  have chain := List.IsChain.infix placed.neighbours pair
  have admits := List.isChain_pair.mp chain
  simp [Token.leaves,Due.Admits] at admits

end

-- The text of a hand-built tree denotes its normal form, unless something in it is written as `()`.
theorem toInfix_denotes_normal (tree : Formula) (text : String) (written : tree.toInfix = .ok text)
    (named : ∀ node ∈ shown tree, node.kind = .var → LegalName node.name) :
    ((∀ node ∈ shown tree, ¬ node.Hollow) → Formula.parse text = .ok tree.normal) ∧
      ((∃ node ∈ shown tree, node.Hollow) → Formula.parse text = .error .incomplete) := by
  obtain ⟨sound,rfl⟩ := (toInfix_ok_iff tree text).mp written
  have whole := whole_of_sound sound
  have scanned : tokenize (layout (word tree)) = .ok (word tree) := (cuts_exact _ _).mp (whole.falls named)
  constructor
  · intro filled
    have derives : Derives .formula (word tree) tree.normal := (whole.derives filled).loosen (Nat.zero_le _)
    exact (parse_exact _ _).mpr ⟨word tree,scanned,derives⟩
  · rintro ⟨node,member,hollow⟩
    have pair := whole.hollow node member hollow
    have filled : word tree ≠ [] := by
      intro none
      rw [none] at pair
      cases List.infix_nil.mp pair
    exact parse_refused scanned filled (underived_of_empty_pair pair)

-- Three operands of one conjunction, one of a disjunction, and surplus ones that are never looked at; then a
-- conjunction of nothing.
theorem surplus_dropped_and_hollow_refused :
    Formula.toInfix (.node (.binary .and) [.var "a",.node .not [.var "b",.leaf .top],
        .node (.binary .or) [.node (.var "a") [.leaf .not]]]) = .ok "(a & !b & (a))" ∧
      Formula.parse "(a & !b & (a))" =
        .ok (.binary .and (.binary .and (.var "a") (.not (.var "b"))) (.var "a")) ∧
      Formula.toInfix (.node (.binary .or) [.var "b",.leaf (.binary .and)]) = .ok "(b | ())" ∧
      Formula.parse "(b | ())" = .error .incomplete := by
  have written : Formula.toInfix (.node (.binary .and) [.var "a",.node .not [.var "b",.leaf .top],
      .node (.binary .or) [.node (.var "a") [.leaf .not]]]) = .ok "(a & !b & (a))" := by
    decide +kernel
  have writtenHollow : Formula.toInfix (.node (.binary .or) [.var "b",.leaf (.binary .and)]) = .ok "(b | ())" := by
    decide +kernel
  have named (tree : Formula)
      (names : ∀ node ∈ shown tree, node.kind = .var → node.name = "a" ∨ node.name = "b") :
      ∀ node ∈ shown tree, node.kind = .var → LegalName node.name := by
    intro node member isName
    rcases names node member isName with same | same
    · exact same ▸ ⟨'a',[],[],rfl,rfl,by decide,by decide,nofun,nofun⟩
    · exact same ▸ ⟨'b',[],[],rfl,rfl,by decide,by decide,nofun,nofun⟩
  obtain ⟨accepted,_⟩ := toInfix_denotes_normal _ _ written (named _ (by decide +kernel))
  obtain ⟨_,refused⟩ := toInfix_denotes_normal _ _ writtenHollow (named _ (by decide +kernel))
  exact ⟨written,accepted (by decide +kernel),writtenHollow,refused (by decide +kernel)⟩

end InfixWriter
end PropFormula
