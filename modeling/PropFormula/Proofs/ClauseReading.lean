import PropFormula.Proofs.ClauseRendering

namespace PropFormula

structure Literal where
  minuses : Nat
  name : String
  deriving DecidableEq, Repr

def Literal.text (literal : Literal) : List Char := List.replicate literal.minuses '-' ++ literal.name.toList

def clauseLine (literals : List Literal) : List Char := [' '].intercalate (literals.map Literal.text)

def readLiteral (word : List Char) : Literal :=
  ⟨(word.takeWhile (fun character => character == '-')).length,
    String.ofList (word.dropWhile (fun character => character == '-'))⟩

def readClauses (text : String) : List (List Literal) :=
  (text.toList.splitOn '\n').map (fun line => (line.splitOn ' ').map readLiteral)

namespace Formula

inductive IsLiteral : Formula → Prop where
  | var {name : String} (legal : LegalName name) (surplus : List Formula) : IsLiteral (.node (.var name) surplus)
  | not {operand : Formula} (inner : IsLiteral operand) : IsLiteral (.not operand)

-- Trees of one form, or operations of one connective over such trees, over operations of it and so on.
inductive Nested (connective : Connective) (form : Formula → Prop) : Formula → Prop where
  | inner {tree : Formula} (formed : form tree) : Nested connective form tree
  | operation {operands : List Formula} (filled : operands ≠ [])
      (each : ∀ operand ∈ operands, Nested connective form operand) :
      Nested connective form (.node (.binary connective) operands)

def IsClause : Formula → Prop := Nested .or IsLiteral

def IsCnf : Formula → Prop := Nested .and IsClause

-- What the operations of one connective at the top of a tree join, in document order.
mutual
def parts (connective : Connective) : Formula → List Formula
  | .node label operands =>
    if label = .binary connective then partsAll connective operands else [.node label operands]
def partsAll (connective : Connective) : List Formula → List Formula
  | [] => []
  | operand :: rest => parts connective operand ++ partsAll connective rest
end

def literal : Formula → Literal
  | .node .not (operand :: _) => ⟨(literal operand).minuses + 1,(literal operand).name⟩
  | tree => ⟨0,tree.name⟩

def clauses (tree : Formula) : List (List Literal) :=
  (tree.parts .and).map (fun clause => (clause.parts .or).map literal)

section
variable {connective : Connective} {form : Formula → Prop} {tree : Formula}

theorem partsAll_eq (connective : Connective) (operands : List Formula) :
    partsAll connective operands = operands.flatMap (parts connective) := by
  induction operands with
  | nil => rfl
  | cons operand rest ih => rw [partsAll,ih,List.flatMap_cons]

theorem parts_operation (connective : Connective) (operands : List Formula) :
    parts connective (.node (.binary connective) operands) = operands.flatMap (parts connective) := by
  rw [parts,if_pos rfl,partsAll_eq]

theorem parts_other (other : tree.label ≠ .binary connective) : parts connective tree = [tree] := by
  cases tree
  exact if_neg other

theorem Nested.filled (apart : ∀ {tree}, form tree → tree.label ≠ .binary connective)
    (nested : Nested connective form tree) : parts connective tree ≠ [] := by
  induction nested with
  | inner formed =>
    rw [parts_other (apart formed)]
    exact List.cons_ne_nil _ _
  | @operation operands filled each ih =>
    rw [parts_operation]
    obtain ⟨operand,member⟩ := List.exists_mem_of_ne_nil operands filled
    exact fun none => ih operand member (List.flatMap_eq_nil_iff.mp none operand member)

theorem Nested.formed (apart : ∀ {tree}, form tree → tree.label ≠ .binary connective)
    (nested : Nested connective form tree) : ∀ part ∈ parts connective tree, form part := by
  induction nested with
  | inner formed =>
    rw [parts_other (apart formed)]
    exact List.forall_mem_singleton.mpr formed
  | operation filled each ih =>
    intro part member
    rw [parts_operation] at member
    obtain ⟨operand,inside,under⟩ := List.mem_flatMap.mp member
    exact ih operand inside part under

theorem IsLiteral.apart (literal : IsLiteral tree) : tree.label ≠ .binary .or := by
  cases literal <;> exact nofun

theorem IsLiteral.legal (literal : IsLiteral tree) : LegalName tree.literal.name := by
  induction literal with
  | var legal surplus => exact legal
  | not inner ih => exact ih

theorem IsClause.apart (clause : IsClause tree) : tree.label ≠ .binary .and := by
  cases clause with
  | inner literal => cases literal <;> exact nofun
  | operation => exact nofun

end

end Formula

theorem intercalate_flatMap {α : Type} (between : String) (texts : α → List String) (items : List α)
    (filled : ∀ item ∈ items, texts item ≠ []) :
    between.intercalate (items.map (fun item => between.intercalate (texts item))) =
      between.intercalate (items.flatMap texts) := by
  induction items with
  | nil => rfl
  | cons item rest ih =>
    obtain ⟨first,others⟩ := List.forall_mem_cons.mp filled
    cases rest with
    | nil => simp
    | cons next rest =>
      have some : (next :: rest).flatMap texts ≠ [] :=
        fun none => others next List.mem_cons_self (List.flatMap_eq_nil_iff.mp none next List.mem_cons_self)
      rw [List.map_cons,String.intercalate_cons_of_ne_nil (by simp),ih others,
        ← String.intercalate_append_of_ne_nil first some]
      rfl

theorem mem_intercalate {between : List Char} {texts : List (List Char)} {character : Char}
    (member : character ∈ between.intercalate texts) :
    character ∈ between ∨ ∃ text ∈ texts, character ∈ text := by
  induction texts with
  | nil => cases member
  | cons text rest ih =>
    cases rest with
    | nil =>
      rw [List.intercalate_singleton] at member
      exact .inr ⟨text,List.mem_cons_self,member⟩
    | cons next rest =>
      rw [List.intercalate_cons_cons,List.mem_append,List.mem_append] at member
      rcases member with (first | parted) | later
      · exact .inr ⟨text,List.mem_cons_self,first⟩
      · exact .inl parted
      · rcases ih later with parted | ⟨other,inside,found⟩
        · exact .inl parted
        · exact .inr ⟨other,List.mem_cons_of_mem _ inside,found⟩

namespace ClauseWriter
open Formula

-- The nesting leaves no trace in the text.
theorem spelled_nested {connective : Connective} {form : Formula → Prop} {separator between : String}
    (apart : ∀ {tree}, form tree → tree.label ≠ .binary connective)
    (joins : ∀ operands, spelled separator (.node (.binary connective) operands) =
      spelledAll separator between operands)
    {tree : Formula} (nested : Nested connective form tree) :
    spelled separator tree = between.intercalate ((parts connective tree).map (spelled separator)) := by
  induction nested with
  | inner formed => rw [parts_other (apart formed),List.map_singleton,String.intercalate_singleton]
  | @operation operands filled each ih =>
    have same : operands.map (spelled separator) =
        operands.map (fun operand => between.intercalate ((parts connective operand).map (spelled separator))) :=
      List.map_congr_left ih
    have some : ∀ operand ∈ operands, (parts connective operand).map (spelled separator) ≠ [] := by
      intro operand member none
      exact (each operand member).filled apart (List.map_eq_nil_iff.mp none)
    rw [joins,spelledAll_eq,same,intercalate_flatMap _ _ _ some,parts_operation,List.map_flatMap]

theorem sound_nested {connective : Connective} {form : Formula → Prop}
    (formed : ∀ {tree}, form tree → ∀ node ∈ shown tree, fault? node = none) {tree : Formula}
    (nested : Nested connective form tree) : ∀ node ∈ shown tree, fault? node = none := by
  induction nested with
  | inner inner => exact formed inner
  | operation filled each ih =>
    intro node member
    rw [shown,reached_node] at member
    rcases List.mem_cons.mp member with rfl | under
    · rfl
    · obtain ⟨operand,inside,below⟩ := List.mem_flatMap.mp under
      exact ih operand (List.mem_of_mem_take inside) node below

theorem sound_literal {tree : Formula} (literal : IsLiteral tree) : ∀ node ∈ shown tree, fault? node = none := by
  induction literal with
  | var legal surplus =>
    intro node member
    rw [shown,reached_node] at member
    cases List.mem_singleton.mp member
    rfl
  | @not operand inner ih =>
    intro node member
    rw [shown,Formula.not,reached_node,Label.kind,shows,List.take_succ_cons,List.take_zero,
      List.flatMap_singleton] at member
    rcases List.mem_cons.mp member with rfl | under
    · rfl
    · exact ih node under

theorem spelled_literal {tree : Formula} (separator : String) (literal : IsLiteral tree) :
    (spelled separator tree).toList = tree.literal.text := by
  induction literal with
  | var legal surplus => rfl
  | not inner ih =>
    rw [Formula.not,spelled,String.toList_append,ih,Formula.literal]
    rfl

end ClauseWriter

section
variable {literal : Literal} {character : Char}

theorem literal_solid (legal : LegalName literal.name) (member : character ∈ literal.text) :
    isSeparator character = false := by
  rcases List.mem_append.mp member with minus | inside
  · rw [List.eq_of_mem_replicate minus]
    rfl
  · exact legal.solid character inside

theorem readLiteral_text (legal : LegalName literal.name) : readLiteral literal.text = literal := by
  have minuses : ∀ character ∈ List.replicate literal.minuses '-', (character == '-') = true := by
    intro character member
    rw [List.eq_of_mem_replicate member]
    rfl
  have stops : ∀ character ∈ literal.name.toList.head?, (character == '-') = false := by
    intro character ahead
    have part := legal.characters character (List.mem_of_mem_head? ahead)
    apply beq_eq_false_iff_ne.mpr
    rintro rfl
    exact absurd part (by decide)
  obtain ⟨taken,dropped⟩ := run_stops minuses stops
  rw [readLiteral,Literal.text,taken,dropped,List.length_replicate,String.ofList_toList]

end

section
variable {line : List Literal}

theorem clauseLine_unbroken (legal : ∀ literal ∈ line, LegalName literal.name) : '\n' ∉ clauseLine line := by
  intro inside
  rcases mem_intercalate inside with parted | ⟨_,isLiteral,there⟩
  · exact absurd parted (by decide)
  · obtain ⟨literal,isPart,rfl⟩ := List.mem_map.mp isLiteral
    cases literal_solid (legal literal isPart) there

theorem readLiterals_line (filled : line ≠ []) (legal : ∀ literal ∈ line, LegalName literal.name) :
    ((clauseLine line).splitOn ' ').map readLiteral = line := by
  have solid : ∀ text ∈ line.map Literal.text, ' ' ∉ text := by
    intro text member inside
    obtain ⟨literal,isPart,rfl⟩ := List.mem_map.mp member
    cases literal_solid (legal literal isPart) inside
  have some : line.map Literal.text ≠ [] := fun none => filled (List.map_eq_nil_iff.mp none)
  have read : line.map (readLiteral ∘ Literal.text) = line.map id :=
    List.map_congr_left fun literal isPart => readLiteral_text (legal literal isPart)
  rw [clauseLine,List.splitOn_intercalate ' ' solid some,List.map_map,read,List.map_id]

end

theorem readClauses_lines {lines : List (List Literal)} (filled : lines ≠ [])
    (each : ∀ line ∈ lines, line ≠ []) (legal : ∀ line ∈ lines, ∀ literal ∈ line, LegalName literal.name) :
    readClauses (.ofList (['\n'].intercalate (lines.map clauseLine))) = lines := by
  have unbroken : ∀ text ∈ lines.map clauseLine, '\n' ∉ text := by
    intro text member
    obtain ⟨line,found,rfl⟩ := List.mem_map.mp member
    exact clauseLine_unbroken (legal line found)
  have some : lines.map clauseLine ≠ [] := fun none => filled (List.map_eq_nil_iff.mp none)
  have read : ∀ line ∈ lines, ((clauseLine line).splitOn ' ').map readLiteral = id line :=
    fun line found => readLiterals_line (each line found) (legal line found)
  rw [readClauses,String.toList_ofList,List.splitOn_intercalate '\n' unbroken some,List.map_map]
  exact (List.map_congr_left read).trans (List.map_id lines)

namespace Formula
variable {tree : Formula}

theorem IsClause.spelled (separator : String) (clause : IsClause tree) :
    (ClauseWriter.spelled separator tree).toList = clauseLine ((tree.parts .or).map literal) := by
  have joins (operands : List Formula) : ClauseWriter.spelled separator (.node (.binary .or) operands) =
    ClauseWriter.spelledAll separator " " operands := by rw [ClauseWriter.spelled]
  have literals := Nested.formed IsLiteral.apart clause
  rw [ClauseWriter.spelled_nested IsLiteral.apart joins clause,String.toList_intercalate,clauseLine,
    List.map_map,List.map_map]
  congr 1
  exact List.map_congr_left fun part member => ClauseWriter.spelled_literal separator (literals part member)

theorem IsCnf.spelled (cnf : IsCnf tree) :
    (ClauseWriter.spelled "\n" tree).toList = ['\n'].intercalate (tree.clauses.map clauseLine) := by
  have joins (operands : List Formula) : ClauseWriter.spelled "\n" (.node (.binary .and) operands) =
    ClauseWriter.spelledAll "\n" "\n" operands := by rw [ClauseWriter.spelled]
  have parts := Nested.formed IsClause.apart cnf
  rw [ClauseWriter.spelled_nested IsClause.apart joins cnf,String.toList_intercalate,clauses,
    List.map_map,List.map_map]
  congr 1
  exact List.map_congr_left fun part member => IsClause.spelled "\n" (parts part member)

end Formula

-- Nothing of a conjunctive form is lost in its text but how it was nested.
theorem clauses_read_back (tree : Formula) (cnf : tree.IsCnf) :
    ∃ text, tree.toClauses = .ok text ∧ readClauses text = tree.clauses := by
  have clauses := Formula.Nested.formed Formula.IsClause.apart cnf
  have sound : ∀ node ∈ ClauseWriter.shown tree, ClauseWriter.fault? node = none :=
    ClauseWriter.sound_nested (ClauseWriter.sound_nested ClauseWriter.sound_literal) cnf
  refine ⟨ClauseWriter.spelled "\n" tree,?_,?_⟩
  · rw [Formula.toClauses,ClauseWriter.toClausesWith_eq,List.findSome?_eq_none_iff.mpr sound]
  · rw [← String.ofList_toList (s := ClauseWriter.spelled "\n" tree),cnf.spelled]
    apply readClauses_lines
    · exact fun none => Formula.Nested.filled Formula.IsClause.apart cnf (List.map_eq_nil_iff.mp none)
    · intro line member none
      obtain ⟨clause,inside,rfl⟩ := List.mem_map.mp member
      exact Formula.Nested.filled Formula.IsLiteral.apart (clauses clause inside) (List.map_eq_nil_iff.mp none)
    · intro line member literal isPart
      obtain ⟨clause,inside,rfl⟩ := List.mem_map.mp member
      obtain ⟨part,found,rfl⟩ := List.mem_map.mp isPart
      exact (Formula.Nested.formed Formula.IsLiteral.apart (clauses clause inside) part found).legal

-- A disjunction in a disjunction, a conjunction of one in a conjunction, and a name with operands.
theorem nested_clauses_read :
    Formula.IsCnf (.node (.binary .and)
        [.node (.binary .or) [.var "a",.node (.binary .or) [.not (.not (.var "b′")),.var "2"]],
          .node (.binary .and) [.not (.node (.var "a") [.leaf .top])]]) ∧
      Formula.toClauses (.node (.binary .and)
        [.node (.binary .or) [.var "a",.node (.binary .or) [.not (.not (.var "b′")),.var "2"]],
          .node (.binary .and) [.not (.node (.var "a") [.leaf .top])]]) = .ok "a --b′ 2\n-a" ∧
      readClauses "a --b′ 2\n-a" = [[⟨0,"a"⟩,⟨2,"b′"⟩,⟨0,"2"⟩],[⟨1,"a"⟩]] := by
  have legalA : LegalName "a" := ⟨'a',[],[],rfl,rfl,by decide,by decide,nofun,nofun⟩
  have legalB : LegalName "b′" :=
    ⟨'b',[],['′'],rfl,rfl,by decide,by decide,nofun,List.forall_mem_singleton.mpr rfl⟩
  have legalTwo : LegalName "2" := ⟨'2',[],[],rfl,rfl,by decide,by decide,nofun,nofun⟩
  have single {tree : Formula} (literal : Formula.IsLiteral tree) : Formula.IsClause tree := .inner literal
  have pair {first second : Formula} {form : Formula → Prop} {connective : Connective}
      (one : Formula.Nested connective form first) (two : Formula.Nested connective form second) :
      Formula.Nested connective form (.node (.binary connective) [first,second]) :=
    .operation (by simp) (List.forall_mem_cons.mpr ⟨one,List.forall_mem_singleton.mpr two⟩)
  have inner := pair (single (.not (.not (.var legalB [])))) (single (.var legalTwo []))
  have alone : Formula.IsCnf (.node (.binary .and) [.not (.node (.var "a") [.leaf .top])]) :=
    .operation (by simp) (List.forall_mem_singleton.mpr (.inner (single (.not (.var legalA _)))))
  have cnf : Formula.IsCnf _ := pair (.inner (pair (single (.var legalA [])) inner)) alone
  obtain ⟨text,written,read⟩ := clauses_read_back _ cnf
  have evaluated : text = "a --b′ 2\n-a" := by
    apply Except.ok.inj
    rw [← written]
    rfl
  rw [evaluated] at written read
  exact ⟨cnf,written,read.trans (by decide +kernel)⟩

end PropFormula
