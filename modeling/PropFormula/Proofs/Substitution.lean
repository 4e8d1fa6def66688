import PropFormula.Proofs.RoundTrip
import PropFormula.Proofs.Spacing

namespace PropFormula

def Token.value? : Token → Option Atom
  | .value atom => some atom
  | _ => none

theorem Token.eq_of_value {token : Token} {atom : Atom} (value : token.value? = some atom) :
    token = .value atom := by
  cases token <;> cases value
  rfl

-- A value in a text, with what stands before its spelling and after it.
structure Place where
  front : List Char
  atom : Atom
  back : List Char
  deriving DecidableEq

namespace Place

def fill (place : Place) (text : String) : String :=
  String.ofList (place.front ++ (text.toList ++ place.back))

def behind (passed : List Char) (place : Place) : Place := {place with front := passed ++ place.front}

end Place

def Scanner.places (scanner : Scanner) : List Place :=
  match _read : scanner.next with
  | (.ok (some token),after) =>
    let gap := scanner.rest.takeWhile isSeparator
    let here := token.value?.map (fun atom => Place.mk gap atom after.rest)
    here.toList ++ after.places.map (Place.behind (gap ++ token.text.toList))
  | _ => []
termination_by scanner.rest.length
decreasing_by exact Scanner.next_shorter _ _ _ (by assumption)

def places (text : String) : List Place := (Scanner.start text).places

namespace Formula

def leaves (tree : Formula) : List Formula := tree.preorder.filter (fun node => node.operands.isEmpty)

-- The tree with another one in the place of a leaf, the leaves counted from zero.
mutual
def replaceLeaf (inserted : Formula) : Nat → Formula → Formula
  | 0, .node _ [] => inserted
  | _ + 1, .node label [] => .node label []
  | place, .node label operands => .node label (replaceLeafAll inserted place operands)
def replaceLeafAll (inserted : Formula) : Nat → List Formula → List Formula
  | _, [] => []
  | place, operand :: rest =>
    if place < operand.leaves.length then replaceLeaf inserted place operand :: rest
    else operand :: replaceLeafAll inserted (place - operand.leaves.length) rest
end

variable {inserted operand left right : Formula} {place : Nat}

theorem leaves_leaf (label : Label) : (leaf label).leaves = [leaf label] := by
  simp [leaves,leaf,preorder,preorderAll,operands]

theorem leaves_not (operand : Formula) : (Formula.not operand).leaves = operand.leaves := by
  simp [leaves,Formula.not,preorder,preorderAll,operands]

theorem leaves_binary (connective : Connective) (left right : Formula) :
    (binary connective left right).leaves = left.leaves ++ right.leaves := by
  simp [leaves,binary,preorder,preorderAll,operands]

theorem replaceLeaf_leaf (label : Label) : replaceLeaf inserted 0 (leaf label) = inserted := by
  rw [leaf,replaceLeaf]

theorem replaceLeaf_not (inside : place < operand.leaves.length) :
    replaceLeaf inserted place (Formula.not operand) = Formula.not (replaceLeaf inserted place operand) := by
  rw [Formula.not,replaceLeaf,replaceLeafAll,if_pos inside,Formula.not] <;> simp

theorem replaceLeaf_left (connective : Connective) (inside : place < left.leaves.length) :
    replaceLeaf inserted place (binary connective left right) =
      binary connective (replaceLeaf inserted place left) right := by
  rw [binary,replaceLeaf,replaceLeafAll,if_pos inside,binary] <;> simp

theorem replaceLeaf_right (connective : Connective) (inside : place < right.leaves.length) :
    replaceLeaf inserted (left.leaves.length + place) (binary connective left right) =
      binary connective left (replaceLeaf inserted place right) := by
  have beyond : ¬ left.leaves.length + place < left.leaves.length := by omega
  rw [binary,replaceLeaf,replaceLeafAll,if_neg beyond,replaceLeafAll,Nat.add_sub_cancel_left,
    if_pos inside,binary] <;> simp

end Formula

section
variable {word part front rest : List Token} {tree inserted : Formula} {symbol : Nonterminal} {atom : Atom}

def values (word : List Token) : List Atom := word.filterMap Token.value?

theorem values_cons (token : Token) (word : List Token) :
    values (token :: word) = token.value?.toList ++ values word := by
  cases token <;> rfl

theorem values_append (word rest : List Token) : values (word ++ rest) = values word ++ values rest :=
  List.filterMap_append

theorem Derives.leaves (derives : Derives symbol word tree) :
    tree.leaves = (values word).map (fun atom => .leaf atom.label) := by
  induction derives with
  | single inner ih => exact ih
  | chain first second ihFirst ihSecond =>
    rw [Formula.leaves_binary,ihFirst,ihSecond,values_append,List.map_append]
    rfl
  | prime inner ih => exact ih
  | negation inner ih =>
    rw [Formula.leaves_not,ih]
    rfl
  | value atom => exact Formula.leaves_leaf atom.label
  | parenthesized inner ih =>
    have closing : values [.closing] = [] := rfl
    rw [ih,values_append,closing,List.append_nil]
    rfl

theorem value_of_operation {first second : List Token} {connective : Connective}
    (split : first ++ .binary connective :: second = front ++ .value atom :: rest) :
    (∃ inner, first = front ++ .value atom :: inner ∧ rest = inner ++ .binary connective :: second) ∨
      ∃ inner, front = first ++ .binary connective :: inner ∧ second = inner ++ .value atom :: rest := by
  rcases List.append_eq_append_iff.mp split with ⟨middle,frontEq,same⟩ | ⟨middle,firstEq,same⟩
  · cases middle with
    | nil => cases same
    | cons token inner =>
      cases same
      exact .inr ⟨inner,frontEq,rfl⟩
  · cases middle with
    | nil => cases same
    | cons token inner =>
      cases same
      exact .inl ⟨inner,firstEq,rfl⟩

theorem value_of_parenthesized (split : .opening :: word ++ [.closing] = front ++ .value atom :: rest) :
    ∃ before after, front = .opening :: before ∧ rest = after ++ [.closing] ∧
      word = before ++ .value atom :: after := by
  cases front with
  | nil => cases split
  | cons token before =>
    obtain ⟨rfl,same⟩ := List.cons.inj split
    rcases List.append_eq_append_iff.mp same with ⟨middle,_,last⟩ | ⟨middle,wordEq,last⟩
    · cases middle with
      | nil => cases last
      | cons token inner =>
        have lengths := congrArg List.length last
        simp at lengths
    · cases middle with
      | nil => cases last
      | cons token after =>
        cases last
        exact ⟨before,after,rfl,rfl,wordEq⟩

theorem values_before (word : List Token) (atom : Atom) (rest : List Token) :
    (values word).length < (values (word ++ .value atom :: rest)).length := by
  rw [values_append,List.length_append]
  simp [values,Token.value?]

theorem Derives.leaf_inside (derives : Derives symbol (front ++ .value atom :: rest) tree) :
    (values front).length < tree.leaves.length := by
  rw [derives.leaves,List.length_map]
  exact values_before front atom rest

-- A word in parentheses stands wherever a value does.
theorem Derives.substitute (derives : Derives symbol word tree) (inner : Derives .formula part inserted)
    (split : word = front ++ .value atom :: rest) :
    Derives symbol (front ++ (.opening :: part ++ [.closing]) ++ rest)
      (.replaceLeaf inserted (values front).length tree) := by
  induction derives generalizing front rest with
  | single _ ih => exact .single (ih split)
  | @chain connective first second left right firstDerives secondDerives ihFirst ihSecond =>
    rcases value_of_operation split with ⟨later,rfl,rfl⟩ | ⟨before,rfl,rfl⟩
    · rw [Formula.replaceLeaf_left connective firstDerives.leaf_inside]
      have whole := Derives.chain (ihFirst rfl) secondDerives
      rwa [List.append_assoc] at whole
    · have count : (values (first ++ .binary connective :: before)).length =
          left.leaves.length + (values before).length := by
        rw [firstDerives.leaves,List.length_map,values_append,List.length_append]
        rfl
      rw [count,Formula.replaceLeaf_right connective secondDerives.leaf_inside]
      have whole := Derives.chain firstDerives (ihSecond rfl)
      simpa only [List.append_assoc,List.cons_append] using whole
  | prime _ ih => exact .prime (ih split)
  | @negation word operand under ih =>
    cases front with
    | nil => cases split
    | cons token before =>
      obtain ⟨rfl,rfl⟩ := List.cons.inj split
      have count : (values (.not :: before)).length = (values before).length := rfl
      rw [count,Formula.replaceLeaf_not under.leaf_inside]
      exact .negation (ih rfl)
  | value found =>
    cases front with
    | nil =>
      cases split
      rw [List.nil_append,List.append_nil]
      exact (Formula.replaceLeaf_leaf _).symm ▸ .parenthesized inner
    | cons token before =>
      have lengths := congrArg List.length split
      simp at lengths
  | parenthesized under ih =>
    obtain ⟨before,after,rfl,rfl,rfl⟩ := value_of_parenthesized split
    have count : (values (.opening :: before)).length = (values before).length := rfl
    rw [count]
    have whole := Derives.parenthesized (ih rfl)
    simpa only [List.append_assoc,List.cons_append] using whole

end

section
variable {text rest ahead gap : List Char} {token : Token} {word others : List Token} {offset : Nat}

theorem Scanner.places_eq (scanner : Scanner) :
    scanner.places =
      match scanner.next with
      | (.ok (some token),after) =>
        (token.value?.map (fun atom => Place.mk (scanner.rest.takeWhile isSeparator) atom after.rest)).toList ++
          after.places.map (Place.behind (scanner.rest.takeWhile isSeparator ++ token.text.toList))
      | _ => [] := by
  rw [places]
  split
  · rename_i read
    rw [read]
  · rename_i other
    split
    · rename_i read
      exact absurd read (other _ _)
    · rfl

theorem Scanner.places_token (blank : IsGap gap) (found : lexeme? text = some (token,rest)) :
    Scanner.places ⟨gap ++ text,offset⟩ =
      (token.value?.map (fun atom => Place.mk gap atom rest)).toList ++
        (Scanner.places ⟨rest,offset + byteLength gap + token.text.utf8ByteSize⟩).map
          (Place.behind (gap ++ token.text.toList)) := by
  rw [Scanner.places_eq,Scanner.next_of_reads (.token blank found)]
  dsimp only
  rw [(run_stops blank (lexeme_solid_head found)).1]

structure Place.Divides (place : Place) (text : List Char) (word before after : List Token) : Prop where
  spelled : text = place.front ++ (place.atom.text.toList ++ place.back)
  parts : word = before ++ .value place.atom :: after
  front : Cuts place.front before
  back : Cuts place.back after

theorem Place.Divides.behind {place : Place} {before after : List Token} (blank : IsGap gap)
    (found : lexeme? text = some (token,rest)) (divides : place.Divides rest word before after) :
    (place.behind (gap ++ token.text.toList)).Divides (gap ++ text) (token :: word) (token :: before) after where
  spelled := by
    rw [lexeme_text _ _ _ found,divides.spelled]
    simp [Place.behind]
  parts := by
    rw [divides.parts]
    rfl
  front := by
    rw [divides.spelled] at found
    have whole := Cuts.token blank (lexeme_shorten found) divides.front
    rwa [← List.append_assoc] at whole
  back := divides.back

theorem places_divide (cuts : Cuts text word) (offset index : Nat) (place : Place)
    (found : (Scanner.places ⟨text,offset⟩)[index]? = some place) :
    ∃ before after, place.Divides text word before after ∧ (values before).length = index := by
  induction cuts generalizing offset index place with
  | finish blank =>
    rw [Scanner.places_eq,Scanner.next_of_reads (.finish blank)] at found
    cases found
  | @token gap text rest token word blank read later ih =>
    rw [Scanner.places_token blank read] at found
    have further (index : Nat) (inner : Place)
        (there : (Scanner.places ⟨rest,offset + byteLength gap + token.text.utf8ByteSize⟩)[index]? = some inner) :
        ∃ before after, (inner.behind (gap ++ token.text.toList)).Divides (gap ++ text) (token :: word) before after ∧
          (values before).length = token.value?.toList.length + index := by
      obtain ⟨before,after,divides,rfl⟩ := ih _ index inner there
      refine ⟨token :: before,after,divides.behind blank read,?_⟩
      rw [values_cons,List.length_append]
    cases value : token.value? with
    | none =>
      rw [value,Option.map_none,Option.toList_none,List.nil_append,List.getElem?_map] at found
      obtain ⟨inner,there,rfl⟩ := Option.map_eq_some_iff.mp found
      obtain ⟨before,after,divides,count⟩ := further index inner there
      refine ⟨before,after,divides,?_⟩
      rw [count,value,Option.toList_none,List.length_nil,Nat.zero_add]
    | some atom =>
      cases Token.eq_of_value value
      rw [value,Option.map_some,Option.toList_some,List.singleton_append] at found
      cases index with
      | zero =>
        cases found
        exact ⟨[],word,⟨congrArg (gap ++ ·) (lexeme_text _ _ _ read),rfl,.finish blank,later⟩,rfl⟩
      | succ index =>
        rw [List.getElem?_cons_succ,List.getElem?_map] at found
        obtain ⟨inner,there,rfl⟩ := Option.map_eq_some_iff.mp found
        rw [Nat.add_comm]
        exact further index inner there

theorem places_atoms (cuts : Cuts text word) (offset : Nat) :
    (Scanner.places ⟨text,offset⟩).map Place.atom = values word := by
  induction cuts generalizing offset with
  | finish blank =>
    rw [Scanner.places_eq,Scanner.next_of_reads (.finish blank)]
    rfl
  | @token gap text rest token word blank read later ih =>
    have kept (passed : List Char) : Place.atom ∘ Place.behind passed = Place.atom := rfl
    rw [Scanner.places_token blank read,List.map_append,List.map_map,kept,ih,values_cons]
    cases token <;> rfl

end

-- Any value may give way to a text in parentheses: the tree gets the tree of that text in the place of the
-- leaf. Parentheses around the whole text change nothing.
theorem parse_substitutes (text other : String) (tree inserted : Formula)
    (parsed : Formula.parse text = .ok tree) (parsedOther : Formula.parse other = .ok inserted) :
    (∃ word, tokenize text = .ok word ∧ (places text).map Place.atom = values word) ∧
    (places text).length = tree.leaves.length ∧
    (∀ index place, (places text)[index]? = some place →
      place.fill place.atom.text = text ∧
      tree.leaves[index]? = some (.leaf place.atom.label) ∧
      Formula.parse (place.fill ("(" ++ other ++ ")")) = .ok (.replaceLeaf inserted index tree)) ∧
    Formula.parse ("(" ++ text ++ ")") = .ok tree := by
  obtain ⟨word,scanned,derives⟩ := (parse_exact text tree).mp parsed
  obtain ⟨part,scannedOther,inner⟩ := (parse_exact other inserted).mp parsedOther
  have cuts := (cuts_exact text word).mpr scanned
  have cutsOther := (cuts_exact other part).mpr scannedOther
  have atoms := places_atoms cuts 0
  refine ⟨⟨word,scanned,atoms⟩,?_,?_,?_⟩
  · rw [derives.leaves,← atoms,List.length_map,List.length_map]
    rfl
  · intro index place found
    obtain ⟨before,after,divides,rfl⟩ := places_divide cuts 0 index place found
    have parts := divides.parts
    refine ⟨?_,?_,?_⟩
    · rw [Place.fill,← divides.spelled,String.ofList_toList]
    · rw [derives.leaves,parts,values_append,values_cons]
      simp [Token.value?]
    · have inside := cutsOther.parenthesized divides.back
      have whole := divides.front.append (stops_opening _) inside
      refine (parse_exact _ _).mpr ⟨_,(cuts_exact _ _).mp ?_,derives.substitute inner parts⟩
      simpa [Place.fill] using whole
  · have whole := cuts.parenthesized (.finish IsGap.nil)
    refine (parse_exact _ _).mpr
      ⟨_,(cuts_exact _ _).mp ?_,(Derives.parenthesized derives).loosen (Nat.zero_le _)⟩
    simpa using whole

-- A conjunction in the place of a negated name, right behind the negation.
theorem name_gives_way_to_conjunction :
    Formula.parse "!x′|1" = .ok (.binary .or (.not (.var "x′")) (.leaf .top)) ∧
      Formula.parse "a & b" = .ok (.binary .and (.var "a") (.var "b")) ∧
      (places "!x′|1")[0]? = some ⟨['!'],.var "x′",['|','1']⟩ ∧
      Formula.parse "!(a & b)|1" = .ok (.binary .or (.not (.binary .and (.var "a") (.var "b"))) (.leaf .top)) := by
  have parsed : Formula.parse "!x′|1" = .ok (.binary .or (.not (.var "x′")) (.leaf .top)) := by
    decide +kernel
  have parsedOther : Formula.parse "a & b" = .ok (.binary .and (.var "a") (.var "b")) := by
    decide +kernel
  have found : (places "!x′|1")[0]? = some ⟨['!'],.var "x′",['|','1']⟩ := by
    decide +kernel
  obtain ⟨_,_,substitutes,_⟩ := parse_substitutes _ _ _ _ parsed parsedOther
  exact ⟨parsed,parsedOther,found,(substitutes 0 _ found).2.2⟩

end PropFormula
