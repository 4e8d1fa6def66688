import PropFormula.Proofs.Scanning

namespace PropFormula

-- A body character that is no constant, then body characters, then prime marks.
def LegalName (name : String) : Prop :=
  ∃ first body marks, name.toList = first :: (body ++ marks) ∧
    isBody first = true ∧ first ≠ '0' ∧ first ≠ '1' ∧
    (∀ character ∈ body, isBody character = true) ∧ ∀ character ∈ marks, isPrime character = true

def Unprimed (name : String) : Prop := ∀ character ∈ name.toList.getLast?, isPrime character = false

instance (name : String) : Decidable (Unprimed name) :=
  Option.decidableForallMem name.toList.getLast?

def Atom.Legal : Atom → Prop
  | .var name => LegalName name
  | _ => True

def Token.Legal : Token → Prop
  | .value atom => atom.Legal
  | _ => True

theorem body_of_prime {character : Char} (prime : isPrime character = true) :
    isBody character = false := by
  simp only [isPrime,List.contains_iff_mem,List.mem_cons,List.not_mem_nil,or_false] at prime
  rcases prime with rfl | rfl | rfl | rfl | rfl | rfl | rfl | rfl <;> decide

theorem prime_of_body {character : Char} (body : isBody character = true) :
    isPrime character = false := by
  cases prime : isPrime character with
  | false => rfl
  | true => rw [body_of_prime prime] at body; cases body

theorem LegalName.characters {name : String} (legal : LegalName name) :
    ∀ character ∈ name.toList, isBody character = true ∨ isPrime character = true := by
  obtain ⟨first,body,marks,spelled,isFirst,_,_,inBody,inMarks⟩ := legal
  intro character member
  rw [spelled,List.mem_cons,List.mem_append] at member
  rcases member with rfl | inside | inside
  · exact .inl isFirst
  · exact .inl (inBody character inside)
  · exact .inr (inMarks character inside)

theorem LegalName.solid {name : String} (legal : LegalName name) :
    ∀ character ∈ name.toList, isSeparator character = false := by
  intro character member
  have part := legal.characters character member
  cases separator : isSeparator character with
  | false => rfl
  | true =>
    simp only [isSeparator,List.contains_iff_mem,List.mem_cons,List.not_mem_nil,or_false] at separator
    rcases separator with rfl | rfl | rfl | rfl | rfl <;> exact absurd part (by decide)

-- Nothing here continues a name that ends right before.
def Stops (text : List Char) : Prop :=
  ∀ character ∈ text.head?, isBody character = false ∧ isPrime character = false

theorem stops_space (text : List Char) : Stops (' ' :: text) := by
  intro character ahead
  cases ahead
  decide

theorem stops_closing (text : List Char) : Stops (')' :: text) := by
  intro character ahead
  cases ahead
  decide

theorem stops_opening (text : List Char) : Stops ('(' :: text) := by
  intro character ahead
  cases ahead
  decide

theorem identifier_run {word marks rest : List Char} (filled : word ≠ [])
    (inWord : ∀ character ∈ word, isBody character = true)
    (inMarks : ∀ character ∈ marks, isPrime character = true)
    (wordStops : ∀ character ∈ (marks ++ rest).head?, isBody character = false)
    (marksStop : ∀ character ∈ rest.head?, isPrime character = false) :
    identifier? (word ++ (marks ++ rest)) = some (String.ofList (word ++ marks),rest) := by
  obtain ⟨taken,dropped⟩ := run_stops inWord wordStops
  obtain ⟨primes,others⟩ := run_stops inMarks marksStop
  cases word with
  | nil => exact absurd rfl filled
  | cons first body =>
    unfold identifier?
    rw [taken,dropped]
    dsimp only
    rw [primes,others]

theorem lexeme_identifier {first : Char} (rest : List Char) (body : isBody first = true)
    (notZero : first ≠ '0') (notOne : first ≠ '1') :
    lexeme? (first :: rest) =
      (identifier? (first :: rest)).map (fun (name,rest) => (.value (.var name),rest)) := by
  generalize whole : first :: rest = text
  fun_cases lexeme? text
  case case10 => rfl
  case case3 => cases whole; exact absurd rfl notOne
  case case4 => cases whole; exact absurd rfl notZero
  all_goals
    cases whole
    exact absurd body (by decide)

theorem lexeme_name {name : String} (legal : LegalName name) (rest : List Char)
    (stops : ∀ character ∈ rest.head?,
      isPrime character = false ∧ (Unprimed name → isBody character = false)) :
    lexeme? (name.toList ++ rest) = some (.value (.var name),rest) := by
  obtain ⟨first,body,marks,spelled,isFirst,notZero,notOne,inBody,inMarks⟩ := legal
  have inWord : ∀ character ∈ first :: body, isBody character = true :=
    List.forall_mem_cons.mpr ⟨isFirst,inBody⟩
  have wordStops : ∀ character ∈ (marks ++ rest).head?, isBody character = false := by
    intro character ahead
    cases marks with
    | nil =>
      apply (stops character ahead).2
      intro last isLast
      rw [List.append_nil] at spelled
      rw [spelled] at isLast
      exact prime_of_body (inWord last (List.mem_of_getLast? isLast))
    | cons mark marks =>
      cases ahead
      exact body_of_prime (inMarks _ List.mem_cons_self)
  have found := identifier_run (List.cons_ne_nil first body) inWord inMarks wordStops
    fun character ahead => (stops character ahead).1
  have same : String.ofList (first :: body ++ marks) = name := by
    rw [List.cons_append,← spelled,String.ofList_toList]
  rw [spelled,List.cons_append,lexeme_identifier _ isFirst notZero notOne,List.append_assoc,
    ← List.cons_append,found,same]
  rfl

theorem identifier_stops {text rest : List Char} {name : String}
    (found : identifier? text = some (name,rest)) : ∀ character ∈ rest.head?,
      isPrime character = false ∧ (Unprimed name → isBody character = false) := by
  unfold identifier? at found
  split at found
  · cases found
  · cases found
    have wordStops := text.head?_dropWhile_not isBody
    have marksStop := (text.dropWhile isBody).head?_dropWhile_not isPrime
    have split := (text.dropWhile isBody).takeWhile_append_dropWhile (p := isPrime)
    intro character ahead
    rw [Option.mem_def] at ahead
    rw [ahead] at marksStop
    refine ⟨by simpa using marksStop,?_⟩
    intro unprimed
    cases marks : (text.dropWhile isBody).takeWhile isPrime with
    | nil =>
      rw [marks,List.nil_append] at split
      rw [← split,ahead] at wordStops
      simpa using wordStops
    | cons mark others =>
      have inMarks : ∀ character ∈ mark :: others, isPrime character = true :=
        marks ▸ List.all_eq_true.mp List.all_takeWhile
      have final := List.getLast?_eq_some_getLast (List.cons_ne_nil mark others)
      have unmarked : isPrime ((mark :: others).getLast (List.cons_ne_nil mark others)) = false := by
        apply unprimed
        rw [marks,String.toList_ofList,List.getLast?_append,final]
        rfl
      rw [inMarks _ (List.getLast_mem _)] at unmarked
      cases unmarked

theorem identifier_legal {first : Char} {text rest : List Char} {name : String}
    (found : identifier? (first :: text) = some (name,rest)) (notZero : first ≠ '0')
    (notOne : first ≠ '1') : LegalName name := by
  unfold identifier? at found
  cases body : isBody first with
  | false => simp [body] at found
  | true =>
    rw [List.takeWhile_cons_of_pos body] at found
    cases found
    refine ⟨first,text.takeWhile isBody,((first :: text).dropWhile isBody).takeWhile isPrime,
      ?_,body,notZero,notOne,List.all_eq_true.mp List.all_takeWhile,
      List.all_eq_true.mp List.all_takeWhile⟩
    rw [String.toList_ofList,List.cons_append]

theorem lexeme_legal (text : List Char) (token : Token) (rest : List Char)
    (found : lexeme? text = some (token,rest)) : token.Legal := by
  revert found
  fun_cases lexeme? text
  case case10 notOne notZero _ _ _ _ _ =>
    intro found
    obtain ⟨⟨name,tail⟩,got,same⟩ := Option.map_eq_some_iff.mp found
    cases same
    cases text with
    | nil => simp [identifier?] at got
    | cons first text =>
      exact identifier_legal got (fun zero => notZero text (zero ▸ rfl))
        (fun one => notOne text (one ▸ rfl))
  all_goals
    intro found
    cases found
    trivial

theorem Cuts.legal {text : List Char} {tokens : List Token} (cuts : Cuts text tokens) :
    ∀ token ∈ tokens, token.Legal := by
  induction cuts with
  | finish blank =>
    intro token member
    cases member
  | token blank found later ih =>
    intro token member
    rcases List.mem_cons.mp member with rfl | further
    · exact lexeme_legal _ _ _ found
    · exact ih token further

end PropFormula
