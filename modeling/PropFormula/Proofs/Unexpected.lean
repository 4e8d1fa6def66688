import PropFormula.Proofs.Outcome
import PropFormula.Proofs.Spacing

namespace PropFormula

-- A character that is no separator and begins no token where this text follows it.
structure Strange (character : Char) (rest : List Char) : Prop where
  solid : isSeparator character = false
  sign : character ∉ ['(',')','!','&','|']
  body : isBody character = false
  implication : ¬ (character = '=' ∧ ['>'] <+: rest)
  equivalence : ¬ (character = '<' ∧ ['=','>'] <+: rest)

-- The last of the tokens ends the text and takes in the character.
def Lengthens (character : Char) (text : List Char) (tokens : List Token) : Prop :=
  ∃ token ∈ tokens.getLast?, token.text.toList <:+ text ∧ token.TakesIn character

-- The scanner takes these tokens off this text and cannot go on with the character behind it.
structure Unexpected (character : Char) (before after : List Char) (tokens : List Token) : Prop where
  cuts : Cuts before tokens
  apart : ¬ Lengthens character before tokens
  strange : Strange character after

theorem identifier_none_iff (character : Char) (rest : List Char) :
    identifier? (character :: rest) = none ↔ isBody character = false := by
  cases body : isBody character <;> simp [identifier?,body]

theorem lexeme_of_body {character : Char} (body : isBody character = true) (rest : List Char) :
    lexeme? (character :: rest) ≠ none := by
  intro none
  have notZero : character ≠ '0' := by
    rintro rfl
    cases none
  have notOne : character ≠ '1' := by
    rintro rfl
    cases none
  rw [lexeme_identifier rest body notZero notOne,Option.map_eq_none_iff,identifier_none_iff,body] at none
  cases none

theorem strange_iff (character : Char) (rest : List Char) :
    Strange character rest ↔ isSeparator character = false ∧ lexeme? (character :: rest) = none := by
  constructor
  · rintro ⟨solid,sign,body,implication,equivalence⟩
    refine ⟨solid,?_⟩
    generalize whole : character :: rest = text
    fun_cases lexeme? text
    case case10 => rw [← whole,(identifier_none_iff character rest).mpr body,Option.map_none]
    case case3 | case4 =>
      cases whole
      exact absurd body (by decide)
    case case8 later =>
      cases whole
      exact absurd ⟨rfl,later,rfl⟩ implication
    case case9 later =>
      cases whole
      exact absurd ⟨rfl,later,rfl⟩ equivalence
    all_goals
      cases whole
      exact absurd sign (by decide)
  · rintro ⟨solid,none⟩
    refine ⟨solid,?_,?_,?_,?_⟩
    · intro member
      simp only [List.mem_cons,List.not_mem_nil,or_false] at member
      rcases member with rfl | rfl | rfl | rfl | rfl <;> cases none
    · cases body : isBody character with
      | false => rfl
      | true => exact absurd none (lexeme_of_body body rest)
    · rintro ⟨rfl,later,rfl⟩
      cases none
    · rintro ⟨rfl,later,rfl⟩
      cases none

section
variable {character : Char} {text before rest ahead gap : List Char} {name : String} {token : Token}
  {tokens : List Token} {offset : Nat}

theorem Cuts.inside (cuts : Cuts text tokens) (member : token ∈ tokens) : token.text.toList <:+: text := by
  induction cuts with
  | finish => cases member
  | @token gap text rest first others _ found later ih =>
    rw [lexeme_text _ _ _ found]
    rcases List.mem_cons.mp member with rfl | further
    · exact (List.prefix_append _ rest).isInfix.trans (List.suffix_append gap _).isInfix
    · exact (ih further).trans ((List.suffix_append _ rest).trans (List.suffix_append gap _)).isInfix

theorem gap_empty (legal : LegalName name) (blank : IsGap gap) (ends : name.toList <:+ text ++ gap) :
    gap = [] := by
  rcases gap.eq_nil_or_concat with empty | ⟨front,last,rfl⟩
  · exact empty
  · have filled : name.toList ≠ [] := @token_filled (.value (.var name)) legal
    have same : name.toList.getLast filled = last := by
      rw [ends.getLast filled]
      simp
    have solid := legal.solid _ (List.getLast_mem filled)
    rw [same,blank last (by simp)] at solid
    cases solid

theorem not_lengthens_nil : ¬ Lengthens character text [] := by
  rintro ⟨_,none,_⟩
  cases none

theorem lengthens_cons (gap : List Char) (legal : token.Legal) (later : Cuts rest tokens) :
    Lengthens character (gap ++ (token.text.toList ++ rest)) (token :: tokens) ↔
      rest = [] ∧ token.TakesIn character ∨ Lengthens character rest tokens := by
  have behind : rest <:+ gap ++ (token.text.toList ++ rest) :=
    (List.suffix_append _ rest).trans (List.suffix_append gap _)
  cases tokens with
  | nil =>
    rw [or_iff_left not_lengthens_nil,Lengthens,List.getLast?_singleton]
    constructor
    · rintro ⟨_,⟨⟩,ends,takesIn⟩
      obtain ⟨name,rfl⟩ := takesIn.value
      rw [← List.append_assoc] at ends
      exact ⟨gap_empty legal ((cuts_nil_iff rest).mp later) ends,takesIn⟩
    · rintro ⟨rfl,takesIn⟩
      rw [List.append_nil]
      exact ⟨token,rfl,List.suffix_append gap _,takesIn⟩
  | cons next others =>
    have filled : rest ≠ [] := by
      rintro rfl
      exact later.not_gap IsGap.nil
    rw [Lengthens,Lengthens,List.getLast?_cons_cons]
    constructor
    · rintro ⟨last,isLast,ends,takesIn⟩
      have short := (later.inside (List.mem_of_getLast? isLast)).length_le
      exact .inr ⟨last,isLast,List.suffix_of_suffix_length_le ends behind short,takesIn⟩
    · rintro (⟨empty,_⟩ | ⟨last,isLast,ends,takesIn⟩)
      · exact absurd empty filled
      · exact ⟨last,isLast,ends.trans behind,takesIn⟩

theorem byteLength_token (gap : List Char) (token : Token) (rest : List Char) :
    byteLength (gap ++ (token.text.toList ++ rest)) =
      byteLength gap + token.text.utf8ByteSize + byteLength rest := by
  rw [byteLength_append,byteLength_append,byteLength_toList,Nat.add_assoc]

theorem skip_separators (blank : IsGap gap) :
    Scanner.skipSeparators ⟨gap ++ ahead,offset⟩ = Scanner.skipSeparators ⟨ahead,offset + byteLength gap⟩ := by
  unfold Scanner.skipSeparators
  rw [List.dropWhile_append_of_pos blank,List.takeWhile_append_of_pos blank,byteLength_append,Nat.add_assoc]

theorem tokens_gap (blank : IsGap gap) :
    Scanner.tokens ⟨gap ++ ahead,offset⟩ = Scanner.tokens ⟨ahead,offset + byteLength gap⟩ := by
  rw [Scanner.tokens_eq,Scanner.tokens_eq ⟨ahead,_⟩,Scanner.next,Scanner.next,skip_separators blank]

theorem tokens_past (cuts : Cuts before tokens)
    (apart : ∀ character ∈ ahead.head?, ¬ Lengthens character before tokens) (offset : Nat) :
    Scanner.tokens ⟨before ++ ahead,offset⟩ =
      (Scanner.tokens ⟨ahead,offset + byteLength before⟩).map (fun rest => tokens ++ rest) := by
  induction cuts generalizing offset with
  | finish blank =>
    rw [tokens_gap blank]
    cases Scanner.tokens ⟨ahead,_⟩ <;> rfl
  | @token gap text rest token tokens blank found later ih =>
    obtain ⟨legal,rfl,stops⟩ := (lexeme_exact _ _ _).mp found
    have step (character : Char) : Lengthens character _ _ ↔ _ := lengthens_cons gap legal later
    have same : lexeme? (token.text.toList ++ (rest ++ ahead)) = some (token,rest ++ ahead) := by
      rw [lexeme_exact]
      refine ⟨legal,rfl,?_⟩
      cases rest with
      | nil =>
        intro character next takesIn
        exact apart character next ((step character).mpr (.inl ⟨rfl,takesIn⟩))
      | cons first others => exact stops
    have further : ∀ character ∈ ahead.head?, ¬ Lengthens character rest tokens :=
      fun character next lengthened => apart character next ((step character).mpr (.inr lengthened))
    have inner := ih further (offset + byteLength gap + token.text.utf8ByteSize)
    rw [List.append_assoc,List.append_assoc,Scanner.tokens_eq,Scanner.next_of_reads (.token blank same)]
    dsimp only
    rw [inner,byteLength_token,← Nat.add_assoc,← Nat.add_assoc]
    cases Scanner.tokens ⟨ahead,_⟩ <;> rfl

theorem Unexpected.behind {after : List Char} (blank : IsGap gap)
    (found : lexeme? text = some (token,before ++ character :: after))
    (unexpected : Unexpected character before after tokens) :
    Unexpected character (gap ++ (token.text.toList ++ before)) after (token :: tokens) where
  cuts := .token blank (lexeme_shorten found) unexpected.cuts
  apart lengthened := by
    obtain ⟨legal,_,stops⟩ := (lexeme_exact _ _ _).mp found
    rcases (lengthens_cons gap legal unexpected.cuts).mp lengthened with ⟨rfl,takesIn⟩ | further
    · exact stops character rfl takesIn
    · exact unexpected.apart further
  strange := unexpected.strange

theorem unexpected_of_tokens {scanner : Scanner}
    (failed : scanner.tokens = .error (.unexpectedCharacter character offset)) :
    ∃ before after tokens, scanner.rest = before ++ character :: after ∧
      scanner.offset + byteLength before = offset ∧ Unexpected character before after tokens := by
  fun_induction Scanner.tokens scanner with
  | case1 scanner cause after read =>
    cases failed
    have reads := scanner.reads_next
    rw [read] at reads
    cases reads with
    | unexpected blank solid strange =>
      exact ⟨_,_,[],rfl,rfl,.finish blank,not_lengthens_nil,(strange_iff _ _).mpr ⟨solid,strange⟩⟩
  | case2 => cases failed
  | case3 scanner token ahead read ih =>
    have reads := scanner.reads_next
    rw [read] at reads
    have later : ahead.tokens = .error (.unexpectedCharacter character offset) := by
      cases scanned : ahead.tokens with
      | error cause => rw [scanned] at failed; exact failed
      | ok tokens => rw [scanned] at failed; cases failed
    obtain ⟨before,after,tokens,split,rfl,unexpected⟩ := ih later
    cases reads with
    | token blank found =>
      cases split
      refine ⟨_,after,_,?_,?_,unexpected.behind blank found⟩
      · rw [lexeme_text _ _ _ found]
        simp
      · rw [byteLength_token,← Nat.add_assoc,← Nat.add_assoc]

theorem Unexpected.refused {after : List Char} (unexpected : Unexpected character before after tokens)
    (offset : Nat) :
    Scanner.tokens ⟨before ++ character :: after,offset⟩ =
      .error (.unexpectedCharacter character (offset + byteLength before)) := by
  obtain ⟨solid,none⟩ := (strange_iff _ _).mp unexpected.strange
  have stuck : Scanner.next ⟨character :: after,offset + byteLength before⟩ = _ :=
    Scanner.next_of_reads (.unexpected IsGap.nil solid none)
  have apart : ∀ next ∈ (character :: after).head?, ¬ Lengthens next before tokens := by
    rintro _ ⟨⟩
    exact unexpected.apart
  rw [tokens_past unexpected.cuts apart,Scanner.tokens_eq,stuck]
  rfl

theorem lengthens_iff (body : isBody character = false) :
    Lengthens character text tokens ↔
      isPrime character = true ∧
        ∃ name, tokens.getLast? = some (.value (.var name)) ∧ name.toList <:+ text := by
  constructor
  · rintro ⟨token,isLast,ends,name,rfl,prime | ⟨inBody,_⟩⟩
    · exact ⟨prime,name,isLast,ends⟩
    · rw [body] at inBody
      cases inBody
  · rintro ⟨prime,name,isLast,ends⟩
    exact ⟨_,isLast,ends,name,rfl,.inl prime⟩

end

theorem parse_unexpected_iff (text : String) (character : Char) (offset : Nat) :
    Formula.parse text = .error (.unexpectedCharacter character offset) ↔
      tokenize text = .error (.unexpectedCharacter character offset) := by
  rcases parse_cases text with ⟨_,_,scanned,read⟩ | ⟨scanned,_,read⟩ | ⟨_,scanned,_,⟨_,read⟩ | read⟩
  · rw [scanned,read,Except.error.injEq,Except.error.injEq]
  all_goals
    rw [scanned,read]
    exact ⟨nofun,nofun⟩

-- The one complaint of a character is about the first that neither begins a token nor continues a name.
theorem unexpected_character_exact (text : String) (character : Char) (offset : Nat) :
    Formula.parse text = .error (.unexpectedCharacter character offset) ↔
      ∃ before after tokens, text = before ++ String.singleton character ++ after ∧
        before.utf8ByteSize = offset ∧ tokenize before = .ok tokens ∧ Strange character after.toList ∧
        ¬ (isPrime character = true ∧
          ∃ name, tokens.getLast? = some (.value (.var name)) ∧ name.toList <:+ before.toList) := by
  rw [parse_unexpected_iff]
  constructor
  · intro failed
    obtain ⟨before,after,tokens,split,counted,cuts,apart,strange⟩ := unexpected_of_tokens failed
    rw [lengthens_iff strange.body] at apart
    have scanned : tokenize (.ofList before) = .ok tokens := by
      rw [← cuts_exact,String.toList_ofList]
      exact cuts
    refine ⟨.ofList before,.ofList after,tokens,?_,?_,scanned,?_,?_⟩
    · have same : text.toList = before ++ character :: after := split
      rw [← String.toList_inj]
      simpa using same
    · rw [← byteLength_ofList,← counted]
      exact (Nat.zero_add _).symm
    · rwa [String.toList_ofList]
    · rwa [String.toList_ofList]
  · rintro ⟨before,after,tokens,rfl,rfl,scanned,strange,apart⟩
    rw [← lengthens_iff strange.body] at apart
    have unexpected : Unexpected character before.toList after.toList tokens :=
      ⟨(cuts_exact before tokens).mpr scanned,apart,strange⟩
    have failed := unexpected.refused 0
    rw [byteLength_toList,Nat.zero_add] at failed
    rw [tokenize,Scanner.start]
    simpa using failed

example : Formula.parse "a′ &1′" = .error (.unexpectedCharacter '′' 7) := by decide +kernel

end PropFormula
