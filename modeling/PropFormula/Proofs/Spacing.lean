import Mathlib.Data.List.Chain
import PropFormula.Proofs.Names

namespace PropFormula

-- What would become part of a token if it stood right behind it.
def Token.TakesIn (token : Token) (character : Char) : Prop :=
  ∃ name, token = .value (.var name) ∧
    (isPrime character = true ∨ isBody character = true ∧ Unprimed name)

structure SpacedToken where
  gap : String
  token : Token
  blank : IsGap gap.toList
  legal : token.Legal

def printed : List SpacedToken → String → String
  | [], last => last
  | spaced :: rest, last => spaced.gap ++ (spaced.token.text ++ printed rest last)

-- An unprimed name and a value with nothing between them.
def SpacedToken.RunsInto (first second : SpacedToken) : Prop :=
  second.gap = "" ∧ (∃ name, first.token = .value (.var name) ∧ Unprimed name) ∧
    ∃ atom, second.token = .value atom

section
variable {token : Token} {tokens word others : List Token} {text rest ahead gap : List Char} {character : Char}

theorem Token.TakesIn.value (takesIn : token.TakesIn character) : ∃ name, token = .value (.var name) :=
  takesIn.imp fun _ facts => facts.1

theorem takesIn_name {name : String} :
    (Token.value (.var name)).TakesIn character ↔
      isPrime character = true ∨ isBody character = true ∧ Unprimed name := by
  constructor
  · rintro ⟨_,same,continues⟩
    cases same
    exact continues
  · exact fun continues => ⟨name,rfl,continues⟩

theorem not_takesIn_name {name : String} :
    ¬ (Token.value (.var name)).TakesIn character ↔
      isPrime character = false ∧ (Unprimed name → isBody character = false) := by
  rw [takesIn_name,not_or,Bool.not_eq_true,not_and',Bool.not_eq_true]

-- All there is to know about the front of a text: what the scanner takes off it and where it stops.
theorem lexeme_exact (text : List Char) (token : Token) (rest : List Char) :
    lexeme? text = some (token,rest) ↔
      token.Legal ∧ text = token.text.toList ++ rest ∧ ∀ character ∈ rest.head?, ¬ token.TakesIn character := by
  constructor
  · intro found
    refine ⟨lexeme_legal _ _ _ found,lexeme_text _ _ _ found,?_⟩
    intro character ahead takesIn
    obtain ⟨name,rfl⟩ := takesIn.value
    revert found
    fun_cases lexeme? text
    case case10 =>
      intro found
      obtain ⟨_,got,same⟩ := Option.map_eq_some_iff.mp found
      cases same
      exact not_takesIn_name.mpr (identifier_stops got character ahead) takesIn
    all_goals
      intro found
      cases found
  · rintro ⟨legal,rfl,stops⟩
    cases token with
    | opening | closing | not => rfl
    | binary connective => cases connective <;> rfl
    | value atom =>
      cases atom with
      | top | bot => rfl
      | var name =>
        exact lexeme_name legal rest fun character ahead => not_takesIn_name.mp (stops character ahead)

theorem lexeme_alone (legal : token.Legal) : lexeme? token.text.toList = some (token,[]) :=
  (lexeme_exact _ _ _).mpr ⟨legal,(List.append_nil _).symm,nofun⟩

theorem token_filled (legal : token.Legal) : token.text.toList ≠ [] :=
  lexeme_nonempty _ _ _ (lexeme_alone legal)

theorem token_solid (legal : token.Legal) (rest : List Char) :
    ∀ character ∈ (token.text.toList ++ rest).head?, isSeparator character = false := by
  have alone := lexeme_alone legal
  have filled := token_filled legal
  cases spelled : token.text.toList with
  | nil => exact absurd spelled filled
  | cons first others =>
    rw [spelled] at alone
    rintro _ ⟨⟩
    exact lexeme_solid alone

theorem cuts_cons_iff (blank : IsGap gap) (legal : token.Legal) :
    Cuts (gap ++ (token.text.toList ++ rest)) (token :: tokens) ↔
      (∀ character ∈ rest.head?, ¬ token.TakesIn character) ∧ Cuts rest tokens := by
  constructor
  · intro cuts
    generalize whole : gap ++ (token.text.toList ++ rest) = text at cuts
    cases cuts with
    | @token inner ahead after _ _ innerBlank found later =>
      have same := congrArg (List.dropWhile isSeparator) whole
      rw [(run_stops blank (token_solid legal rest)).2,(run_stops innerBlank (lexeme_solid_head found)).2] at same
      obtain ⟨_,spelled,stops⟩ := (lexeme_exact _ _ _).mp found
      cases List.append_cancel_left (same.trans spelled)
      exact ⟨stops,later⟩
  · rintro ⟨stops,later⟩
    exact .token blank ((lexeme_exact _ _ _).mpr ⟨legal,rfl,stops⟩) later

theorem Stops.not_takesIn (stops : Stops rest) : ∀ character ∈ rest.head?, ¬ token.TakesIn character := by
  rintro character found ⟨_,_,continues⟩
  obtain ⟨noBody,noPrime⟩ := stops character found
  rw [noBody,noPrime] at continues
  simp at continues

theorem lexeme_append (found : lexeme? text = some (token,ahead)) (stops : Stops rest) :
    lexeme? (text ++ rest) = some (token,ahead ++ rest) := by
  obtain ⟨legal,rfl,ends⟩ := (lexeme_exact _ _ _).mp found
  rw [lexeme_exact]
  refine ⟨legal,List.append_assoc _ _ _,?_⟩
  cases ahead with
  | nil => exact stops.not_takesIn
  | cons first others => exact ends

theorem lexeme_shorten (found : lexeme? text = some (token,ahead ++ rest)) :
    lexeme? (token.text.toList ++ ahead) = some (token,ahead) := by
  obtain ⟨legal,_,ends⟩ := (lexeme_exact _ _ _).mp found
  rw [lexeme_exact]
  refine ⟨legal,rfl,?_⟩
  cases ahead with
  | nil => nofun
  | cons first others => exact ends

theorem Cuts.append (cuts : Cuts text word) (stops : Stops rest) (later : Cuts rest others) :
    Cuts (text ++ rest) (word ++ others) := by
  induction cuts with
  | finish blank => exact later.gap blank
  | token blank found _ ih =>
    rw [List.append_assoc]
    exact .token blank (lexeme_append found stops) ih

theorem Cuts.parenthesized (cuts : Cuts text word) (later : Cuts rest others) :
    Cuts ('(' :: (text ++ ')' :: rest)) (.opening :: (word ++ .closing :: others)) := by
  have closed : Cuts (')' :: rest) (.closing :: others) := .cons rfl later
  exact .cons rfl (cuts.append (stops_closing rest) closed)

theorem not_takesIn_separator (separator : isSeparator character = true) : ¬ token.TakesIn character := by
  rintro ⟨_,_,continues⟩
  simp only [isSeparator,List.contains_iff_mem,List.mem_cons,List.not_mem_nil,or_false] at separator
  rcases separator with rfl | rfl | rfl | rfl | rfl <;>
    exact absurd continues (by rw [not_or,not_and]; exact ⟨by decide,fun body => absurd body (by decide)⟩)

theorem token_begins (legal : token.Legal) (ahead : character ∈ (token.text.toList ++ rest).head?) :
    isPrime character = false ∧ (isBody character = true ↔ ∃ atom, token = .value atom) := by
  match token with
  | .opening | .closing | .not =>
    cases ahead
    exact ⟨by decide,fun body => absurd body (by decide),nofun⟩
  | .binary connective =>
    cases connective <;> cases ahead <;> exact ⟨by decide,fun body => absurd body (by decide),nofun⟩
  | .value .top | .value .bot =>
    cases ahead
    exact ⟨by decide,fun _ => ⟨_,rfl⟩,fun _ => by decide⟩
  | .value (.var name) =>
    obtain ⟨first,body,marks,spelled,isFirst,_⟩ := legal
    rw [Token.text,Atom.text,spelled] at ahead
    cases ahead
    exact ⟨prime_of_body isFirst,fun _ => ⟨_,rfl⟩,fun _ => isFirst⟩

theorem takesIn_next {next : Token} (legal : next.Legal)
    (ahead : character ∈ (next.text.toList ++ rest).head?) :
    token.TakesIn character ↔
      (∃ name, token = .value (.var name) ∧ Unprimed name) ∧ ∃ atom, next = .value atom := by
  obtain ⟨noPrime,body⟩ := token_begins legal ahead
  rw [← body]
  constructor
  · rintro ⟨name,same,prime | ⟨isBody,unprimed⟩⟩
    · rw [noPrime] at prime
      cases prime
    · exact ⟨⟨name,same,unprimed⟩,isBody⟩
  · rintro ⟨⟨name,same,unprimed⟩,isBody⟩
    exact ⟨name,same,.inr ⟨isBody,unprimed⟩⟩

theorem runsInto_iff (first next : SpacedToken)
    (ahead : character ∈ (next.gap.toList ++ (next.token.text.toList ++ rest)).head?) :
    first.RunsInto next ↔ first.token.TakesIn character := by
  cases gap : next.gap.toList with
  | nil =>
    rw [gap,List.nil_append] at ahead
    rw [takesIn_next next.legal ahead,SpacedToken.RunsInto,and_iff_right (String.toList_eq_nil_iff.mp gap)]
  | cons blank blanks =>
    rw [gap] at ahead
    cases ahead
    have separator : isSeparator character = true := next.blank character (by rw [gap]; exact List.mem_cons_self)
    constructor
    · rintro ⟨empty,_⟩
      rw [empty] at gap
      cases gap
    · intro takesIn
      exact absurd takesIn (not_takesIn_separator separator)

end

section
variable {last : String}

theorem stops_printed (blank : IsGap last.toList) (first : SpacedToken) (rest : List SpacedToken) :
    (∀ character ∈ (printed rest last).toList.head?, ¬ first.token.TakesIn character) ↔
      ∀ next ∈ rest.head?, ¬ first.RunsInto next := by
  cases rest with
  | nil =>
    refine ⟨fun _ => nofun,fun _ character ahead => ?_⟩
    exact not_takesIn_separator (blank character (List.mem_of_mem_head? ahead))
  | cons next others =>
    have filled : next.gap.toList ++ (next.token.text.toList ++ (printed others last).toList) ≠ [] := by
      simp [token_filled next.legal]
    have runs := runsInto_iff first next (List.head?_eq_some_head filled)
    rw [printed,String.toList_append,String.toList_append,List.head?_eq_some_head filled]
    simp only [List.head?_cons,Option.mem_some_iff,forall_eq',runs]

theorem cuts_printed (blank : IsGap last.toList) (tokens : List SpacedToken) :
    Cuts (printed tokens last).toList (tokens.map SpacedToken.token) ↔
      tokens.IsChain (fun first second => ¬ first.RunsInto second) := by
  induction tokens with
  | nil => exact ⟨fun _ => .nil,fun _ => .finish blank⟩
  | cons spaced rest ih =>
    rw [printed,String.toList_append,String.toList_append,List.map_cons,
      cuts_cons_iff spaced.blank spaced.legal,stops_printed blank,ih,List.isChain_cons]

end

-- Two tokens run into one where an unprimed name stands right before a value, and nowhere else.
theorem tokenize_printed (tokens : List SpacedToken) (last : String) (blank : IsGap last.toList) :
    tokenize (printed tokens last) = .ok (tokens.map SpacedToken.token) ↔
      ¬ ∃ before first second after, tokens = before ++ first :: second :: after ∧ first.RunsInto second := by
  rw [← cuts_exact,cuts_printed blank,List.isChain_iff_forall_rel_of_append_cons_cons]
  constructor
  · rintro apart ⟨before,first,second,after,split,runs⟩
    exact apart split runs
  · intro apart first second before after split runs
    exact apart ⟨before,first,second,after,split,runs⟩

-- A prime mark or a constant keeps two values apart, and nothing else in between does.
theorem prime_keeps_apart :
    IsGap "\n".toList ∧
      tokenize "x′y & 1z\n" =
        .ok [.value (.var "x′"),.value (.var "y"),.binary .and,.value .top,.value (.var "z")] ∧
      tokenize "x0\n" ≠ .ok [.value (.var "x"),.value .bot] := by
  have blank : IsGap "\n".toList := by decide
  have legalX : LegalName "x" := ⟨'x',[],[],rfl,rfl,by decide,by decide,nofun,nofun⟩
  have legalY : LegalName "y" := ⟨'y',[],[],rfl,rfl,by decide,by decide,nofun,nofun⟩
  have legalZ : LegalName "z" := ⟨'z',[],[],rfl,rfl,by decide,by decide,nofun,nofun⟩
  have legalPrimed : LegalName "x′" :=
    ⟨'x',[],['′'],rfl,rfl,by decide,by decide,nofun,List.forall_mem_singleton.mpr rfl⟩
  have kept := tokenize_printed
    [⟨"",.value (.var "x′"),IsGap.nil,legalPrimed⟩,⟨"",.value (.var "y"),IsGap.nil,legalY⟩,
      ⟨" ",.binary .and,IsGap.space,trivial⟩,⟨" ",.value .top,IsGap.space,trivial⟩,
      ⟨"",.value (.var "z"),IsGap.nil,legalZ⟩] "\n" blank
  have merged := tokenize_printed
    [⟨"",.value (.var "x"),IsGap.nil,legalX⟩,⟨"",.value .bot,IsGap.nil,trivial⟩] "\n" blank
  refine ⟨blank,kept.mpr ?_,fun same => merged.mp same ?_⟩
  · suffices apart : List.IsChain (fun first second => ¬ SpacedToken.RunsInto first second) _ from
      fun ⟨_,_,_,_,split,runs⟩ =>
        List.isChain_iff_forall_rel_of_append_cons_cons.mp apart split runs
    have primed : ¬ Unprimed "x′" := by decide
    simp [SpacedToken.RunsInto,primed]
  · exact ⟨[],_,_,[],rfl,rfl,⟨"x",rfl,by decide⟩,.bot,rfl⟩

end PropFormula
