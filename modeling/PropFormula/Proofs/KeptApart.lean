import PropFormula.Proofs.Unexpected

namespace PropFormula

section
variable {character : Char} {word text rest gap ahead : List Char} {tokens : List Token} {offset : Nat}

theorem prefix_before_gap (solid : word.any isSeparator = false) (blank : IsGap gap) (filled : gap ≠ [])
    (within : word <+: rest ++ (gap ++ ahead)) : word <+: rest := by
  rcases List.prefix_or_prefix_of_prefix within (List.prefix_append rest _) with inside | ⟨beyond,rfl⟩
  · exact inside
  · obtain ⟨separator,blanks,rfl⟩ := List.exists_cons_of_ne_nil filled
    cases beyond with
    | nil => simp
    | cons first others =>
      obtain ⟨rfl,_⟩ := List.cons_prefix_cons.mp ((List.prefix_append_right_inj rest).mp within)
      exact absurd (blank first List.mem_cons_self) (List.any_eq_false.mp solid first (by simp))

-- The rest of a sign that is not finished cannot come behind separators.
theorem Strange.before_gap (strange : Strange character rest) (blank : IsGap gap) (filled : gap ≠ []) :
    Strange character (rest ++ (gap ++ ahead)) where
  solid := strange.solid
  sign := strange.sign
  body := strange.body
  implication := by
    rintro ⟨same,within⟩
    exact strange.implication ⟨same,prefix_before_gap rfl blank filled within⟩
  equivalence := by
    rintro ⟨same,within⟩
    exact strange.equivalence ⟨same,prefix_before_gap rfl blank filled within⟩

theorem not_lengthens_gap (blank : IsGap gap) (filled : gap ≠ []) :
    ∀ character ∈ (gap ++ ahead).head?, ¬ Lengthens character text tokens := by
  obtain ⟨separator,blanks,rfl⟩ := List.exists_cons_of_ne_nil filled
  rintro _ ⟨⟩ ⟨token,_,_,takesIn⟩
  exact not_takesIn_separator (blank separator List.mem_cons_self) takesIn

theorem tokens_moved (failed : Scanner.tokens ⟨text,0⟩ = .error (.unexpectedCharacter character offset))
    (bytes : Nat) : Scanner.tokens ⟨text,bytes⟩ = .error (.unexpectedCharacter character (bytes + offset)) := by
  obtain ⟨before,after,tokens,split,counted,unexpected⟩ := unexpected_of_tokens failed
  have whole : text = before ++ character :: after := split
  rw [whole,unexpected.refused,← counted,Nat.zero_add]

theorem tokens_before_gap (failed : Scanner.tokens ⟨text,0⟩ = .error (.unexpectedCharacter character offset))
    (blank : IsGap gap) (filled : gap ≠ []) :
    Scanner.tokens ⟨text ++ (gap ++ ahead),0⟩ = .error (.unexpectedCharacter character offset) := by
  obtain ⟨before,after,tokens,split,counted,cuts,apart,strange⟩ := unexpected_of_tokens failed
  have unexpected : Unexpected character before (after ++ (gap ++ ahead)) tokens :=
    ⟨cuts,apart,strange.before_gap blank filled⟩
  have whole : text = before ++ character :: after := split
  rw [whole,List.append_assoc,List.cons_append,unexpected.refused,← counted]

theorem tokens_behind_gap (cuts : Cuts text tokens) (blank : IsGap gap) (filled : gap ≠ []) :
    Scanner.tokens ⟨text ++ (gap ++ ahead),0⟩ =
      (Scanner.tokens ⟨ahead,byteLength text + byteLength gap⟩).map (fun rest => tokens ++ rest) := by
  rw [tokens_past cuts (not_lengthens_gap blank filled),tokens_gap blank,Nat.zero_add]

end

-- What is read of the first text is what would be read of it alone. A complaint about the second moves by the
-- bytes of all that stands before it.
theorem texts_kept_apart (first blanks second : String) (blank : IsGap blanks.toList) (filled : blanks ≠ "") :
    (∃ character offset,
        tokenize first = .error (.unexpectedCharacter character offset) ∧
        tokenize (first ++ blanks ++ second) = .error (.unexpectedCharacter character offset)) ∨
      (∃ tokens character offset,
        tokenize first = .ok tokens ∧
        tokenize second = .error (.unexpectedCharacter character offset) ∧
        tokenize (first ++ blanks ++ second) = .error (.unexpectedCharacter character
          (first.utf8ByteSize + blanks.utf8ByteSize + offset))) ∨
      ∃ tokens others,
        tokenize first = .ok tokens ∧ tokenize second = .ok others ∧
        tokenize (first ++ blanks ++ second) = .ok (tokens ++ others) := by
  have gapFilled : blanks.toList ≠ [] := by rwa [Ne,String.toList_eq_nil_iff]
  have whole : tokenize (first ++ blanks ++ second) =
      Scanner.tokens ⟨first.toList ++ (blanks.toList ++ second.toList),0⟩ := by
    rw [tokenize,Scanner.start,String.toList_append,String.toList_append,List.append_assoc]
  cases scanned : tokenize first with
  | error cause =>
    obtain ⟨character,offset,rfl⟩ := Scanner.tokens_error (.start first) cause scanned
    exact .inl ⟨character,offset,rfl,whole.trans (tokens_before_gap scanned blank gapFilled)⟩
  | ok tokens =>
    have cuts := (cuts_exact first tokens).mpr scanned
    rw [tokens_behind_gap cuts blank gapFilled,byteLength_toList,byteLength_toList] at whole
    cases behind : tokenize second with
    | error cause =>
      obtain ⟨character,offset,rfl⟩ := Scanner.tokens_error (.start second) cause behind
      refine .inr (.inl ⟨tokens,character,offset,rfl,rfl,?_⟩)
      rw [whole,tokens_moved behind]
      rfl
    | ok others =>
      have later := (cuts_exact second others).mpr behind
      refine .inr (.inr ⟨tokens,others,rfl,rfl,?_⟩)
      rw [whole,tokens_of_cuts later]
      rfl

-- A sign is not finished across a blank. The name takes four bytes, and the blanks take two.
theorem unfinished_sign_refused :
    IsGap "\t".toList ∧ IsGap " \n".toList ∧
      tokenize "a =" = .error (.unexpectedCharacter '=' 2) ∧
      tokenize ("a =" ++ "\t" ++ "> b") = .error (.unexpectedCharacter '=' 2) ∧
      tokenize "x′" = .ok [.value (.var "x′")] ∧ tokenize "′y" = .error (.unexpectedCharacter '′' 0) ∧
      tokenize ("x′" ++ " \n" ++ "′y") = .error (.unexpectedCharacter '′' 6) := by
  have tab : IsGap "\t".toList := by decide
  have line : IsGap " \n".toList := by decide
  have unfinished : tokenize "a =" = .error (.unexpectedCharacter '=' 2) := by decide +kernel
  have name : tokenize "x′" = .ok [.value (.var "x′")] := by decide +kernel
  have mark : tokenize "′y" = .error (.unexpectedCharacter '′' 0) := by decide +kernel
  refine ⟨tab,line,unfinished,?_,name,mark,?_⟩
  · rcases texts_kept_apart "a =" "\t" "> b" tab (by decide) with
      ⟨_,_,failed,whole⟩ | ⟨_,_,_,read,_⟩ | ⟨_,_,read,_⟩
    · rw [unfinished] at failed
      cases failed
      exact whole
    all_goals
      rw [unfinished] at read
      cases read
  · rcases texts_kept_apart "x′" " \n" "′y" line (by decide) with
      ⟨_,_,failed,_⟩ | ⟨_,_,_,_,failed,whole⟩ | ⟨_,_,_,read,_⟩
    · rw [name] at failed
      cases failed
    · rw [mark] at failed
      cases failed
      exact whole
    · rw [mark] at read
      cases read

end PropFormula
