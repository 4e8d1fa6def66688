import Mathlib.Data.List.DropRight
import PropFormula.Proofs.Messages
import PropFormula.Proofs.Running
import PropFormula.Proofs.Unexpected

namespace PropFormula
open Machine

-- What trimming takes off a text at its ends, and what it leaves.
structure Trims (text front quotation back : String) : Prop where
  split : text = front ++ quotation ++ back
  before : ∀ character ∈ front.toList, isBlank character = true
  after : ∀ character ∈ back.toList, isBlank character = true
  begins : ∀ character ∈ quotation.toList.head?, isBlank character = false
  ends : ∀ character ∈ quotation.toList.getLast?, isBlank character = false

theorem trimList_eq (characters : List Char) :
    trimList characters = (characters.dropWhile isBlank).rdropWhile isBlank := rfl

theorem head_dropWhile_blank (characters : List Char) {character : Char}
    (first : (characters.dropWhile isBlank).head? = some character) : isBlank character = false := by
  have stops := List.head?_dropWhile_not isBlank characters
  rw [first] at stops
  exact stops

theorem trimList_begins {characters : List Char} {character : Char}
    (first : (trimList characters).head? = some character) : isBlank character = false := by
  obtain ⟨rest,filled⟩ := List.head?_eq_some_iff.mp first
  obtain ⟨back,kept⟩ := List.rdropWhile_prefix isBlank (characters.dropWhile isBlank)
  refine head_dropWhile_blank characters ?_
  rw [← kept,← trimList_eq,filled]
  rfl

theorem trimList_ends {characters : List Char} {character : Char}
    (last : (trimList characters).getLast? = some character) : isBlank character = false := by
  refine head_dropWhile_blank (characters.dropWhile isBlank).reverse ?_
  rwa [trimList,List.getLast?_reverse] at last

theorem trims_trimBlanks (text : String) : ∃ front back, Trims text front (trimBlanks text) back := by
  have inner : trimList text.toList ++ (text.toList.dropWhile isBlank).rtakeWhile isBlank =
      text.toList.dropWhile isBlank :=
    List.rdropWhile_append_rtakeWhile
  refine ⟨.ofList (text.toList.takeWhile isBlank),
    .ofList ((text.toList.dropWhile isBlank).rtakeWhile isBlank),?_,?_,?_,?_,?_⟩
  · rw [← String.toList_inj]
    simp only [trimBlanks,String.toList_append,String.toList_ofList]
    rw [List.append_assoc,inner,List.takeWhile_append_dropWhile]
  · intro character member
    rw [String.toList_ofList] at member
    exact List.mem_takeWhile_imp member
  · intro character member
    rw [String.toList_ofList] at member
    exact List.mem_rtakeWhile_imp member
  · intro character first
    rw [trimBlanks,String.toList_ofList] at first
    exact trimList_begins first
  · intro character last
    rw [trimBlanks,String.toList_ofList] at last
    exact trimList_ends last

def StandsAt (text : String) (offset : Nat) (character : Char) : Prop :=
  ∃ before after, text = before ++ String.singleton character ++ after ∧ before.utf8ByteSize = offset

section
variable {text first second : String} {offset : Nat} {character : Char}

theorem StandsAt.mem (stands : StandsAt text offset character) : character ∈ text.toList := by
  obtain ⟨before,after,rfl,_⟩ := stands
  simp

theorem StandsAt.lt (stands : StandsAt text offset character) : offset < text.utf8ByteSize := by
  obtain ⟨before,after,rfl,rfl⟩ := stands
  have filled := character.utf8Size_pos
  rw [String.utf8ByteSize_append,String.utf8ByteSize_append,String.utf8ByteSize_singleton]
  omega

theorem standsAt_append (stands : StandsAt (first ++ second) offset character) :
    StandsAt first offset character ∨
      first.utf8ByteSize ≤ offset ∧ StandsAt second (offset - first.utf8ByteSize) character := by
  obtain ⟨before,after,split,rfl⟩ := stands
  have listed := congrArg String.toList split
  simp only [String.toList_append,String.toList_singleton,List.append_assoc,List.singleton_append] at listed
  rcases List.append_eq_append_iff.mp listed with ⟨between,earlier,later⟩ | ⟨between,earlier,later⟩
  · right
    have begins : before = first ++ .ofList between := by
      rw [← String.toList_inj,String.toList_append,String.toList_ofList,earlier]
    rw [begins,String.utf8ByteSize_append]
    refine ⟨Nat.le_add_right _ _,.ofList between,after,?_,(Nat.add_sub_cancel_left _ _).symm⟩
    rw [← String.toList_inj]
    simpa using later
  · cases between with
    | nil =>
      right
      rw [List.append_nil,String.toList_inj] at earlier
      rw [earlier]
      refine ⟨Nat.le_refl _,"",after,?_,(Nat.sub_self _).symm⟩
      rw [← String.toList_inj]
      simpa using later.symm
    | cons head rest =>
      left
      obtain ⟨rfl,_⟩ := List.cons.inj later
      refine ⟨before,.ofList rest,?_,rfl⟩
      rw [← String.toList_inj]
      simpa using earlier

theorem Trims.finds {front quotation back : String} (trims : Trims text front quotation back)
    (stands : StandsAt text offset character) :
    front.utf8ByteSize ≤ offset ∧ StandsAt quotation (offset - front.utf8ByteSize) character ∨
      isBlank character = true ∧
        (offset < front.utf8ByteSize ∨ front.utf8ByteSize + quotation.utf8ByteSize ≤ offset) := by
  rw [trims.split,String.append_assoc] at stands
  rcases standsAt_append stands with inFront | ⟨behind,further⟩
  · exact .inr ⟨trims.before character inFront.mem,.inl inFront.lt⟩
  · rcases standsAt_append further with inside | ⟨past,inBack⟩
    · exact .inl ⟨behind,inside⟩
    · refine .inr ⟨trims.after character inBack.mem,.inr ?_⟩
      omega

end
section
variable {character : Char} {offset : Nat} {text : String}

theorem Transforms.complaint {view : View} {received : Received} {files after : FileSystem} {written : String}
    {failure : CommandError} (ends : Transforms view received files (.error failure) after written)
    (complains : (SyntaxError.unexpectedCharacter character offset).message ∈ failure.chain.elements) :
    ∃ text, failure = .parsing text (.unexpectedCharacter character offset) ∧ Supplies files received text ∧
      Formula.parse text = .error (.unexpectedCharacter character offset) := by
  cases ends with
  | @unread path cause _ refused =>
    have same := complaint_behind (head_append (head_append rfl path) _) complains
    exact absurd same (refusal_message (files.genuine_read path) refused)
  | @malformed text cause supplied refused =>
    have same := complaint_behind (head_append (head_append rfl _) _) complains
    cases cause_of_message same
    exact ⟨text,rfl,supplied,refused⟩
  | @uncreated _ path _ cause _ _ _ refused =>
    have same := complaint_behind (head_append (head_append rfl path) _) complains
    exact absurd same (refusal_message (files.genuine_create path) refused)
  | @unwritten _ path body _ _ cause _ _ _ _ refused =>
    have doing : view.activity.toList.head? = some 'w' := by cases view <;> rfl
    have same := complaint_behind doing complains
    exact absurd same (refusal_message (FileSystem.genuine_append _ path body) refused)

theorem stands_of_parse (failed : Formula.parse text = .error (.unexpectedCharacter character offset)) :
    StandsAt text offset character := by
  rw [parse_unexpected_iff] at failed
  obtain ⟨before,after,_,split,counted,_⟩ := unexpected_of_tokens failed
  have same : text.toList = before ++ character :: after := split
  refine ⟨.ofList before,.ofList after,?_,?_⟩
  · rw [← String.toList_inj]
    simpa using same
  · rw [← byteLength_ofList,← counted]
    exact (Nat.zero_add _).symm

end

theorem dispatch_failed {selection : Selection} {view : View} {machine after : Machine} {chain : ErrorChain}
    (named : selection.command = view.commandName) (sourced : OneSource selection.own)
    (failed : machineProgram.dispatch selection machine = (.error chain,after)) :
    ∃ failure files written, Transforms view selection.own machine.files (.error failure) files written ∧
      chain.elements = ("while executing command \"" ++ view.commandName ++ "\"") :: failure.chain.elements := by
  obtain ⟨about,known,_⟩ := command_of_view view
  rw [← named] at known
  have executed (before : Machine) :
      (transformation (m := StateM Machine) selection.command about view).execute selection.own before =
        ((transform (m := StateM Machine) view selection.own before).1.mapError CommandError.chain,
          (transform (m := StateM Machine) view selection.own before).2) := rfl
  have reached := (transform_reaches view sourced _).after_log (logged_log machine .info machineProgram.banner)
  rw [Program.dispatch_known known,executed] at failed
  obtain ⟨written,ends,_⟩ := reached
  generalize transform (m := StateM Machine) view selection.own _ = result at failed ends
  obtain ⟨answer,left⟩ := result
  cases answer with
  | ok _ => cases failed
  | error failure =>
    cases failed
    rw [← named]
    exact ⟨failure,_,written,ends,rfl⟩

-- The offset counts from the beginning of the text as received, not of the text as quoted.
theorem complaint_in_quotation {arguments : List String} {selection : Selection} {view : View}
    (accepted : machineProgram.grammar.read arguments = .ok selection)
    (named : selection.command = view.commandName) {machine after : Machine} {chain : ErrorChain}
    (failed : machineProgram.dispatch selection machine = (.error chain,after))
    {character : Char} {offset : Nat}
    (complains : (SyntaxError.unexpectedCharacter character offset).message ∈ chain.elements) :
    ∃ text front back, Supplies machine.files selection.own text ∧ Trims text front (trimBlanks text) back ∧
      chain.elements =
        ["while executing command \"" ++ view.commandName ++ "\"",
          "while parsing formula \"" ++ trimBlanks text ++ "\"",
          (SyntaxError.unexpectedCharacter character offset).message] ∧
      StandsAt text offset character ∧
      (front.utf8ByteSize ≤ offset ∧ StandsAt (trimBlanks text) (offset - front.utf8ByteSize) character ∨
        isBlank character = true ∧
          (offset < front.utf8ByteSize ∨ front.utf8ByteSize + (trimBlanks text).utf8ByteSize ≤ offset)) := by
  obtain ⟨failure,_,_,ends,elements⟩ := dispatch_failed named (oneSource_of_read accepted named) failed
  rw [elements] at complains ⊢
  have below : (SyntaxError.unexpectedCharacter character offset).message ∈ failure.chain.elements := by
    rcases List.mem_cons.mp complains with same | below
    · have begins : ("while executing command \"" ++ view.commandName ++ "\"").toList.head? = some 'w' :=
        head_append (head_append rfl _) _
      rw [← same,message_head] at begins
      cases begins
    · exact below
  obtain ⟨text,rfl,supplied,refused⟩ := ends.complaint below
  obtain ⟨front,back,trims⟩ := trims_trimBlanks text
  have stands := stands_of_parse refused
  exact ⟨text,front,back,supplied,trims,rfl,stands,trims.finds stands⟩

-- Blanks at both ends are left out of the quotation, and the character is not one of them.
theorem complaint_between_blanks :
    machineProgram.grammar.read ["clause","-f","\t p ~ q\u00a0"] =
        .ok ⟨"clause",.none,⟨["FORMULA"],[("FORMULA","\t p ~ q\u00a0")]⟩⟩ ∧
      "clause" = View.commandName .clauses ∧
      ∃ chain after,
        machineProgram.dispatch ⟨"clause",.none,⟨["FORMULA"],[("FORMULA","\t p ~ q\u00a0")]⟩⟩
            (Machine.ready (.initial ["work"]) .usual) = (.error chain,after) ∧
        (SyntaxError.unexpectedCharacter '~' 4).message ∈ chain.elements ∧
        ∃ front back, Trims "\t p ~ q\u00a0" front "p ~ q" back ∧
          chain.elements =
            ["while executing command \"clause\"","while parsing formula \"p ~ q\"",
              "syntax error: unexpected character '~' at offset 4"] ∧
          StandsAt "\t p ~ q\u00a0" 4 '~' ∧
          front.utf8ByteSize ≤ 4 ∧ StandsAt "p ~ q" (4 - front.utf8ByteSize) '~' := by
  have accepted : machineProgram.grammar.read ["clause","-f","\t p ~ q\u00a0"] =
      .ok ⟨"clause",.none,⟨["FORMULA"],[("FORMULA","\t p ~ q\u00a0")]⟩⟩ := by
    rfl
  have named : "clause" = View.commandName .clauses := rfl
  have fails : (machineProgram.dispatch ⟨"clause",.none,⟨["FORMULA"],[("FORMULA","\t p ~ q\u00a0")]⟩⟩
      (Machine.ready (.initial ["work"]) .usual)).1 =
        .error ⟨"while executing command \"clause\"",
          ["while parsing formula \"p ~ q\"","syntax error: unexpected character '~' at offset 4"]⟩ := by
    decide +kernel
  have complains : (SyntaxError.unexpectedCharacter '~' 4).message ∈
      ["while executing command \"clause\"","while parsing formula \"p ~ q\"",
        "syntax error: unexpected character '~' at offset 4"] := by
    decide
  have trimmed : trimBlanks "\t p ~ q\u00a0" = "p ~ q" := by decide
  cases failed : machineProgram.dispatch ⟨"clause",.none,⟨["FORMULA"],[("FORMULA","\t p ~ q\u00a0")]⟩⟩
      (Machine.ready (.initial ["work"]) .usual) with
  | mk answer after =>
    rw [failed] at fails
    cases fails
    obtain ⟨text,front,back,supplied,trims,elements,stands,inside | ⟨blank,_⟩⟩ :=
      complaint_in_quotation accepted named failed complains
    · cases supplied.unique (.given rfl rfl)
      rw [trimmed] at trims inside
      exact ⟨accepted,named,_,_,rfl,complains,front,back,trims,rfl,stands,inside⟩
    · exact absurd blank (by decide)

-- A blank in front moves the character in the quotation, and a no-break space at the end is not quoted at all.
theorem offset_beyond_quotation :
    machineProgram.grammar.read ["infix","-f"," #"] = .ok ⟨"infix",.none,⟨["FORMULA"],[("FORMULA"," #")]⟩⟩ ∧
      (machineProgram.dispatch ⟨"infix",.none,⟨["FORMULA"],[("FORMULA"," #")]⟩⟩
          (Machine.ready (.initial ["work"]) .usual)).1 =
        .error ⟨"while executing command \"infix\"",
          ["while parsing formula \"#\"","syntax error: unexpected character '#' at offset 1"]⟩ ∧
      ¬ StandsAt "#" 1 '#' ∧
      machineProgram.grammar.read ["shape","-f","x\u00a0"] =
        .ok ⟨"shape",.none,⟨["FORMULA"],[("FORMULA","x\u00a0")]⟩⟩ ∧
      (machineProgram.dispatch ⟨"shape",.none,⟨["FORMULA"],[("FORMULA","x\u00a0")]⟩⟩
          (Machine.ready (.initial ["work"]) .usual)).1 =
        .error ⟨"while executing command \"shape\"",
          ["while parsing formula \"x\"","syntax error: unexpected character '\u00a0' at offset 1"]⟩ ∧
      ¬ StandsAt "x" 1 '\u00a0' := by
  refine ⟨rfl,by decide +kernel,?_,rfl,by decide +kernel,?_⟩
  · intro stands
    exact absurd stands.lt (by decide)
  · intro stands
    exact absurd stands.lt (by decide)

end PropFormula
