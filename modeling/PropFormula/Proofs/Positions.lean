import Mathlib.Logic.Function.Iterate
import PropFormula.Proofs.Scanning

namespace PropFormula
namespace Scanner

def after (scanner : Scanner) (calls : Nat) : Scanner := (fun before => before.next.2)^[calls] scanner

-- The bytes counted are a position of the text, and the text from there on is what is ahead.
structure At (scanner : Scanner) {text : String} (position : text.Pos) : Prop where
  counted : position.offset.byteIdx = scanner.offset
  ahead : (text.sliceFrom position).copy = .ofList scanner.rest

inductive Taken {text : String} {middle later : text.Pos} (order : middle ≤ later) :
    Except SyntaxError (Option Token) → Prop where
  | token {token : Token} (spelled : (text.slice middle later order).copy = token.text)
      (further : middle < later) : Taken order (.ok (some token))
  | finish (stays : later = middle) (ends : middle = text.endPos) : Taken order (.ok none)
  | unexpected {character : Char} {offset : Nat} (stays : later = middle)
      (counted : middle.offset.byteIdx = offset) : Taken order (.error (.unexpectedCharacter character offset))

-- The next call begins at the first position, skips separators up to the second and ends at the third.
structure Calls (scanner : Scanner) {text : String} (position middle later : text.Pos) : Prop where
  begins : scanner.At position
  skips : scanner.skipSeparators.At middle
  ends : scanner.next.2.At later
  first : position ≤ middle
  blank : IsGap (text.slice position middle first).copy.toList
  second : middle ≤ later
  taken : Taken second scanner.next.1

section
variable {scanner other : Scanner} {text : String} {position middle later : text.Pos}

theorem after_succ (scanner : Scanner) (calls : Nat) :
    scanner.after (calls + 1) = scanner.next.2.after calls :=
  Function.iterate_succ_apply _ _ _

theorem after_next (scanner : Scanner) (calls : Nat) :
    scanner.after (calls + 1) = (scanner.after calls).next.2 :=
  Function.iterate_succ_apply' _ _ _

theorem start_at (text : String) : (start text).At text.startPos where
  counted := rfl
  ahead := by simp [start]

theorem At.within (here : scanner.At position) : scanner.offset ≤ text.utf8ByteSize := by
  rw [← here.counted]
  exact position.isValid.le_utf8ByteSize

theorem At.lt (here : scanner.At position) (there : other.At later)
    (counting : scanner.offset < other.offset) : position < later := by
  rw [String.Pos.lt_iff,String.Pos.Raw.lt_iff,here.counted,there.counted]
  exact counting

theorem At.cross (here : scanner.At position) (crossed : String) (rest : List Char)
    (split : scanner.rest = crossed.toList ++ rest) :
    ∃ (later : text.Pos) (order : position ≤ later),
      At ⟨rest,scanner.offset + crossed.utf8ByteSize⟩ later ∧
        (text.slice position later order).copy = crossed := by
  have parts := position.splits
  rw [here.ahead,split,String.ofList_append,String.ofList_toList] at parts
  have whole : text = ((text.sliceTo position).copy ++ crossed) ++ .ofList rest := by
    rw [String.append_assoc]
    exact parts.eq_append
  have ends := String.Pos.splits_ofEqAppend whole
  obtain ⟨order,between⟩ := String.copy_slice_eq_iff_splits.mpr ⟨_,_,parts,ends⟩
  refine ⟨_,order,⟨?_,ends.copy_sliceFrom_eq⟩,between⟩
  have before := congrArg String.Pos.Raw.byteIdx parts.offset_eq_rawEndPos
  rw [ends.offset_eq_rawEndPos,← here.counted,before]
  simp

theorem At.skip (here : scanner.At position) :
    ∃ (middle : text.Pos) (order : position ≤ middle), scanner.skipSeparators.At middle ∧
      IsGap (text.slice position middle order).copy.toList := by
  obtain ⟨middle,order,there,between⟩ := here.cross (.ofList (scanner.rest.takeWhile isSeparator))
    (scanner.rest.dropWhile isSeparator) (by simp)
  rw [← byteLength_ofList] at there
  refine ⟨middle,order,there,?_⟩
  rw [between,String.toList_ofList]
  exact List.all_eq_true.mp List.all_takeWhile

theorem At.take (here : scanner.skipSeparators.At middle) :
    ∃ (later : text.Pos) (order : middle ≤ later), scanner.next.2.At later ∧ Taken order scanner.next.1 := by
  unfold next
  dsimp only
  split
  · rename_i empty
    have parts := middle.splits
    rw [here.ahead,empty] at parts
    have ends := (String.Pos.splits_empty_right_iff.mp parts).1
    exact ⟨middle,Std.le_refl _,here,.finish rfl ends⟩
  · split
    · exact ⟨middle,Std.le_refl _,here,.unexpected rfl here.counted⟩
    · rename_i token rest found
      obtain ⟨later,order,there,between⟩ := here.cross token.text rest (lexeme_text _ _ _ found)
      have filled : token.text.utf8ByteSize ≠ 0 := by
        rw [Ne,String.utf8ByteSize_eq_zero_iff,← String.toList_eq_nil_iff]
        exact lexeme_nonempty _ _ _ found
      exact ⟨later,order,there,.token between (here.lt there (by dsimp only; omega))⟩

theorem At.call (here : scanner.At position) : ∃ middle later : text.Pos, scanner.Calls position middle later := by
  obtain ⟨middle,first,skips,blank⟩ := here.skip
  obtain ⟨later,second,ends,taken⟩ := skips.take
  exact ⟨middle,later,here,skips,ends,first,blank,second,taken⟩

theorem after_at (text : String) (calls : Nat) : ∃ position : text.Pos, ((start text).after calls).At position := by
  induction calls with
  | zero => exact ⟨text.startPos,start_at text⟩
  | succ calls ih =>
    obtain ⟨position,here⟩ := ih
    obtain ⟨middle,later,call⟩ := here.call
    rw [after_next]
    exact ⟨later,call.ends⟩

theorem next_still (idle : ∀ token, scanner.next.1 ≠ .ok (some token)) :
    scanner.next.2.next = scanner.next := by
  have reads := scanner.reads_next
  generalize scanner.next = answered at reads idle ⊢
  cases reads with
  | finish blank => exact next_of_reads (.finish IsGap.nil)
  | token blank found => exact absurd rfl (idle _)
  | unexpected blank solid strange => exact next_of_reads (.unexpected IsGap.nil solid strange)

theorem after_still (idle : ∀ token, scanner.next.1 ≠ .ok (some token)) (calls : Nat) :
    (scanner.after calls).next = scanner.next := by
  cases calls with
  | zero => rfl
  | succ calls =>
    have still := next_still idle
    have fixed : scanner.next.2.next.2 = scanner.next.2 := congrArg Prod.snd still
    rw [after_succ,after,Function.iterate_fixed fixed,still]

theorem tokens_first (scanner : Scanner) :
    ∃ calls ≤ scanner.rest.length, ∀ call,
      (∃ token, (scanner.after call).next.1 = .ok (some token)) ↔ call < calls := by
  -- Induction on what is ahead, of which a token takes at least one character.
  induction measure : scanner.rest.length using Nat.strongRecOn generalizing scanner with
  | ind size ih =>
    by_cases idle : ∀ token, scanner.next.1 ≠ .ok (some token)
    · refine ⟨0,Nat.zero_le _,fun call => ⟨?_,nofun⟩⟩
      rintro ⟨token,read⟩
      rw [after_still idle] at read
      exact absurd read (idle token)
    · obtain ⟨token,read⟩ := not_forall_not.mp idle
      have shorter := next_shorter scanner scanner.next.2 token (Prod.ext read rfl)
      obtain ⟨calls,bounded,first⟩ := ih _ (measure ▸ shorter) scanner.next.2 rfl
      refine ⟨calls + 1,by omega,?_⟩
      intro call
      cases call with
      | zero => exact ⟨fun _ => Nat.zero_lt_succ _,fun _ => ⟨token,read⟩⟩
      | succ call => rw [after_succ,first call,Nat.succ_lt_succ_iff]

end

-- Wherever the calls have led, the text can be cut there; and all but the first few give no more tokens.
theorem calls_stay_on_characters (text : String) :
    (∀ call, ((start text).after call).offset ≤ text.utf8ByteSize ∧
      ∃ position middle later : text.Pos, ((start text).after call).Calls position middle later) ∧
    ∃ calls ≤ text.length, ∀ call,
      (∃ token, ((start text).after call).next.1 = .ok (some token)) ↔ call < calls := by
  refine ⟨?_,tokens_first (start text)⟩
  intro call
  obtain ⟨position,here⟩ := after_at text call
  exact ⟨here.within,position,here.call⟩

example : ((start "x′ => y").after 2).offset = 7 := by decide +kernel

end Scanner
end PropFormula
