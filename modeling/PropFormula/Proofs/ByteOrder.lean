import Mathlib.Data.String.Basic
import Mathlib.Tactic.SplitIfs

namespace PropFormula

-- The lowest groups of six bits of a code point, a byte for each.
def sixBits : Nat → Nat → List UInt8
  | 0, _ => []
  | count + 1, code => UInt8.ofNat (code / 64 ^ count % 64 + 128) :: sixBits count code

-- What comes before them, marked with the number of bytes that follow.
def leadByte (code : Nat) : Nat :=
  if code ≤ 0x7f then code
  else if code ≤ 0x7ff then code / 64 + 192
  else if code ≤ 0xffff then code / 4096 + 224
  else code / 262144 + 240

def furtherBytes (code : Nat) : Nat :=
  if code ≤ 0x7f then 0 else if code ≤ 0x7ff then 1 else if code ≤ 0xffff then 2 else 3

theorem code_lt (character : Char) : character.val.toNat < 0x110000 := by
  have valid := character.valid
  simp only [UInt32.isValidChar,Nat.isValidChar] at valid
  omega

theorem encoded_eq (character : Char) :
    String.utf8EncodeChar character =
      UInt8.ofNat (leadByte character.val.toNat) ::
        sixBits (furtherBytes character.val.toNat) character.val.toNat := by
  have bound := code_lt character
  unfold String.utf8EncodeChar leadByte furtherBytes
  generalize character.val.toNat = code at bound ⊢
  dsimp only
  split_ifs
  · rfl
  · have whole : code / 64 % 32 = code / 64 := by omega
    simp [sixBits,whole]
  · have whole : code / 4096 % 16 = code / 4096 := by omega
    simp [sixBits,whole]
  · have whole : code / 262144 % 8 = code / 262144 := by omega
    simp [sixBits,whole]

section
variable {first second : Nat}

theorem leadByte_lt (bound : first < 0x110000) : leadByte first < 256 := by
  unfold leadByte
  split_ifs <;> omega

theorem leadByte_cases (less : first < second) :
    leadByte first < leadByte second ∨
      leadByte first = leadByte second ∧ furtherBytes first = furtherBytes second ∧
        first / 64 ^ furtherBytes first = second / 64 ^ furtherBytes first := by
  unfold leadByte furtherBytes
  split_ifs <;> omega

theorem sixBits_lt (count : Nat) (less : first < second) (above : first / 64 ^ count = second / 64 ^ count)
    (later others : List UInt8) : sixBits count first ++ later < sixBits count second ++ others := by
  induction count with
  | zero =>
    rw [Nat.pow_zero,Nat.div_one,Nat.div_one] at above
    omega
  | succ count ih =>
    rw [sixBits,sixBits,List.cons_append,List.cons_append,List.cons_lt_cons_iff]
    by_cases same : first / 64 ^ count = second / 64 ^ count
    · exact .inr ⟨by rw [same],ih same⟩
    · have atMost : first / 64 ^ count ≤ second / 64 ^ count := Nat.div_le_div_right (Nat.le_of_lt less)
      rw [Nat.pow_succ,← Nat.div_div_eq_div_mul,← Nat.div_div_eq_div_mul] at above
      apply Or.inl
      rw [UInt8.lt_iff_toNat_lt,UInt8.toNat_ofNat',UInt8.toNat_ofNat']
      omega

end

-- A lead byte is the greater the more bytes follow it, so no encoding is the beginning of another one.
theorem encoded_lt {first second : Char} (less : first < second) (later others : List UInt8) :
    String.utf8EncodeChar first ++ later < String.utf8EncodeChar second ++ others := by
  have smaller : first.val.toNat < second.val.toNat := less
  have fits := leadByte_lt (code_lt second)
  rw [encoded_eq,encoded_eq,List.cons_append,List.cons_append,List.cons_lt_cons_iff]
  rcases leadByte_cases smaller with ahead | ⟨same,further,above⟩
  · apply Or.inl
    rw [UInt8.lt_iff_toNat_lt,UInt8.toNat_ofNat',UInt8.toNat_ofNat']
    omega
  · rw [same,← further]
    exact .inr ⟨rfl,sixBits_lt _ smaller above later others⟩

def encoding (text : String) : List UInt8 := text.toUTF8.data.toList

theorem encoding_eq (text : String) : encoding text = text.toList.flatMap String.utf8EncodeChar := by
  rw [encoding,String.toUTF8_eq_toByteArray,← String.utf8Encode_toList,List.utf8Encode]
  exact List.toList_data_toByteArray

theorem encoding_lt {first second : String} (less : first < second) : encoding first < encoding second := by
  have lists : first.toList < second.toList := String.lt_iff_toList_lt.mp less
  rw [encoding_eq,encoding_eq]
  generalize first.toList = one at lists ⊢
  generalize second.toList = two at lists ⊢
  induction one generalizing two with
  | nil =>
    cases two with
    | nil => cases lists
    | cons character rest =>
      rw [List.flatMap_nil,List.flatMap_cons,encoded_eq]
      exact .nil
  | cons character rest ih =>
    cases two with
    | nil => cases lists
    | cons other others =>
      rw [List.flatMap_cons,List.flatMap_cons]
      rcases List.cons_lt_cons_iff.mp lists with ahead | ⟨rfl,later⟩
      · exact encoded_lt ahead _ _
      · exact List.append_left_lt (ih _ later)

end PropFormula
