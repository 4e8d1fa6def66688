namespace PropFormula

def byteLength : List Char → Nat
  | [] => 0
  | character :: rest => character.utf8Size + byteLength rest

theorem byteLength_append (left right : List Char) :
    byteLength (left ++ right) = byteLength left + byteLength right := by
  induction left with
  | nil => simp [byteLength]
  | cons character rest ih => simp [byteLength,ih,Nat.add_assoc]

theorem byteLength_ofList (text : List Char) : byteLength text = (String.ofList text).utf8ByteSize := by
  induction text with
  | nil => rfl
  | cons character rest ih =>
    rw [String.ofList_cons,String.utf8ByteSize_append,String.utf8ByteSize_singleton,← ih,byteLength]

theorem byteLength_toList (text : String) : byteLength text.toList = text.utf8ByteSize := by
  rw [byteLength_ofList,String.ofList_toList]

-- The longest beginning of at most so many bytes, and what follows it.
def cutBytes : Nat → List Char → List Char × List Char
  | _, [] => ([],[])
  | bytes, character :: rest =>
    if character.utf8Size ≤ bytes then
      let cut := cutBytes (bytes - character.utf8Size) rest
      (character :: cut.1,cut.2)
    else ([],character :: rest)

end PropFormula
