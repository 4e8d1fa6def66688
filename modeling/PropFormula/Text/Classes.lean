namespace PropFormula

-- Classes of characters are given as closed ranges of code points.
def inRanges (ranges : List (Nat × Nat)) (character : Char) : Bool :=
  ranges.any (fun range => range.1 ≤ character.toNat && character.toNat ≤ range.2)

-- The code points with the Unicode property White_Space. They are more than the separators of a formula.
def blankRanges : List (Nat × Nat) :=
  [(0x09,0x0d),(0x20,0x20),(0x85,0x85),(0xa0,0xa0),(0x1680,0x1680),(0x2000,0x200a),
   (0x2028,0x2029),(0x202f,0x202f),(0x205f,0x205f),(0x3000,0x3000)]

def isBlank (character : Char) : Bool := inRanges blankRanges character

def trimList (characters : List Char) : List Char :=
  (((characters.dropWhile isBlank).reverse).dropWhile isBlank).reverse

def trimBlanks (text : String) : String := String.ofList (trimList text.toList)

end PropFormula
