namespace PropFormula

-- An exact fraction, so that no rounding decides whether a name is taken for a misspelling.
structure Similarity where
  numerator : Nat
  denominator : Nat
  deriving DecidableEq, Repr

-- A character of the first word matches the first unused equal character of the second that is not too far
-- away. A match that lies before the match found last counts as out of order.
structure Matching where
  used : List Nat
  last : Nat
  crossed : Nat

namespace Matching

def empty : Matching := ⟨[],0,0⟩

def add (found : Matching) (position : Nat) : Matching :=
  ⟨position :: found.used,position,if position < found.last then found.crossed + 1 else found.crossed⟩

end Matching

def partner? (character : Char) (used : List Nat) (lowest highest : Nat) (second : List Char) : Option Nat :=
  (second.zipIdx.find? (fun (other,position) =>
    lowest ≤ position && position ≤ highest && other == character && !used.contains position)).map Prod.snd

def matchingOf (first second : List Char) : Matching :=
  let reach := max first.length second.length / 2 - 1
  first.zipIdx.foldl (fun found (character,position) =>
    match partner? character found.used (position - reach) (position + reach) second with
    | some partner => found.add partner
    | none => found) .empty

def jaro (first second : List Char) : Similarity :=
  if first.isEmpty && second.isEmpty then ⟨1,1⟩
  else
    let found := matchingOf first second
    let count := found.used.length
    if count = 0 then ⟨0,1⟩
    else
      ⟨count * count * second.length + count * count * first.length +
          (count - found.crossed) * first.length * second.length,
        3 * first.length * second.length * count⟩

def commonBeginning : List Char → List Char → Nat
  | a :: first, b :: second => if a = b then commonBeginning first second + 1 else 0
  | _, _ => 0

-- More than four fifths alike once every character of the common beginning has won back a tenth of what
-- is missing.
def soundsLike (first second : String) : Bool :=
  let measure := jaro first.toList second.toList
  let beginning := commonBeginning first.toList second.toList
  8 * measure.denominator <
    10 * measure.numerator + beginning * (measure.denominator - measure.numerator)

end PropFormula
