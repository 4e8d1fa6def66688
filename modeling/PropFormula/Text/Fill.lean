import PropFormula.Text.Alphanumeric
import PropFormula.Text.Bytes
import PropFormula.Text.Joining

namespace PropFormula

-- The lines of a text. A line ends in a line feed, before which a carriage return counts to the end; the
-- last line may do without.
def textLines : List Char → List (List Char)
  | [] => []
  | '\n' :: rest => [] :: textLines rest
  | '\r' :: '\n' :: rest => [] :: textLines rest
  | character :: rest =>
    match textLines rest with
    | [] => [[character]]
    | first :: others => (character :: first) :: others

def isGap (character : Char) : Bool := isBlank character && character != '\u00a0'

structure Word where
  gap : List Char
  letters : List Char
  deriving DecidableEq, Repr

namespace Word

def text (word : Word) : List Char := word.gap ++ word.letters

def ofLine : List Char → List Word
  | [] => []
  | character :: rest =>
    match ofLine rest with
    | [] => if isGap character then [⟨[character],[]⟩] else [⟨[],[character]⟩]
    | ⟨gap,letters⟩ :: others =>
      if isGap character then ⟨character :: gap,letters⟩ :: others
      else if gap.isEmpty then ⟨[],character :: letters⟩ :: others
      else ⟨[],[character]⟩ :: ⟨gap,letters⟩ :: others

def opensAlphanumeric : List Char → Bool
  | [] => false
  | character :: _ => isAlphanumeric character

def parts (previous : Char) : List Char → List (List Char)
  | [] => []
  | character :: rest =>
    if character == '-' && isAlphanumeric previous && opensAlphanumeric rest then
      [character] :: parts character rest
    else
      match parts character rest with
      | [] => [[character]]
      | first :: others => (character :: first) :: others

end Word

-- The greatest number of parts that have room behind so many columns. More parts may take fewer columns,
-- where characters are written as one.
def fittingParts? (limit taken : Nat) (parts : List (List Char)) : Option Nat :=
  ((List.range parts.length).map (fun count => count + 1)).reverse.find? fun count =>
    taken + joinedColumns (parts.take count).flatten ≤ limit

-- The line that is under way with what else has room on it, and what is left for the lines after it. A
-- word has room if its characters have, each on its own. Of a word that has none, the parts that do have
-- room stay. If not even the first one has any on a line of its own, as many bytes are taken as it has.
def takeLine (limit : Nat) (line : List Char) : List Word → List Char × List Char
  | [] => (line,[])
  | word :: rest =>
    if word.letters.isEmpty || columns (line ++ word.text) ≤ limit then
      takeLine limit (line ++ word.text) rest
    else
      let later := rest.flatMap Word.text
      let parts := Word.parts ' ' word.letters
      match fittingParts? limit (columns (line ++ word.gap)) parts with
      | some count =>
        (line ++ word.gap ++ (parts.take count).flatten,(parts.drop count).flatten ++ later)
      | none =>
        if line.isEmpty then cutBytes (byteLength (parts.headD [])) (word.text ++ later)
        else (line,word.letters ++ later)

-- The lines of a text without line ends. Where nothing of it can be put on a line, it stays whole.
def fill (limit : Nat) (text : List Char) : List (List Char) :=
  let taken := takeLine limit [] (Word.ofLine text)
  if taken.2.isEmpty then [taken.1]
  else if taken.2.length < text.length then taken.1 :: fill limit taken.2
  else [text]
termination_by text.length

def filledLines (limit : Nat) (text : List Char) : List String :=
  ((textLines text).flatMap (fill limit)).map String.ofList

end PropFormula
