import PropFormula.Text.Bytes
import PropFormula.Token

namespace PropFormula

def isSeparator (character : Char) : Bool :=
  [' ','\t','\n','\r','\x0c'].contains character

def isBody (character : Char) : Bool :=
  character.isAlphanum || character == '$' || character == '_'

-- ' " ʹ ʺ ′ ″ ‴ ⁗
def isPrime (character : Char) : Bool :=
  ['\'','"','\u02b9','\u02ba','\u2032','\u2033','\u2034','\u2057'].contains character

def identifier? (text : List Char) : Option (String × List Char) :=
  match text.takeWhile isBody with
  | [] => none
  | body =>
    let marks := text.dropWhile isBody
    some (String.ofList (body ++ marks.takeWhile isPrime),marks.dropWhile isPrime)

-- The token at the front of a text that starts with no separator. The constants win over an identifier.
def lexeme? : List Char → Option (Token × List Char)
  | '(' :: rest => some (.opening,rest)
  | ')' :: rest => some (.closing,rest)
  | '1' :: rest => some (.value .top,rest)
  | '0' :: rest => some (.value .bot,rest)
  | '!' :: rest => some (.not,rest)
  | '&' :: rest => some (.binary .and,rest)
  | '|' :: rest => some (.binary .or,rest)
  | '=' :: '>' :: rest => some (.binary .imp,rest)
  | '<' :: '=' :: '>' :: rest => some (.binary .iff,rest)
  | text => (identifier? text).map (fun (name,rest) => (.value (.var name),rest))

theorem identifier_text (text : List Char) (name : String) (rest : List Char)
    (found : identifier? text = some (name,rest)) : text = name.toList ++ rest := by
  unfold identifier? at found
  split at found
  · cases found
  · cases found
    simp [List.append_assoc]

theorem identifier_nonempty (text : List Char) (name : String) (rest : List Char)
    (found : identifier? text = some (name,rest)) : name.toList ≠ [] := by
  unfold identifier? at found
  split at found
  · cases found
  · rename_i body
    cases found
    simp only [String.toList_ofList]
    exact fun empty => body (List.append_eq_nil_iff.mp empty).1

theorem lexeme_text (text : List Char) (token : Token) (rest : List Char)
    (found : lexeme? text = some (token,rest)) : text = token.text.toList ++ rest := by
  revert found
  fun_cases lexeme? text
  case case10 =>
    intro found
    obtain ⟨⟨name,tail⟩,got,same⟩ := Option.map_eq_some_iff.mp found
    cases same
    exact identifier_text _ _ _ got
  all_goals
    intro found
    cases found
    rfl

theorem lexeme_nonempty (text : List Char) (token : Token) (rest : List Char)
    (found : lexeme? text = some (token,rest)) : token.text.toList ≠ [] := by
  revert found
  fun_cases lexeme? text
  case case10 =>
    intro found
    obtain ⟨⟨name,tail⟩,got,same⟩ := Option.map_eq_some_iff.mp found
    cases same
    exact identifier_nonempty _ _ _ got
  all_goals
    intro found
    cases found
    simp [Token.text,Atom.text,Connective.sign]

theorem lexeme_shorter (text : List Char) (token : Token) (rest : List Char)
    (found : lexeme? text = some (token,rest)) : rest.length < text.length := by
  have taken := List.length_pos_iff.mpr (lexeme_nonempty _ _ _ found)
  rw [lexeme_text _ _ _ found,List.length_append]
  omega

-- The text still ahead and the number of UTF-8 bytes behind.
structure Scanner where
  rest : List Char
  offset : Nat

namespace Scanner

def start (text : String) : Scanner := ⟨text.toList,0⟩

def skipSeparators (scanner : Scanner) : Scanner :=
  ⟨scanner.rest.dropWhile isSeparator,
    scanner.offset + byteLength (scanner.rest.takeWhile isSeparator)⟩

-- The next token, or nothing once only separators were left. A scanner that has met an unexpected
-- character stays in front of it.
def next (scanner : Scanner) : Except SyntaxError (Option Token) × Scanner :=
  let ahead := scanner.skipSeparators
  match ahead.rest with
  | [] => (.ok none,ahead)
  | character :: _ =>
    match lexeme? ahead.rest with
    | none => (.error (.unexpectedCharacter character ahead.offset),ahead)
    | some (token,rest) => (.ok (some token),⟨rest,ahead.offset + token.text.utf8ByteSize⟩)

theorem skipSeparators_le (scanner : Scanner) :
    scanner.skipSeparators.rest.length ≤ scanner.rest.length :=
  (List.dropWhile_suffix isSeparator).length_le

theorem next_shorter (scanner after : Scanner) (token : Token)
    (read : scanner.next = (.ok (some token),after)) : after.rest.length < scanner.rest.length := by
  unfold next at read
  dsimp only at read
  split at read
  · cases read
  · split at read
    · cases read
    · rename_i found
      cases read
      exact Nat.lt_of_lt_of_le (lexeme_shorter _ _ _ found) (skipSeparators_le scanner)

def tokens (scanner : Scanner) : Except SyntaxError (List Token) :=
  match _read : scanner.next with
  | (.error cause,_) => .error cause
  | (.ok none,_) => .ok []
  | (.ok (some token),after) => (tokens after).map (fun rest => token :: rest)
termination_by scanner.rest.length
decreasing_by exact next_shorter _ _ _ (by assumption)

end Scanner

def tokenize (text : String) : Except SyntaxError (List Token) := (Scanner.start text).tokens

end PropFormula
