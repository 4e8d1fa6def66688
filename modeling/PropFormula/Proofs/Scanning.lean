import PropFormula.Token.Scanner

namespace PropFormula

-- A run of separators, which may be empty.
def IsGap (text : List Char) : Prop := ∀ character ∈ text, isSeparator character = true

instance (text : List Char) : Decidable (IsGap text) :=
  List.decidableBAll _ text

theorem IsGap.nil : IsGap [] := by
  intro character member
  cases member

theorem IsGap.space : IsGap [' '] := by
  intro character member
  cases List.mem_singleton.mp member
  rfl

theorem IsGap.append {left right : List Char} (first : IsGap left) (second : IsGap right) :
    IsGap (left ++ right) := by
  intro character member
  rcases List.mem_append.mp member with inLeft | inRight
  · exact first character inLeft
  · exact second character inRight

-- No token starts with a separator, so skipping the separators never eats into a token.
theorem lexeme_solid {character : Char} {rest : List Char} {found : Token × List Char}
    (read : lexeme? (character :: rest) = some found) : isSeparator character = false := by
  cases separator : isSeparator character with
  | false => rfl
  | true =>
    simp only [isSeparator,List.contains_iff_mem,List.mem_cons,List.not_mem_nil,or_false] at separator
    rcases separator with rfl | rfl | rfl | rfl | rfl <;>
      simp [lexeme?,identifier?,isBody] at read

theorem lexeme_solid_head {text : List Char} {found : Token × List Char} (read : lexeme? text = some found) :
    ∀ character ∈ text.head?, isSeparator character = false := by
  intro character ahead
  cases text with
  | nil => cases ahead
  | cons first others =>
    cases ahead
    exact lexeme_solid read

theorem run_stops {p : Char → Bool} {run ahead : List Char} (inside : ∀ character ∈ run, p character = true)
    (stops : ∀ character ∈ ahead.head?, p character = false) :
    (run ++ ahead).takeWhile p = run ∧ (run ++ ahead).dropWhile p = ahead := by
  rw [List.takeWhile_append_of_pos inside,List.dropWhile_append_of_pos inside]
  cases ahead with
  | nil => exact ⟨List.append_nil run,rfl⟩
  | cons character rest => simp [stops character rfl]

namespace Scanner

theorem skip_gap (gap ahead : List Char) (offset : Nat) (blank : IsGap gap)
    (solid : ∀ character ∈ ahead.head?, isSeparator character = false) :
    skipSeparators ⟨gap ++ ahead,offset⟩ = ⟨ahead,offset + byteLength gap⟩ := by
  obtain ⟨taken,dropped⟩ := run_stops blank solid
  unfold skipSeparators
  rw [taken,dropped]

-- The three ways in which a scanner can go on, and it takes just these (`reads_next`, `next_of_reads`).
inductive Reads : Scanner → Except SyntaxError (Option Token) × Scanner → Prop where
  | finish {gap : List Char} {offset : Nat} (blank : IsGap gap) :
      Reads ⟨gap,offset⟩ (.ok none,⟨[],offset + byteLength gap⟩)
  | token {gap text rest : List Char} {offset : Nat} {token : Token} (blank : IsGap gap)
      (found : lexeme? text = some (token,rest)) :
      Reads ⟨gap ++ text,offset⟩
        (.ok (some token),⟨rest,offset + byteLength gap + token.text.utf8ByteSize⟩)
  | unexpected {gap rest : List Char} {character : Char} {offset : Nat} (blank : IsGap gap)
      (solid : isSeparator character = false) (strange : lexeme? (character :: rest) = none) :
      Reads ⟨gap ++ character :: rest,offset⟩
        (.error (.unexpectedCharacter character (offset + byteLength gap)),
          ⟨character :: rest,offset + byteLength gap⟩)

theorem reads_next (scanner : Scanner) : Reads scanner scanner.next := by
  obtain ⟨text,offset⟩ := scanner
  have blank : IsGap (text.takeWhile isSeparator) :=
    List.all_eq_true.mp List.all_takeWhile
  have split := text.takeWhile_append_dropWhile (p := isSeparator)
  have stopped := text.head?_dropWhile_not isSeparator
  unfold next skipSeparators
  dsimp only
  generalize text.takeWhile isSeparator = gap at blank split ⊢
  generalize text.dropWhile isSeparator = ahead at split stopped ⊢
  subst split
  cases ahead with
  | nil =>
    rw [List.append_nil]
    exact .finish blank
  | cons character rest =>
    have solid : isSeparator character = false := by simpa using stopped
    dsimp only
    split
    · rename_i strange
      exact .unexpected blank solid strange
    · rename_i found
      exact .token blank found

theorem next_of_reads {scanner : Scanner} {result : Except SyntaxError (Option Token) × Scanner}
    (reads : Reads scanner result) : scanner.next = result := by
  cases reads with
  | @finish gap offset blank =>
    have skipped := skip_gap gap [] offset blank (by simp)
    rw [List.append_nil] at skipped
    unfold next
    rw [skipped]
  | @token gap text rest offset token blank found =>
    cases text with
    | nil => simp [lexeme?,identifier?] at found
    | cons character tail =>
      have skipped := skip_gap gap (character :: tail) offset blank (by simpa using lexeme_solid found)
      unfold next
      rw [skipped]
      simp only [found]
  | @unexpected gap rest character offset blank solid strange =>
    have skipped := skip_gap gap (character :: rest) offset blank (by simpa using solid)
    unfold next
    rw [skipped]
    simp only [strange]

theorem tokens_eq (scanner : Scanner) :
    scanner.tokens =
      match scanner.next with
      | (.error cause,_) => .error cause
      | (.ok none,_) => .ok []
      | (.ok (some token),after) => after.tokens.map (fun rest => token :: rest) := by
  rw [tokens]
  split <;> rename_i read <;> rw [read]

theorem tokens_error (scanner : Scanner) (cause : SyntaxError) (failed : scanner.tokens = .error cause) :
    ∃ character offset, cause = .unexpectedCharacter character offset := by
  fun_induction tokens scanner with
  | case1 scanner found after read =>
    cases failed
    have reads := reads_next scanner
    rw [read] at reads
    cases reads
    exact ⟨_,_,rfl⟩
  | case2 => cases failed
  | case3 scanner token after read ih =>
    apply ih
    cases rest : after.tokens with
    | error found => rw [rest] at failed; exact failed
    | ok tokens => rw [rest] at failed; cases failed

end Scanner

-- A text and the tokens it falls into, without offsets (`cuts_exact`).
inductive Cuts : List Char → List Token → Prop where
  | finish {gap : List Char} (blank : IsGap gap) : Cuts gap []
  | token {gap text rest : List Char} {token : Token} {tokens : List Token} (blank : IsGap gap)
      (found : lexeme? text = some (token,rest)) (later : Cuts rest tokens) :
      Cuts (gap ++ text) (token :: tokens)

theorem Cuts.cons {text rest : List Char} {token : Token} {tokens : List Token}
    (found : lexeme? text = some (token,rest)) (later : Cuts rest tokens) :
    Cuts text (token :: tokens) :=
  .token IsGap.nil found later

theorem Cuts.gap {gap text : List Char} {tokens : List Token} (blank : IsGap gap)
    (cuts : Cuts text tokens) : Cuts (gap ++ text) tokens := by
  cases cuts with
  | finish inner => exact .finish (blank.append inner)
  | token inner found later =>
    rw [← List.append_assoc]
    exact .token (blank.append inner) found later

theorem cuts_of_tokens (scanner : Scanner) (tokens : List Token)
    (scanned : scanner.tokens = .ok tokens) : Cuts scanner.rest tokens := by
  fun_induction Scanner.tokens scanner generalizing tokens with
  | case1 => cases scanned
  | case2 scanner after read =>
    cases scanned
    have reads := scanner.reads_next
    rw [read] at reads
    cases reads with
    | finish blank => exact .finish blank
  | case3 scanner token after read ih =>
    have reads := scanner.reads_next
    rw [read] at reads
    cases later : after.tokens with
    | error cause => rw [later] at scanned; cases scanned
    | ok rest =>
      rw [later] at scanned
      cases scanned
      cases reads with
      | token blank found => exact .token blank found (ih rest later)

theorem tokens_of_cuts {text : List Char} {tokens : List Token} (cuts : Cuts text tokens)
    (offset : Nat) : Scanner.tokens ⟨text,offset⟩ = .ok tokens := by
  induction cuts generalizing offset with
  | finish blank =>
    rw [Scanner.tokens_eq,Scanner.next_of_reads (.finish blank)]
  | token blank found later ih =>
    rw [Scanner.tokens_eq,Scanner.next_of_reads (.token blank found)]
    dsimp only
    rw [ih]
    rfl

theorem cuts_exact (text : String) (tokens : List Token) :
    Cuts text.toList tokens ↔ tokenize text = .ok tokens :=
  ⟨fun cuts => tokens_of_cuts cuts 0,cuts_of_tokens (.start text) tokens⟩

theorem cuts_nil_iff (text : List Char) : Cuts text [] ↔ IsGap text := by
  constructor
  · intro cuts
    cases cuts with
    | finish blank => exact blank
  · exact .finish

theorem Cuts.not_gap {text : List Char} {token : Token} {rest : List Token}
    (cuts : Cuts text (token :: rest)) : ¬ IsGap text := by
  intro blank
  cases cuts with
  | @token gap ahead after _ _ _ found _ =>
    cases ahead with
    | nil => simp [lexeme?,identifier?] at found
    | cons character tail =>
      have solid := lexeme_solid found
      rw [blank character (by simp)] at solid
      cases solid

end PropFormula
