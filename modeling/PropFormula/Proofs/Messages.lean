import PropFormula.Files
import PropFormula.Token

namespace PropFormula

def complaint : String := "syntax error: unexpected character '"

def whereabouts : String := "' at offset "

section
variable {cause : SyntaxError} {character : Char} {offset other : Nat} {text : String}

theorem head_append (begins : text.toList.head? = some character) (rest : String) :
    (text ++ rest).toList.head? = some character := by
  rw [String.toList_append,List.head?_append,begins]
  rfl

theorem offset_of_digits (same : offset.repr = other.repr) : offset = other := by
  have digits : Nat.toDigits 10 offset = Nat.toDigits 10 other := by
    rwa [Nat.repr_eq_ofList_toDigits,Nat.repr_eq_ofList_toDigits,String.ofList_inj] at same
  calc
    offset = Nat.ofDigitChars 10 (Nat.toDigits 10 offset) 0 := Nat.ofDigitChars_ten_toDigits.symm
    _ = Nat.ofDigitChars 10 (Nat.toDigits 10 other) 0 := by rw [digits]
    _ = other := Nat.ofDigitChars_ten_toDigits

theorem message_unexpected (character : Char) (offset : Nat) :
    (SyntaxError.unexpectedCharacter character offset).message =
      complaint ++ (String.singleton character ++ (whereabouts ++ offset.repr)) := by
  change complaint ++ String.singleton character ++ whereabouts ++ offset.repr = _
  rw [String.append_assoc,String.append_assoc]

theorem message_begins (character : Char) (offset : Nat) :
    complaint.toList <+: (SyntaxError.unexpectedCharacter character offset).message.toList := by
  rw [message_unexpected,String.toList_append]
  exact List.prefix_append _ _

theorem message_head (character : Char) (offset : Nat) :
    (SyntaxError.unexpectedCharacter character offset).message.toList.head? = some 's' := by
  rw [message_unexpected]
  exact head_append rfl _

theorem cause_of_message (same : cause.message = (SyntaxError.unexpectedCharacter character offset).message) :
    cause = .unexpectedCharacter character offset := by
  have begins := message_begins character offset
  rw [← same] at begins
  cases cause with
  | emptyFormula => exact absurd begins (by decide)
  | incomplete => exact absurd begins (by decide)
  | unexpectedCharacter first place =>
    rw [message_unexpected,message_unexpected,String.append_right_inj] at same
    obtain ⟨rfl,further⟩ := String.singleton_append_inj.mp same
    rw [offset_of_digits ((String.append_right_inj whereabouts).mp further)]
  | missingNode pattern =>
    have first : (SyntaxError.missingNode pattern).message.toList.head? = some 'm' :=
      head_append (head_append rfl _) _
    rw [same,message_head] at first
    cases first

end

-- If this is a refusal, it is one for a reason that has a name.
def Genuine {α : Type} (result : Except FileError α) : Prop := ∀ message, result ≠ .error (.other message)

section
variable {α β : Type}

theorem genuine_ok (value : α) : Genuine (.ok value) := nofun

theorem Genuine.bind {first : Except FileError α} {later : α → Except FileError β} (one : Genuine first)
    (two : ∀ value, Genuine (later value)) : Genuine (first >>= later) := by
  cases first with
  | ok value => exact two value
  | error cause =>
    intro message other
    cases other
    exact one message rfl

theorem Genuine.guard {refused : Prop} [Decidable refused] {cause : FileError} {never : β → Except FileError α}
    {next : Except FileError α} (own : ∀ message, cause ≠ .other message) (two : Genuine next) :
    Genuine (if refused then throw cause >>= never else next) := by
  split
  · intro message other
    cases other
    exact own message rfl
  · exact two

end

namespace FileSystem
variable (files : FileSystem)

theorem genuine_checkLength (text : String) : Genuine (checkLength text) := by
  unfold checkLength
  split <;> exact nofun

theorem genuine_enter (directory : Path) (name : String) : Genuine (enter directory name) := by
  unfold enter
  split
  · exact nofun
  · split
    · exact nofun
    · split <;> exact nofun

theorem genuine_descend (directory : Path) (names : List String) : Genuine (files.descend directory names) := by
  induction names generalizing directory with
  | nil => exact nofun
  | cons name rest ih =>
    refine (genuine_enter directory name).bind fun inner => ?_
    cases files.node? inner with
    | none => exact nofun
    | some node =>
      cases node with
      | directory => exact ih inner
      | file _ => exact nofun
      | device _ => exact nofun

theorem genuine_reach (text : String) : Genuine (files.reach text) :=
  .guard nofun ((files.genuine_descend _ _).bind fun _ => genuine_ok _)

theorem genuine_find (text : String) : Genuine (files.find text) := by
  refine (files.genuine_reach text).bind fun place => (genuine_enter _ _).bind fun path => ?_
  cases files.node? path with
  | none => exact nofun
  | some node =>
    cases node with
    | directory => exact genuine_ok _
    | file _ => exact .guard nofun (genuine_ok _)
    | device _ => exact .guard nofun (genuine_ok _)

theorem genuine_read (text : String) : Genuine (files.read text) := by
  refine (genuine_checkLength text).bind fun _ => (files.genuine_find text).bind fun found => ?_
  obtain ⟨path,node⟩ := found
  cases node with
  | directory => exact nofun
  | device _ => exact genuine_ok _
  | file content =>
    dsimp only
    cases String.fromUTF8? content with
    | none => exact nofun
    | some _ => exact genuine_ok _

theorem genuine_create (text : String) : Genuine (files.create text) := by
  refine (genuine_checkLength text).bind fun _ => (files.genuine_reach text).bind fun place => ?_
  refine .guard nofun ((genuine_enter _ _).bind fun path => ?_)
  cases files.node? path with
  | none => exact genuine_ok _
  | some node =>
    cases node with
    | directory => exact nofun
    | file _ => exact genuine_ok _
    | device _ => exact genuine_ok _

theorem genuine_append (text content : String) : Genuine (files.append text content) := by
  refine (files.genuine_find text).bind fun found => ?_
  obtain ⟨path,node⟩ := found
  cases node with
  | directory => exact nofun
  | file _ => exact genuine_ok _
  | device device =>
    cases device with
    | null => exact genuine_ok _
    | full => exact nofun

end FileSystem
section
variable {character : Char} {offset : Nat}

theorem refusal_message {α : Type} {result : Except FileError α} {cause : FileError} (genuine : Genuine result)
    (refused : result = .error cause) :
    cause.message ≠ (SyntaxError.unexpectedCharacter character offset).message := by
  intro same
  have begins := message_begins character offset
  rw [← same] at begins
  cases cause with
  | other message => exact genuine message refused
  | notFound | notDirectory | isDirectory | nameTooLong | noSpace | notText => exact absurd begins (by decide)

-- Behind a line that tells what was being done the complaint can only be the cause.
theorem complaint_behind {doing cause : String} (begins : doing.toList.head? = some 'w')
    (complains : (SyntaxError.unexpectedCharacter character offset).message ∈ [doing,cause]) :
    cause = (SyntaxError.unexpectedCharacter character offset).message := by
  rcases List.mem_cons.mp complains with same | behind
  · rw [← same,message_head] at begins
    cases begins
  · exact (List.mem_singleton.mp behind).symm

end
end PropFormula
