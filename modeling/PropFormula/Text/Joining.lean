import PropFormula.Text.Columns
import PropFormula.Text.Picture

namespace PropFormula

inductive TiedLetter where
  | alef
  | lamed
  | ya
  | yaAfterVowel
  | orkhonI
  | consonant
  | tiedConsonant
  | lowTone
  | subscript
  deriving DecidableEq, Repr

-- What stands behind a character. A joiner ties a picture to the pictures before it, and some of the letters.
inductive Behind where
  | plain
  | letter (letter : TiedLetter) (joined : Bool)
  | tone
  | flagLetter
  | flagLetters
  | picture
  | joinedPicture
  | joinedKeycap
  | joinedFlagLetter
  | joinedEvenFlagLetters
  | joinedOddFlagLetters
  | joinedTagLetters (count : Nat)
  | joinedTagDigits (count : Nat)
  deriving DecidableEq, Repr

structure Following where
  behind : Behind
  asPicture : Bool
  asText : Bool
  deriving DecidableEq, Repr

def alefRanges : List (Nat × Nat) :=
  [(0x622,0x623),(0x625,0x625),(0x627,0x627),(0x671,0x673),(0x675,0x675),(0x773,0x774),(0x870,0x882)]

def lamRanges : List (Nat × Nat) := [(0x644,0x644),(0x6b5,0x6b8),(0x76a,0x76a),(0x8a6,0x8a6),(0x8c7,0x8c7)]

def subscriptRanges : List (Nat × Nat) :=
  [(0x1780,0x1782),(0x1784,0x1787),(0x1789,0x178c),(0x178e,0x1793),(0x1795,0x1798),(0x179b,0x179d),
   (0x17a0,0x17a0),(0x17a2,0x17a2),(0x17a7,0x17a7),(0x17ab,0x17ac),(0x17af,0x17af)]

-- Characters without a column that part the letters on their sides all the same.
def partingRanges : List (Nat × Nat) :=
  [(0x605,0x605),(0x890,0x891),(0x8e2,0x8e2),(0x9be,0x9be),(0x9d7,0x9d7),(0xb3e,0xb3e),(0xb57,0xb57),
   (0xbbe,0xbbe),(0xbd7,0xbd7),(0xcc0,0xcc0),(0xcc2,0xcc2),(0xcc7,0xcc8),(0xcca,0xccb),(0xcd5,0xcd6),
   (0xd3e,0xd3e),(0xd4e,0xd4e),(0xd57,0xd57),(0xdcf,0xdcf),(0xddf,0xddf),(0x1160,0x11ff),
   (0x180e,0x180e),(0x1b35,0x1b35),(0x1b3b,0x1b3b),(0x1b3d,0x1b3d),(0x1b43,0x1b43),(0x200c,0x200d),
   (0x2065,0x2069),(0x302e,0x302f),(0x3164,0x3164),(0xa8fa,0xa8fa),(0xd7b0,0xd7c6),(0xd7cb,0xd7fb),
   (0xff9e,0xffa0),(0xfff0,0xfff8),(0x111c2,0x111c3),(0x1133e,0x1133e),(0x11357,0x11357),
   (0x114b0,0x114b0),(0x114bd,0x114bd),(0x115af,0x115af),(0x11930,0x11930),(0x1193f,0x1193f),
   (0x11941,0x11941),(0x11a3a,0x11a3a),(0x11a84,0x11a89),(0x11d46,0x11d46),(0x11f02,0x11f02),
   (0x1d165,0x1d165),(0x1d16e,0x1d172),(0xe0000,0xe0000),(0xe0002,0xe001f),(0xe0080,0xe00ff),
   (0xe01f0,0xe0fff)]

def isJoiner (character : Char) : Bool := character == '\u200d'

def isConsonant (character : Char) : Bool := inRanges [(0x2d31,0x2d65),(0x2d6f,0x2d6f)] character

-- Marks that a tie between alef and the letter before it goes across.
def isTransparent (character : Char) : Bool :=
  characterColumns character = 0 && !inRanges partingRanges character

-- Marks that every other tie goes across.
def isIgnoredMark (character : Char) : Bool :=
  inRanges [(0x34f,0x34f),(0x17b4,0x17b5),(0x180b,0x180d),(0x180f,0x180f),(0xfe00,0xfe0f),
    (0xe0100,0xe01ef)] character

def tiedLetter? (character : Char) : Option TiedLetter :=
  if inRanges alefRanges character then some .alef
  else if character == '\u05dc' then some .lamed
  else if character == '\u1a10' then some .ya
  else if character.toNat = 0x10c03 then some .orkhonI
  else if isConsonant character then some .consonant
  else if inRanges [(0xa4fc,0xa4fd)] character then some .lowTone
  else if inRanges subscriptRanges character then some .subscript
  else none

namespace Behind

def ofCharacter (character : Char) : Behind :=
  if isPicture character then .picture
  else if isFlagLetter character then .flagLetter
  else if isTone character then .tone
  else
    match tiedLetter? character with
    | some tied => .letter tied false
    | none => .plain

def isLetter : Behind → Bool
  | .letter _ _ => true
  | _ => false

def isJoined : Behind → Bool
  | .joinedPicture | .joinedKeycap => true
  | _ => false

def tieLetter? (tied : TiedLetter) (joined : Bool) (character : Char) : Option (Int × Behind) :=
  match tied with
  | .alef =>
    if inRanges lamRanges character then some (0,.plain)
    else if isTransparent character then some (0,.letter .alef false)
    else none
  | .lamed => if joined && character == '\u05d0' then some (0,.plain) else none
  | .ya => if joined && character == '\u1a17' then some (0,.letter .yaAfterVowel false) else none
  | .yaAfterVowel => if character == '\u1a15' then some (0,.plain) else none
  | .orkhonI => if joined && character.toNat = 0x10c32 then some (0,.plain) else none
  | .consonant =>
    if character == '\u2d7f' then some (1,.letter .tiedConsonant false)
    else if joined && isConsonant character then some (0,.plain)
    else none
  | .tiedConsonant => if isConsonant character then some (-1,.plain) else none
  | .lowTone => if inRanges [(0xa4f8,0xa4fb)] character then some (0,.plain) else none
  | .subscript => if character == '\u17d2' then some (-1,.plain) else none

def tie? : Behind → Char → Option (Int × Behind)
  | .plain, _ | .joinedKeycap, _ => none
  | .letter tied joined, character =>
    if tied != .alef && isJoiner character then some (0,.letter tied true)
    else if tied != .alef && isIgnoredMark character then some (0,.letter tied joined)
    else tieLetter? tied joined character
  | .tone, character =>
    if isTonable character then some (0,.picture)
    else if isJoiner character then some (0,.joinedPicture)
    else none
  | .flagLetter, character => if isFlagLetter character then some (1,.flagLetters) else none
  | .flagLetters, character =>
    if isFlagLetter character then some (1,.flagLetters)
    else if isJoiner character then some (0,.joinedPicture)
    else none
  | .picture, character => if isJoiner character then some (0,.joinedPicture) else none
  | .joinedPicture, character =>
    if character == '\u20e3' then some (0,.joinedKeycap)
    else if isFlagLetter character then some (1,.joinedFlagLetter)
    else if isTone character then some (0,.tone)
    else if isTagEnd character then some (0,.joinedTagLetters 0)
    else if isPicture character then some (0,.picture)
    else none
  | .joinedFlagLetter, character => if isFlagLetter character then some (-1,.joinedEvenFlagLetters) else none
  | .joinedEvenFlagLetters, character =>
    if isFlagLetter character then some (3,.joinedOddFlagLetters)
    else if isJoiner character then some (0,.joinedPicture)
    else none
  | .joinedOddFlagLetters, character =>
    if isFlagLetter character then some (-1,.joinedEvenFlagLetters)
    else if isJoiner character then some (0,.joinedPicture)
    else none
  | .joinedTagLetters count, character =>
    if count < 6 && isTagLetter character then some (0,.joinedTagLetters (count + 1))
    else if count < 5 && isTagDigit character then some (0,.joinedTagDigits 1)
    else if 3 ≤ count && isBlackFlag character then some (0,.picture)
    else none
  | .joinedTagDigits count, character =>
    if count < 3 && isTagDigit character then some (0,.joinedTagDigits (count + 1))
    else if count = 3 && isBlackFlag character then some (0,.picture)
    else none

end Behind

namespace Following

def of (behind : Behind) : Following := ⟨behind,false,false⟩

-- A selector stays with a letter, so that ties go across it; before anything else it stands alone.
def selectPicture (following : Following) : Following :=
  if following.behind.isLetter then {following with asPicture := true}
  else if following.behind.isJoined then ⟨following.behind,true,false⟩
  else ⟨.plain,true,false⟩

def selectText (following : Following) : Following :=
  if following.behind.isLetter then {following with asText := true} else ⟨.plain,false,true⟩

def dropPicture (following : Following) : Following :=
  if !following.asPicture then following
  else if following.behind.isLetter then {following with asPicture := false}
  else of .plain

def dropText (following : Following) : Behind :=
  if following.asText && !following.behind.isLetter then .plain else following.behind

-- Controls take a column in a text, though none by themselves.
def step (character : Char) (following : Following) : Int × Following :=
  if following.asPicture && isSelectable character then
    (if following.behind.isJoined then 0 else 2,of .picture)
  else
    let rest := following.dropPicture
    if character.toNat ≤ 0xa0 then (1,of .plain)
    else if character == '\ufe0f' then (0,rest.selectPicture)
    else if character == '\ufe0e' then (0,rest.selectText)
    else if rest.asText && isFlattened character then (1,of .plain)
    else
      match rest.dropText.tie? character with
      | some (added,behind) => (added,of behind)
      | none => (characterColumns character,of (.ofCharacter character))

end Following

-- A text is read from its end, because what a character adds depends on what stands behind it.
def joinedFrom : List Char → Int × Following
  | [] => (0,.of .plain)
  | character :: rest =>
    let after := joinedFrom rest
    let now := after.2.step character
    (after.1 + now.1,now.2)

def joinedColumns (text : List Char) : Nat := (joinedFrom text).1.toNat

end PropFormula
