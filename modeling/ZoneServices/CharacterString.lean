import ZoneServices.Text.Numeral
import ZoneServices.Text.Utf8

/-!
# Character-strings

The payload of a text record is a list of character-strings, each of at most 255 octets.  A
character-string is written between double quotes or bare, up to the next blank; a backslash
takes the character after it as it is, or three decimal digits as one octet.

The canonical form quotes every string.  It escapes quotes and backslashes by a backslash, and
control characters and octets that are not UTF-8 by their decimal values; all other characters
stand for themselves.
-/

namespace ZoneServices.CharacterString

/-- Number of octets that a string can have, because its size is carried in one octet. -/
def sizeLimit : Nat := 255

/-- Why a payload is not a list of character-strings. -/
inductive Fault where
  | strayQuote
  | unterminated
  | tooLong
  | danglingEscape
  | incompleteEscape
  | notAnOctet (value : Nat)
deriving DecidableEq, Repr

/-- The complaint about a text that writes no strings. -/
def Fault.message : Fault → String
  | .strayQuote => "quote inside an unquoted character-string"
  | .unterminated => "unterminated quoted character-string"
  | .tooLong => s!"character-string longer than {sizeLimit} bytes"
  | .danglingEscape => "dangling escape"
  | .incompleteEscape => "incomplete \\DDD escape"
  | .notAnOctet value => s!"escape \\{value} is not an octet"

/-! ## Reading -/

/-- A reading whose octets come after others. -/
def after (octets : Octets) : Except Fault (Octets × Text) → Except Fault (Octets × Text)
  | .ok (others, rest) => .ok (octets ++ others, rest)
  | .error fault => .error fault

/--
The octets of a string and the text after it.  The reading starts behind the quote that opens a
quoted string, and at the first character of a bare one; a bare string leaves the blank that
ends it.
-/
def readString (isQuoted : Bool) : Text → Except Fault (Octets × Text)
  | [] => if isQuoted then .error .unterminated else .ok ([], [])
  | character :: rest =>
    if character = '"' then
      if isQuoted then .ok ([], rest) else .error .strayQuote
    else if character = '\\' then
      match rest with
      | [] => .error .danglingEscape
      | escaped :: rest =>
        match Text.digit? escaped with
        | none => after (String.utf8EncodeChar escaped) (readString isQuoted rest)
        | some hundreds =>
          match rest with
          | second :: third :: rest =>
            match Text.digit? second, Text.digit? third with
            | some tens, some ones =>
              if (hundreds * 10 + tens) * 10 + ones < 256 then
                after [UInt8.ofNat ((hundreds * 10 + tens) * 10 + ones)] (readString isQuoted rest)
              else
                .error (.notAnOctet ((hundreds * 10 + tens) * 10 + ones))
            | _, _ => .error .incompleteEscape
          | [] | [_] => .error .incompleteEscape
    -- Inside quotes a blank belongs to the string.
    else if !isQuoted && Text.isBlank character then
      .ok ([], character :: rest)
    else
      after (String.utf8EncodeChar character) (readString isQuoted rest)

theorem after_eq_ok {octets result : Octets} {reading : Except Fault (Octets × Text)} {rest : Text}
    (read : after octets reading = .ok (result, rest)) :
    ∃ others, reading = .ok (others, rest) := by
  match reading, read with
  | .ok (others, _), read => exact ⟨others, by cases read; rfl⟩

/-- What a string leaves is no longer than what it was read from. -/
theorem length_readString {isQuoted : Bool} {text rest : Text} {octets : Octets}
    (read : readString isQuoted text = .ok (octets, rest)) :
    rest.length ≤ text.length := by
  fun_induction readString isQuoted text generalizing octets <;>
    simp only [List.length_cons, Except.ok.injEq, Prod.mk.injEq, reduceCtorEq] at read ⊢
  case case2 => simp [← read.2]
  case case3 => simp [← read.2]
  case case6 step =>
    obtain ⟨_, inner⟩ := after_eq_ok read
    have := step inner
    omega
  case case7 step =>
    obtain ⟨_, inner⟩ := after_eq_ok read
    have := step inner
    omega
  case case12 => simp [← read.2]
  case case13 step =>
    obtain ⟨_, inner⟩ := after_eq_ok read
    have := step inner
    omega

/-- A bare string takes its first character. -/
theorem length_readString_bare {character : Char} {text rest : Text} {octets : Octets}
    (notBlank : Text.isBlank character = false)
    (read : readString false (character :: text) = .ok (octets, rest)) :
    rest.length ≤ text.length := by
  unfold readString at read
  split at read
  · simp at read
  · split at read
    · split at read
      · simp at read
      · split at read
        · obtain ⟨_, inner⟩ := after_eq_ok read
          have := length_readString inner
          simp only [List.length_cons]
          omega
        · split at read
          · split at read
            · split at read
              · obtain ⟨_, inner⟩ := after_eq_ok read
                have := length_readString inner
                simp only [List.length_cons]
                omega
              · simp at read
            · simp at read
          · simp at read
          · simp at read
    · simp only [Bool.not_false, notBlank, Bool.and_false, Bool.false_eq_true, if_false] at read
      obtain ⟨_, inner⟩ := after_eq_ok read
      exact length_readString inner

/-- The string that starts at a non-blank character, and the text after it. -/
def readFrom (character : Char) (rest : Text) : Except Fault (Octets × Text) :=
  if character = '"' then readString true rest else readString false (character :: rest)

/-- Reading a string never lengthens what is left. -/
theorem length_readFrom {character : Char} {text rest : Text} {octets : Octets}
    (notBlank : Text.isBlank character = false)
    (read : readFrom character text = .ok (octets, rest)) :
    rest.length ≤ text.length := by
  unfold readFrom at read
  split at read
  · exact length_readString read
  · exact length_readString_bare notBlank read

/-- The strings that a text writes, with blanks in between. -/
def readAll (text : Text) : Except Fault (List Octets) :=
  match text with
  | [] => .ok []
  | character :: rest =>
    if blank : Text.isBlank character then
      readAll rest
    else
      match read : readFrom character rest with
      | .error fault => .error fault
      | .ok (octets, following) =>
        have : following.length ≤ rest.length :=
          length_readFrom (Bool.eq_false_iff.mpr blank) read
        if octets.length ≤ sizeLimit then
          match readAll following with
          | .error fault => .error fault
          | .ok others => .ok (octets :: others)
        else
          .error .tooLong
termination_by text.length
decreasing_by
  · simp
  · simp only [List.length_cons]
    omega

/-! ## Writing -/

/-- An octet as an escape of three decimals. -/
def writeOctet (octet : UInt8) : Text :=
  '\\' :: Numeral.padded 3 octet.toNat

/--
A character as it stands between quotes: quotes and backslashes are escaped, control characters are
given by their octets.
-/
def writeCharacter (character : Char) : Text :=
  if character = '"' ∨ character = '\\' then ['\\', character]
  else if Text.isControl character then (String.utf8EncodeChar character).flatMap writeOctet
  else [character]

/-- A piece of a string: a character, or octets that are none. -/
def writePiece : Utf8.Piece → Text
  | .character value => writeCharacter value
  | .broken octets => octets.flatMap writeOctet

/-- The written form of a string, always in quotes. -/
def write (octets : Octets) : Text :=
  '"' :: (Utf8.pieces octets).flatMap writePiece ++ ['"']

/-- Canonical form of a list of character-strings. -/
def writeAll (strings : List Octets) : Text :=
  Text.joined [' '] (strings.map write)

/-! ## Texts longer than a string -/

/-- The longest head of a text that fits in `room` octets, and the tail after it. -/
def splitToFit : (room : Nat) → Text → Text × Text
  | _, [] => ([], [])
  | room, character :: rest =>
    if character.utf8Size ≤ room then
      let halves := splitToFit (room - character.utf8Size) rest
      (character :: halves.1, halves.2)
    else
      ([], character :: rest)

/-- A first piece cut to fit never lengthens the rest. -/
theorem length_splitToFit (room : Nat) (text : Text) :
    (splitToFit room text).2.length ≤ text.length := by
  induction text generalizing room with
  | nil => simp [splitToFit]
  | cons character rest step =>
    unfold splitToFit
    split
    · have := step (room - character.utf8Size)
      simp only [List.length_cons]
      omega
    · simp

/--
A text cut into pieces of at most `sizeLimit` octets, each as long as it can be; none for the
empty text.
-/
def cut : Text → List Text
  | [] => []
  | character :: rest =>
    let halves := splitToFit (sizeLimit - character.utf8Size) rest
    (character :: halves.1) :: cut halves.2
termination_by text => text.length
decreasing_by
  have := length_splitToFit (sizeLimit - character.utf8Size) rest
  simp only [List.length_cons]
  omega

/-- A text as character-strings; the empty text is one empty string. -/
def ofText (text : Text) : List Text :=
  if text.isEmpty then [[]] else cut text

/-- The written form of a text, cut into strings that are not too long. -/
def writeText (text : Text) : Text :=
  writeAll ((ofText text).map Utf8.encode)

end ZoneServices.CharacterString
