import ZoneServices.Json.Value

/-!
# Tokens of JSON texts

A JSON text is cut into brackets, commas, colons, strings and the values that have no parts.
Only spaces, tabs and line ends may stand between two tokens.

Every step takes at least one character, which is why cutting ends.
-/

namespace ZoneServices.Json

/-- A token of a JSON text. -/
inductive Token where
  | arrayStart
  | arrayEnd
  | objectStart
  | objectEnd
  | comma
  | colon
  /-- A string, without a text if one of its surrogates lacks its other half. -/
  | string (value : Option Text)
  | scalar (value : Json)
deriving Repr, BEq

/-- Whether a character may stand between tokens. -/
def isSpace (character : Char) : Bool :=
  character = ' ' || character = '\t' || character = '\n' || character = '\r'

/-! ## Strings -/

/-- A piece of the body of a string: a character, or a unit that an escape gives by its number. -/
inductive Piece where
  | character (value : Char)
  | unit (value : Nat)
deriving DecidableEq, Repr

/-- The character that follows a backslash in the short escapes. -/
def escaped? (character : Char) : Option Char :=
  match character with
  | '"' | '\\' | '/' => some character
  | 'b' => some '\x08'
  | 'f' => some '\x0c'
  | 'n' => some '\n'
  | 'r' => some '\r'
  | 't' => some '\t'
  | _ => none

/-- The unit of sixteen bits that four hexadecimal digits give. -/
def unit? (first second third fourth : Char) : Option Nat :=
  match Text.hexDigit? first, Text.hexDigit? second, Text.hexDigit? third,
    Text.hexDigit? fourth with
  | some first, some second, some third, some fourth =>
    some (((first * 16 + second) * 16 + third) * 16 + fourth)
  | _, _, _, _ => none

/-- What was read, with one more piece in front. -/
def piecesAfter (piece : Piece) (reading : Option (List Piece × Text)) :
    Option (List Piece × Text) :=
  reading.map fun others => (piece :: others.1, others.2)

/-- The pieces of a string up to the quote that ends it, and the text after that quote. -/
def readPieces : Text → Option (List Piece × Text)
  | [] => none
  | '"' :: rest => some ([], rest)
  | '\\' :: 'u' :: first :: second :: third :: fourth :: rest =>
    match unit? first second third fourth with
    | some value => piecesAfter (.unit value) (readPieces rest)
    | none => none
  | '\\' :: character :: rest =>
    match escaped? character with
    | some value => piecesAfter (.character value) (readPieces rest)
    | none => none
  | character :: rest =>
    if character.toNat < 0x20 || character == '\\' then none
    else piecesAfter (.character character) (readPieces rest)

theorem length_of_piecesAfter {piece : Piece} {pieces : List Piece} {text rest : Text}
    {reading : Option (List Piece × Text)}
    (shorter : ∀ others, reading = some (others, rest) → rest.length < text.length)
    (read : piecesAfter piece reading = some (pieces, rest)) : rest.length < text.length := by
  match reading, read with
  | some (others, _), read =>
    cases read
    exact shorter others rfl

/-- A string takes at least the quote that ends it. -/
theorem length_readPieces {text rest : Text} {pieces : List Piece}
    (read : readPieces text = some (pieces, rest)) : rest.length < text.length := by
  fun_induction readPieces text generalizing pieces with
  | case1 => simp at read
  | case2 => cases read; simp
  | case3 _ _ _ _ _ _ _ step =>
    refine length_of_piecesAfter (fun others inner => ?_) read
    have := step inner
    simp only [List.length_cons]
    omega
  | case4 => simp at read
  | case5 _ _ _ _ _ step =>
    refine length_of_piecesAfter (fun others inner => ?_) read
    have := step inner
    simp only [List.length_cons]
    omega
  | case6 => simp at read
  | case7 => simp at read
  | case8 _ _ _ _ _ _ step =>
    refine length_of_piecesAfter (fun others inner => ?_) read
    have := step inner
    simp only [List.length_cons]
    omega

/-- Whether a unit is the first half of a pair. -/
def isHighSurrogate (value : Nat) : Bool :=
  0xD800 ≤ value && value < 0xDC00

/-- Whether a unit is the second half of a pair. -/
def isLowSurrogate (value : Nat) : Bool :=
  0xDC00 ≤ value && value < 0xE000

/--
The text of the pieces of a string, if every half of a surrogate pair is followed by the other
one.
-/
def textOfPieces : List Piece → Option Text
  | [] => some []
  | .character value :: rest => (textOfPieces rest).map (value :: ·)
  | .unit high :: .unit low :: rest =>
    if isHighSurrogate high && isLowSurrogate low then
      (textOfPieces rest).map
        (Char.ofNat (0x10000 + (high - 0xD800) * 0x400 + (low - 0xDC00)) :: ·)
    else if isHighSurrogate high || isLowSurrogate high then none
    else (textOfPieces (.unit low :: rest)).map (Char.ofNat high :: ·)
  | .unit value :: rest =>
    if isHighSurrogate value || isLowSurrogate value then none
    else (textOfPieces rest).map (Char.ofNat value :: ·)

/-! ## Numbers -/

/-- The run of digits at the front of a text and the text after it. -/
def digitsOf (text : Text) : Text × Text :=
  (text.takeWhile Char.isDigit, text.dropWhile Char.isDigit)

/-- A number as it is written: sign, digits before and after the point, and exponent. -/
structure NumberParts where
  isNegative : Bool
  whole : Text
  fraction : Text
  exponent : Option (Bool × Text)
deriving DecidableEq, Repr

/--
The fraction of a number and the text after it; there may be none, but no point without digits.
-/
def readFraction? (text : Text) : Option (Text × Text) :=
  match text with
  | '.' :: rest => if (digitsOf rest).1.isEmpty then none else some (digitsOf rest)
  | _ => some ([], text)

/--
The exponent of a number and the text after it; there may be none, but no mark without digits.
-/
def readExponent? (text : Text) : Option (Option (Bool × Text) × Text) :=
  match text with
  | mark :: rest =>
    if mark = 'e' ∨ mark = 'E' then
      let (isNegative, rest) :=
        match rest with
        | '-' :: digits => (true, digits)
        | '+' :: digits => (false, digits)
        | digits => (false, digits)
      let digits := digitsOf rest
      if digits.1.isEmpty then none else some (some (isNegative, digits.1), digits.2)
    else
      some (none, text)
  | [] => some (none, [])

/-- The parts of the number at the front of a text and the text after it. -/
def readNumber? (text : Text) : Option (NumberParts × Text) := do
  let (isNegative, rest) :=
    match text with
    | '-' :: rest => (true, rest)
    | rest => (false, rest)
  let (whole, rest) ← match rest with
    | '0' :: rest => some (['0'], rest)
    | rest => if (digitsOf rest).1.isEmpty then none else some (digitsOf rest)
  let (fraction, rest) ← readFraction? rest
  let (exponent, rest) ← readExponent? rest
  return ({ isNegative, whole, fraction, exponent }, rest)

/--
The significand of a number after the digits of a text that it takes in, and how many it leaves:
from the first one on that it cannot take in within 64 bits.
-/
def takeDigits (significand : Nat) : Text → Nat × Nat
  | [] => (significand, 0)
  | digit :: rest =>
    let extended := significand * 10 + (Text.digit? digit).getD 0
    if extended < UInt64.size then takeDigits extended rest else (significand, rest.length + 1)

/-- The significand of a number and the power of ten that it is to be multiplied with. -/
def NumberParts.scientific (parts : NumberParts) : Nat × Int :=
  let (significand, wholeLeft) := takeDigits 0 parts.whole
  let (significand, fractionLeft) := takeDigits significand parts.fraction
  let exponent : Int :=
    match parts.exponent with
    | some (isNegative, digits) =>
      let value : Int := (Numeral.natural? digits).getD 0
      if isNegative then -value else value
    | none => 0
  (significand, exponent + wholeLeft - (parts.fraction.length - fractionLeft : Nat))

/-- The number of 53 binary digits, and zeros behind them, that is nearest to a number. -/
def nearestDouble (value : Nat) : Nat :=
  let unit := Nat.pow 2 (Nat.log2 value - 52)
  let quotient := value / unit
  let double := 2 * (value % unit)
  let isUp := unit < double || (unit == double && quotient % 2 == 1)
  (if isUp then quotient + 1 else quotient) * unit

/-- Least magnitude that no binary number of double precision is nearest to. -/
def magnitudeLimit : Nat := Nat.pow 2 1024 - Nat.pow 2 970

/-- The greatest power of ten that is a number of double precision. -/
def greatestPower : Nat := 308

/--
Whether a number lies beyond every number of double precision.  Its significand and the power of
ten are rounded before they are multiplied, which decides close to the bound.
-/
def NumberParts.isUnbounded (parts : NumberParts) : Bool :=
  match parts.scientific with
  | (significand, .ofNat power) =>
    significand != 0
      && (greatestPower < power
        || magnitudeLimit ≤ nearestDouble significand * nearestDouble (Nat.pow 10 power))
  | (_, .negSucc _) => false

/-- Whether a whole number fits in 64 bits, signed or unsigned. -/
def fitsWord (value : Int) : Bool :=
  Int64.minValue.toInt ≤ value && value < UInt64.size

/-- The value of a number that was written as `literal`. -/
def NumberParts.value (parts : NumberParts) (literal : Text) : Json :=
  let magnitude : Int := (Numeral.natural? parts.whole).getD 0
  let value := if parts.isNegative then -magnitude else magnitude
  if parts.fraction.isEmpty && parts.exponent.isNone && fitsWord value
      && !(parts.isNegative && magnitude == 0) then
    .number (.whole value)
  else if parts.isUnbounded then
    .unreadable
  else
    .number (.other literal)

/-! ## Cutting -/

/-- The value of a word at the front of a text, and what is left behind it. -/
def readWord (word : String) (value : Json) (text : Text) : Option (Token × Text) :=
  if word.toList.isPrefixOf text then some (.scalar value, text.drop word.length) else none

/-- The token at the front of a text that is not blank, and the text after it. -/
def readToken (character : Char) (rest : Text) : Option (Token × Text) :=
  match character with
  | '[' => some (.arrayStart, rest)
  | ']' => some (.arrayEnd, rest)
  | '{' => some (.objectStart, rest)
  | '}' => some (.objectEnd, rest)
  | ',' => some (.comma, rest)
  | ':' => some (.colon, rest)
  | '"' => (readPieces rest).map fun read => (.string (textOfPieces read.1), read.2)
  | 'n' => readWord "ull" .null rest
  | 't' => readWord "rue" (.bool true) rest
  | 'f' => readWord "alse" (.bool false) rest
  | _ =>
    match readNumber? (character :: rest) with
    | some (parts, following) =>
      let size := rest.length + 1 - following.length
      if following.length ≤ rest.length then
        some (.scalar (parts.value ((character :: rest).take size)), following)
      else
        none
    | none => none

/-- Reading a token never lengthens what is left. -/
theorem length_readToken {character : Char} {text rest : Text} {token : Token}
    (read : readToken character text = some (token, rest)) : rest.length ≤ text.length := by
  have word {written : String} {value : Json}
      (found : readWord written value text = some (token, rest)) : rest.length ≤ text.length := by
    unfold readWord at found
    split at found
    · cases found
      simp
    · simp at found
  unfold readToken at read
  split at read
  case h_7 =>
    match pieces : readPieces text, read with
    | some (_, following), read =>
      cases read
      exact Nat.le_of_lt (length_readPieces pieces)
  case h_11 =>
    split at read
    · dsimp only at read
      split at read
      · cases read
        assumption
      · simp at read
    · simp at read
  case h_8 => exact word read
  case h_9 => exact word read
  case h_10 => exact word read
  all_goals
    cases read
    exact Nat.le_refl _

/-- The tokens of a text, if it can be cut into tokens. -/
def tokens? : Text → Option (List Token)
  | [] => some []
  | character :: rest =>
    if isSpace character then
      tokens? rest
    else
      match read : readToken character rest with
      | none => none
      | some (token, following) =>
        have : following.length ≤ rest.length := length_readToken read
        (tokens? following).map (token :: ·)
termination_by text => text.length
decreasing_by
  · simp
  · simp only [List.length_cons]
    omega

end ZoneServices.Json
