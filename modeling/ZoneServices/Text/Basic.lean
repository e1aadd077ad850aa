/-!
# Texts

A text is the list of its characters.  Everything that zone files, service bodies and settings
are made of is read and written as such a list, so that a reader is a recursion on a list and a
writer is an append.

This module holds the character classes and the cutting of texts into words, fields and lines.
Blank characters are those of the Unicode property `White_Space`; letters are folded in ASCII
alone, as the domain name system compares names.
-/

namespace ZoneServices

/-- A text, by its characters. -/
abbrev Text : Type := List Char

namespace Text

/-! ## Character classes -/

/-- Whether a character has the Unicode property `White_Space`. -/
def isBlank (character : Char) : Bool :=
  let point := character.toNat
  (9 ≤ point && point ≤ 13) || point == 0x20 || point == 0x85 || point == 0xA0
    || point == 0x1680 || (0x2000 ≤ point && point ≤ 0x200A) || point == 0x2028
    || point == 0x2029 || point == 0x202F
    || point == 0x205F || point == 0x3000

/-- Whether a character is a control character (general category `Cc`). -/
def isControl (character : Char) : Bool :=
  let point := character.toNat
  point < 0x20 || (0x7F ≤ point && point < 0xA0)

/-- Whether a character takes one octet. -/
def isAscii (character : Char) : Bool :=
  character.toNat < 0x80

/-- Whether a character lies in one of some ranges, given by their first and last code points. -/
def liesIn (ranges : List (Nat × Nat)) (character : Char) : Bool :=
  ranges.any fun range => range.1 ≤ character.toNat && character.toNat ≤ range.2

/-- Value of an ASCII decimal digit. -/
def digit? (character : Char) : Option Nat :=
  if '0' ≤ character ∧ character ≤ '9' then some (character.toNat - '0'.toNat) else none

/-- Value of an ASCII hexadecimal digit, in either letter case. -/
def hexDigit? (character : Char) : Option Nat :=
  if '0' ≤ character ∧ character ≤ '9' then some (character.toNat - '0'.toNat)
  else if 'a' ≤ character ∧ character ≤ 'f' then some (character.toNat - 'a'.toNat + 10)
  else if 'A' ≤ character ∧ character ≤ 'F' then some (character.toNat - 'A'.toNat + 10)
  else none

/-- Whether a character is an ASCII hexadecimal digit. -/
def isHexDigit (character : Char) : Bool :=
  (hexDigit? character).isSome

/-- The hexadecimal digit of a value below sixteen, in lower case. -/
def hexDigit (value : Nat) : Char :=
  if value < 10 then Char.ofNat ('0'.toNat + value) else Char.ofNat ('a'.toNat + (value - 10))

/-! ## Letter case -/

/-- A text with its ASCII letters in lower case. -/
def fold (text : Text) : Text :=
  text.map Char.toLower

/-- A text with its ASCII letters in upper case. -/
def upper (text : Text) : Text :=
  text.map Char.toUpper

/-- Whether two texts are equal up to the case of ASCII letters. -/
def sameFolded (left right : Text) : Bool :=
  fold left == fold right

/-! ## Trimming -/

/-- A text without the run of characters of a class that ends it. -/
def dropEndWhile (ofClass : Char → Bool) (text : Text) : Text :=
  (text.reverse.dropWhile ofClass).reverse

/-- A text without the blanks around it. -/
def trim (text : Text) : Text :=
  dropEndWhile isBlank (text.dropWhile isBlank)

/-- A text without the dots that end it. -/
def trimEndDots (text : Text) : Text :=
  dropEndWhile (· == '.') text

/-- A text without the dots around it. -/
def trimDots (text : Text) : Text :=
  trimEndDots (text.dropWhile (· == '.'))

/-- Whether a dot ends a text, as it ends an absolute name. -/
def endsWithDot (text : Text) : Bool :=
  text.getLast? == some '.'

/-! ## Words, fields and lines -/

/-- The first run of non-blank characters and what follows it, if there is one. -/
def nextWord? (text : Text) : Option (Text × Text) :=
  match text.dropWhile isBlank with
  | [] => none
  | start => some (start.takeWhile (!isBlank ·), start.dropWhile (!isBlank ·))

/-- The maximal runs of non-blank characters, in order. -/
def words : Text → List Text
  | [] => []
  | character :: rest =>
    if isBlank character then
      words rest
    else
      match rest with
      | [] => [[character]]
      | following :: _ =>
        if isBlank following then
          [character] :: words rest
        else
          match words rest with
          | [] => [[character]]
          | word :: others => (character :: word) :: others

/-- The pieces of a text between the occurrences of a separator; never empty. -/
def fields (separator : Char) : Text → List Text
  | [] => [[]]
  | character :: rest =>
    if character = separator then
      [] :: fields separator rest
    else
      match fields separator rest with
      | [] => [[character]]
      | field :: others => (character :: field) :: others

/-- Pieces one after the other, with a separator in between. -/
def joined (separator : Text) (pieces : List Text) : Text :=
  List.intercalate separator pieces

/-- A line without the carriage return that ends it. -/
def withoutReturn (line : Text) : Text :=
  if line.getLast? = some '\r' then line.dropLast else line

/--
The lines of a text.  A line ends at a line feed, which may follow a carriage return; what comes
after the last line feed is a line if it is not empty, and keeps a carriage return that ends it.
-/
def lines (text : Text) : List Text :=
  let pieces := fields '\n' text
  let last := pieces.getLast?.getD []
  pieces.dropLast.map withoutReturn ++ (if last.isEmpty then [] else [last])

/-- Whether a text has another as a part without gaps. -/
def occursIn (part : Text) : Text → Bool
  | [] => part.isEmpty
  | text@(_ :: rest) => part.isPrefixOf text || occursIn part rest

/-! ## Sizes in octets -/

/-- Number of octets that a text takes in UTF-8. -/
def octetSize : Text → Nat
  | [] => 0
  | character :: rest => character.utf8Size + octetSize rest

/--
The head of a text that takes `offset` octets in UTF-8 and the tail after it.  There is none
when the offset lies beyond the end or inside a character.
-/
def splitAtOctet? : Text → (offset : Nat) → Option (Text × Text)
  | text, 0 => some ([], text)
  | [], _ + 1 => none
  | character :: rest, offset@(_ + 1) =>
    if character.utf8Size ≤ offset then
      (splitAtOctet? rest (offset - character.utf8Size)).map
        fun halves => (character :: halves.1, halves.2)
    else
      none

/-! ## Quotation -/

/-- A text between single quotes, as messages show it. -/
def quoted (text : Text) : String :=
  "'" ++ String.ofList text ++ "'"

end Text

end ZoneServices
