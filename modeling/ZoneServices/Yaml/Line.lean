import ZoneServices.Text.Basic

/-!
# Lines of YAML texts

What a YAML text says depends on its lines and on the columns that things start at.  A line ends
at a line feed, or at one of the two separators that Unicode has for lines and paragraphs; the
other ways to end a line are turned into line feeds before anything is read.

Three dashes or three dots at the start of a line mark the start or the end of a document.
-/

namespace ZoneServices.Yaml

/-! ## Characters -/

/-- Whether a character may occur in a document. -/
def isAllowed (character : Char) : Bool :=
  let point := character.toNat
  point == 0x09 || point == 0x0A || point == 0x0D || (0x20 ≤ point && point ≤ 0x7E)
    || point == 0x85 || (0xA0 ≤ point && point ≤ 0xFFFD) || 0x10000 ≤ point

/-- Whether a character ends a line. -/
def isBreak (character : Char) : Bool :=
  character == '\n' || character == '\u2028' || character == '\u2029'

/-- Whether a character is a space or a tab. -/
def isSpace (character : Char) : Bool :=
  character == ' ' || character == '\t'

/-- Whether a text is at its end, at the end of a line, or at a space. -/
def startsApart : Text → Bool
  | [] => true
  | character :: _ => isSpace character || isBreak character

/-- Whether a text starts with a character that stands apart from what follows it. -/
def startsWithMark (mark : Char) : Text → Bool
  | [] => false
  | character :: rest => character == mark && startsApart rest

/-- A text in which the ends of lines that are not peculiar to Unicode are line feeds. -/
def withLineFeeds : Text → Text
  | [] => []
  | '\r' :: '\n' :: rest => '\n' :: withLineFeeds rest
  | character :: rest =>
    (if character == '\r' || character == '\u0085' then '\n' else character)
      :: withLineFeeds rest

/-! ## Places -/

/-- Where a character stands. -/
structure Place where
  line : Nat := 0
  column : Nat := 0
deriving DecidableEq, Repr

/-- The place behind a character. -/
def Place.behind (place : Place) (character : Char) : Place :=
  if isBreak character then ⟨place.line + 1, 0⟩ else ⟨place.line, place.column + 1⟩

/-- The place behind what has been taken from the front of a text, given what is left of it. -/
def Place.afterTaking (place : Place) (text rest : Text) : Place :=
  (text.take (text.length - rest.length)).foldl Place.behind place

/-! ## Marks of documents -/

/-- What follows three equal characters at the front of a text, if it stands apart from them. -/
def afterMark? (mark : Char) : Text → Option Text
  | first :: second :: third :: rest =>
    if first == mark && second == mark && third == mark && startsApart rest then some rest else none
  | _ => none

/-- Whether a line that starts with a text marks the start or the end of a document. -/
def marksDocument (text : Text) : Bool :=
  (afterMark? '-' text).isSome || (afterMark? '.' text).isSome

/-! ## Folding -/

/--
What the ends of lines between two parts of a scalar become: a single line feed becomes a space,
and of several the first one goes.
-/
def foldBreaks : Text → Text
  | [] => []
  | '\n' :: [] => [' ']
  | '\n' :: others => others
  | others => others

end ZoneServices.Yaml
