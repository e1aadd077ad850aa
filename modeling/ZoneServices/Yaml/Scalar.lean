import ZoneServices.Yaml.Basic
import ZoneServices.Yaml.Line

/-!
# Scalars in YAML

A scalar stands in single quotes, where a quote is written twice, in double quotes, where a
backslash starts an escape, or without quotes.  All of them may go on over several lines, whose
ends are folded into spaces.

Each reader yields the scalar at the front of a text and the text after it.
-/

namespace ZoneServices.Yaml

/-! ## Quoted scalars -/

/-- A part of a quoted scalar. -/
inductive QuotedPart where
  /-- A character that stays, whether it was escaped or not. -/
  | character (value : Char)
  /-- A space, which goes if the line ends behind it. -/
  | space (value : Char)
  | lineEnd (value : Char)
  /-- The end of a line that a backslash takes away. -/
  | joint
deriving DecidableEq, Repr

/-- What was read, with one more part in front. -/
def partsAfter (part : QuotedPart) (reading : Option (List QuotedPart × Text)) :
    Option (List QuotedPart × Text) :=
  reading.map fun others => (part :: others.1, others.2)

/-- The part that a character makes which has no meaning of its own in quotes. -/
def QuotedPart.of (character : Char) : QuotedPart :=
  if isBreak character then .lineEnd character
  else if isSpace character then .space character
  else .character character

/--
The parts up to the single quote that ends them, and what follows; `isFresh` tells that a line
starts here.
-/
def readSingle : (isFresh : Bool) → Text → Option (List QuotedPart × Text)
  | _, [] => none
  | isFresh, character :: rest =>
    if isFresh && marksDocument (character :: rest) then none
    else if character == '\'' then
      match rest with
      | '\'' :: following => partsAfter (.character '\'') (readSingle false following)
      | _ => some ([], rest)
    else
      partsAfter (.of character) (readSingle (isBreak character) rest)

/-- The character that a letter behind a backslash stands for. -/
def escaped? (character : Char) : Option Char :=
  match character with
  | '0' => some '\x00'
  | 'a' => some '\x07'
  | 'b' => some '\x08'
  | 't' | '\t' => some '\t'
  | 'n' => some '\n'
  | 'v' => some '\x0b'
  | 'f' => some '\x0c'
  | 'r' => some '\r'
  | 'e' => some '\x1b'
  | ' ' | '"' | '/' | '\\' => some character
  | 'N' => some '\u0085'
  | '_' => some '\u00a0'
  | 'L' => some '\u2028'
  | 'P' => some '\u2029'
  | _ => none

/-- Number of hexadecimal digits that follow a character which announces a code point. -/
def codeSize? (character : Char) : Option Nat :=
  match character with
  | 'x' => some 2
  | 'u' => some 4
  | 'U' => some 8
  | _ => none

/-- The character of a code point, if it has one. -/
def ofCodePoint? (value : Nat) : Option Char :=
  if value < 0xD800 || (0xE000 ≤ value && value < 0x110000) then some (Char.ofNat value) else none

/--
The parts up to the double quote that ends them, and what follows, when so many digits of a code
point are still to come and those before them have a value.
-/
def readDouble : (digits value : Nat) → (isFresh : Bool) → Text →
    Option (List QuotedPart × Text)
  | _, _, _, [] => none
  | digits + 1, value, _, character :: rest =>
    match Text.hexDigit? character with
    | none => none
    | some digit =>
      let value := value * 16 + digit
      if digits == 0 then
        match ofCodePoint? value with
        | some character => partsAfter (.character character) (readDouble 0 0 false rest)
        | none => none
      else
        readDouble digits value false rest
  | 0, _, isFresh, character :: rest =>
    if isFresh && marksDocument (character :: rest) then none
    else if character == '"' then some ([], rest)
    else if character == '\\' then
      match rest with
      | [] => none
      | escape :: following =>
        if isBreak escape then partsAfter .joint (readDouble 0 0 true following)
        else
          match codeSize? escape, escaped? escape with
          | some size, _ => readDouble size 0 false following
          | none, some character =>
            partsAfter (.character character) (readDouble 0 0 false following)
          | none, none => none
    else
      partsAfter (.of character) (readDouble 0 0 (isBreak character) rest)

/-- What stands between two characters of a quoted scalar that stay. -/
inductive QuotedGap where
  | spaces (text : Text)
  /-- Ends of lines, in reverse; the first one may have been taken away. -/
  | lineEnds (isJoined : Bool) (text : Text)

/-- What a gap between two characters comes to; line ends are folded. -/
def QuotedGap.folded : QuotedGap → Text
  | .spaces text => text.reverse
  | .lineEnds true text => text.reverse
  | .lineEnds false text => foldBreaks text.reverse

/-- The text of a quoted scalar behind a gap. -/
def foldParts : (gap : QuotedGap) → List QuotedPart → Text
  | gap, [] => gap.folded
  | gap, .character value :: parts => gap.folded ++ value :: foldParts (.spaces []) parts
  | .spaces text, .space value :: parts => foldParts (.spaces (value :: text)) parts
  | .lineEnds isJoined text, .space _ :: parts => foldParts (.lineEnds isJoined text) parts
  | .spaces _, .lineEnd value :: parts => foldParts (.lineEnds false [value]) parts
  | .lineEnds isJoined text, .lineEnd value :: parts =>
    foldParts (.lineEnds isJoined (value :: text)) parts
  | gap, .joint :: parts => gap.folded ++ foldParts (.lineEnds true []) parts

/-! ## Plain scalars -/

/-- Whether a character belongs to a flow collection. -/
def isFlowIndicator (character : Char) : Bool :=
  character == ',' || character == '[' || character == ']' || character == '\x7b'
    || character == '\x7d'

/-- Whether no scalar without quotes starts with a character, wherever it stands. -/
def isIndicator (character : Char) : Bool :=
  isFlowIndicator character || character == '#' || character == '&' || character == '*'
    || character == '!' || character == '|' || character == '>' || character == '\''
    || character == '"' || character == '%' || character == '@' || character == '\x60'

/-- Whether a scalar without quotes starts at the front of a text. -/
def startsPlain (inFlow : Bool) : Text → Bool
  | [] => false
  | character :: rest =>
    if isSpace character || isBreak character || isIndicator character then false
    else if character == '-' then !rest.head?.any isSpace
    else if character == '?' || character == ':' then !inFlow && !startsApart rest
    else true

/--
The characters up to a space or to what ends a scalar without quotes: a colon that stands apart
or, between flow brackets, a character with a meaning there.  A colon must not stand before such
a character.
-/
def takeWord? (inFlow : Bool) : Text → Option (Text × Text)
  | [] => some ([], [])
  | character :: rest =>
    if isSpace character || isBreak character then some ([], character :: rest)
    else if inFlow && character == ':'
        && rest.head?.any (fun next => isFlowIndicator next || next == '?') then
      none
    else if (character == ':' && startsApart rest) || (inFlow && isFlowIndicator character) then
      some ([], character :: rest)
    else
      (takeWord? inFlow rest).map fun others => (character :: others.1, others.2)

/--
What stands between two words of a scalar: spaces of one line, or ends of lines and the column
that the last of these lines goes on at.
-/
structure WordGap where
  spaces : Text := []
  lineEnds : Text := []
  column : Option Nat := none
deriving DecidableEq, Repr

/-- What a gap between two words comes to; spaces do not matter beside line ends. -/
def WordGap.folded (gap : WordGap) : Text :=
  if gap.lineEnds.isEmpty then gap.spaces else foldBreaks gap.lineEnds

/--
The gap at the front of a text, and what follows; `column` is given once a line has ended.  A tab
must not stand before the column from which a scalar has to be indented.
-/
def takeGap? (indent : Nat) : (column : Option Nat) → Text → Option (WordGap × Text)
  | column, [] => some ({ column }, [])
  | column, character :: rest =>
    if isBreak character then
      (takeGap? indent (some 0) rest).map fun others =>
        ({ others.1 with lineEnds := character :: others.1.lineEnds }, others.2)
    else if isSpace character then
      match column with
      | none =>
        (takeGap? indent none rest).map fun others =>
          ({ others.1 with spaces := character :: others.1.spaces }, others.2)
      | some reached =>
        if character == '\t' && reached < indent then none
        else takeGap? indent (some (reached + 1)) rest
    else
      some ({ column }, character :: rest)

/-- A scalar without quotes, what follows it, and whether a line has ended behind it. -/
structure PlainReading where
  value : Text
  rest : Text
  isLineEnded : Bool
deriving DecidableEq, Repr

/--
The scalar without quotes that goes on with a text behind a gap.  Unless it stands between flow
brackets, its lines have to be indented.
-/
def readPlainFrom? (inFlow : Bool) (indent : Nat) (value : Text) (gap : WordGap) (text : Text) :
    Option PlainReading :=
  let ended : PlainReading := ⟨value, text, gap.column.isSome⟩
  if (gap.column == some 0 && marksDocument text) || text.head? == some '#' then some ended
  else
    match takeWord? inFlow text with
    | none => none
    | some ([], _) => some ended
    | some (word, following) =>
      let value := value ++ gap.folded ++ word
      match takeGap? indent none following with
      | none => none
      | some (gap, rest) =>
        if rest.length = following.length then some ⟨value, following, false⟩
        else if !inFlow && gap.column.any (· < indent) then some ⟨value, rest, true⟩
        else if rest.length < text.length then readPlainFrom? inFlow indent value gap rest
        else none
termination_by text.length

/-- The scalar without quotes at the front of a text. -/
def readPlain? (inFlow : Bool) (indent : Nat) (text : Text) : Option PlainReading :=
  readPlainFrom? inFlow indent [] {} text

end ZoneServices.Yaml
