import ZoneServices.Name.Basic
import ZoneServices.Name.International
import ZoneServices.Text.Number

/-!
# Reading domain names

A written name is cut into labels at its dots.  A backslash takes the character after it into
the label; three octal digits after it stand for the character of that code point, and an escape
that the text ends in adds nothing.  Blanks and control characters are refused unless a
backslash comes before them.

Each label then passes one of two rules.  The ASCII rule keeps a label as it is.  The
internationalized rule writes it in ASCII, as a name in any language, before the ASCII rule has
its say; labels that start with an underscore are left to the ASCII rule alone, because service
names are not written in any language.
-/

namespace ZoneServices.Name

/-! ## Cutting a name into labels -/

/-- Value of an ASCII octal digit. -/
def octalDigit? (character : Char) : Option Nat :=
  (Text.digit? character).filter (· < 8)

/-- How far a reader has come inside a label. -/
inductive Escape where
  | none
  | begun
  | oneDigit (first : Nat)
  | twoDigits (first second : Nat)
deriving DecidableEq, Repr

/-- The labels that a name is written with, given the characters of the current label in reverse. -/
def labelsFrom? : (current : Text) → Escape → Text → Option (List Text)
  | current, _, [] => some (if current.isEmpty then [] else [current.reverse])
  | current, .none, character :: rest =>
    if character = '.' then (labelsFrom? [] .none rest).map (current.reverse :: ·)
    else if character = '\\' then labelsFrom? current .begun rest
    else if Text.isControl character || Text.isBlank character then none
    else labelsFrom? (character :: current) .none rest
  | current, .begun, character :: rest =>
    -- A number starts an octal escape, also one that is no octal digit and ends in a refusal.
    if Text.isNumber character then
      match octalDigit? character with
      | none => none
      | some first => labelsFrom? current (.oneDigit first) rest
    else
      labelsFrom? (character :: current) .none rest
  | current, .oneDigit first, character :: rest =>
    match octalDigit? character with
    | none => none
    | some second => labelsFrom? current (.twoDigits first second) rest
  | current, .twoDigits first second, character :: rest =>
    match octalDigit? character with
    | none => none
    | some third =>
      labelsFrom? (Char.ofNat (first * 64 + second * 8 + third) :: current) .none rest

/-! ## Rules for labels -/

/-- Whether the ASCII rule lets a character into a label; `first` tells that it starts the label. -/
def isSafe (first : Bool) (character : Char) : Bool :=
  showsPlain first character || character == '.'

/-- The label that stands for any labels. -/
def wildcard : Text := ['*']

/-- The ASCII rule: a wildcard, or safe characters up to the size of a label. -/
def asciiLabel? (label : Text) : Option Text :=
  match label with
  | [] => none
  | character :: rest =>
    if label = wildcard || (isSafe true character && rest.all (isSafe false)) then
      if Text.octetSize label ≤ labelLimit then some label else none
    else
      none

/-- Whether no label between two dots is empty, but for one behind the last dot. -/
def hasLabels (text : Text) : Bool :=
  (Text.fields '.' (if Text.endsWithDot text then text.dropLast else text)).all (!·.isEmpty)

/-- The internationalized rule: a label written in ASCII, which then has to pass the ASCII rule. -/
def internationalLabel? (label : Text) : Option Text :=
  if label = wildcard || label.head? == some '_' then asciiLabel? label
  else
    match toAscii? (fun character => !isAlphanumeric character && character != '-') label with
    | none => none
    | some written => if hasLabels written then asciiLabel? written else none

/-! ## Names -/

/-- The name that a text writes, each label of which passes a rule. -/
def readWith? (rule : Text → Option Text) (text : Text) : Option Name :=
  if text = ['.'] then some root
  else
    match (labelsFrom? [] .none text).bind (·.mapM rule) with
    | none => none
    | some labels =>
      if size labels ≤ sizeLimit then some ⟨labels, Text.endsWithDot text⟩ else none

/-- The name that a text writes by the ASCII rule. -/
def readAscii? (text : Text) : Option Name :=
  readWith? asciiLabel? text

/-- The name that a text writes by the internationalized rule. -/
def readInternational? (text : Text) : Option Name :=
  readWith? internationalLabel? text

end ZoneServices.Name
