import ZoneServices.Yaml.Literal
import ZoneServices.Text.Numeral

/-!
# Anchors, tags and directives

An anchor gives a node a name, by which an alias repeats it.  A tag tells what a node is; it may
start with a handle, which has to be known.  Directives stand before a document and tell the
version of YAML and further handles.
-/

namespace ZoneServices.Yaml

/-- Whether a character may stand in an anchor. -/
def isNameCharacter (character : Char) : Bool :=
  character.isAlphanum || character == '_' || character == '-'

/-- The name of an anchor or an alias at the front of a text, and what follows. -/
def readName? (text : Text) : Option (Text × Text) :=
  let name := text.takeWhile isNameCharacter
  let rest := text.dropWhile isNameCharacter
  if !name.isEmpty && (startsApart rest || rest.head?.any "?:,]\x7d%@\x60".toList.contains) then
    some (name, rest)
  else
    none

/-! ## Tags -/

/-- Whether a character may stand in a tag; between angle brackets more of them may. -/
def isTagCharacter (isVerbatim : Bool) (character : Char) : Bool :=
  isNameCharacter character || ";/?:@&=+$.!~*'()".toList.contains character
    || (isVerbatim && ",[]".toList.contains character)

/-- Number of octets that follow an octet which starts a character. -/
def octetsBehind? (octet : Nat) : Option Nat :=
  if octet < 0x80 then some 0
  else if octet < 0xC0 then none
  else if octet < 0xE0 then some 1
  else if octet < 0xF0 then some 2
  else if octet < 0xF8 then some 3
  else none

/--
Number of octets that have to follow an octet, when so many had to follow the one before; none if
it does not fit there.
-/
def octetsAfter? (pending octet : Nat) : Option Nat :=
  if pending = 0 then octetsBehind? octet
  else if 0x80 ≤ octet && octet < 0xC0 then some (pending - 1)
  else none

/--
The text of a tag at the front of a text, and what follows, when so many octets of a character
are still to come.  A percent sign and two hexadecimal digits write an octet, which counts as the
character of that code.
-/
def takeTag? (isVerbatim : Bool) : (pending : Nat) → Text → Option (Text × Text)
  | pending, [] => if pending = 0 then some ([], []) else none
  | pending, character :: rest =>
    if character == '%' then
      match rest with
      | first :: second :: following =>
        match Text.hexDigit? first, Text.hexDigit? second with
        | some high, some low =>
          match octetsAfter? pending (high * 16 + low) with
          | some pending =>
            (takeTag? isVerbatim pending following).map fun others =>
              (Char.ofNat (high * 16 + low) :: others.1, others.2)
          | none => none
        | _, _ => none
      | _ => none
    else if pending ≠ 0 then none
    else if isTagCharacter isVerbatim character then
      (takeTag? isVerbatim 0 rest).map fun others => (character :: others.1, others.2)
    else
      some ([], character :: rest)

/-- The text of a tag at the front of a text, which is not empty, and what is left behind it. -/
def readTagText? (isVerbatim : Bool) (text : Text) : Option (Text × Text) :=
  (takeTag? isVerbatim 0 text).filter fun tag => !tag.1.isEmpty

/-- A tag: a text behind a handle, or a text of its own if the handle is empty. -/
structure Tag where
  handle : Text
  suffix : Text
deriving DecidableEq, Repr

/-- The handle between exclamation marks of which the first one stands before a text. -/
def readHandle? (text : Text) : Option (Text × Text) :=
  match text.dropWhile isNameCharacter with
  | '!' :: rest => some ('!' :: text.takeWhile isNameCharacter ++ ['!'], rest)
  | _ => none

/-- The tag whose exclamation mark stands before a text, and what follows the tag. -/
def readTag? (inFlow : Bool) (text : Text) : Option (Tag × Text) :=
  let reading : Option (Tag × Text) :=
    match text with
    | '<' :: verbatim =>
      match readTagText? true verbatim with
      | some (suffix, '>' :: rest) => some (⟨[], suffix⟩, rest)
      | _ => none
    | _ =>
      match readHandle? text with
      | some (handle, following) =>
        (readTagText? false following).map fun (suffix, rest) => (⟨handle, suffix⟩, rest)
      | none =>
        (takeTag? false 0 text).map fun (suffix, rest) =>
          (if suffix.isEmpty then ⟨[], ['!']⟩ else ⟨['!'], suffix⟩, rest)
  reading.filter fun found => startsApart found.2 || (inFlow && found.2.head? == some ',')

/-- The full text of a tag, given what the known handles stand for. -/
def Tag.resolve? (tag : Tag) (handles : List (Text × Text)) : Option Text :=
  if tag.handle.isEmpty then some tag.suffix
  else (handles.lookup tag.handle).map (· ++ tag.suffix)

/-! ## Directives -/

/-- What a directive tells. -/
inductive Directive where
  /-- The version of YAML, and whether it is one that is read. -/
  | version (isKnown : Bool)
  /-- A handle that tags may start with, and what it stands for. -/
  | handle (name meaning : Text)
deriving DecidableEq, Repr

/-- A number of at most nine digits at the front of a text, and what is left behind it. -/
def readVersionNumber? (text : Text) : Option (Nat × Text) :=
  let digits := text.takeWhile Char.isDigit
  if digits.length ≤ 9 then
    (Numeral.natural? digits).map fun number => (number, text.dropWhile Char.isDigit)
  else
    none

/-- The version of YAML that a text starts with, and what follows. -/
def readVersion? (text : Text) : Option (Directive × Text) :=
  match readVersionNumber? text with
  | some (major, '.' :: rest) =>
    (readVersionNumber? rest).map fun (minor, following) =>
      (.version (major == 1 && (minor == 1 || minor == 2)), following)
  | _ => none

/-- The handle that a text starts with and the prefix that it stands for, and what follows. -/
def readHandleDirective? (text : Text) : Option (Directive × Text) :=
  match text with
  | '!' :: rest =>
    let (handle, following) := (readHandle? rest).getD (['!'], rest)
    if following.head?.any isSpace then
      match readTagText? true (following.dropWhile isSpace) with
      | some (meaning, others) =>
        if startsApart others then some (.handle handle meaning, others) else none
      | none => none
    else
      none
  | _ => none

/-- The directive whose percent sign stands before a text, and the text after its line. -/
def readDirective? (text : Text) : Option (Directive × Text) :=
  let name := text.takeWhile isNameCharacter
  let rest := text.dropWhile isNameCharacter
  let reading : Option (Directive × Text) :=
    if !startsApart rest then none
    else if name == "YAML".toList then readVersion? (rest.dropWhile isSpace)
    else if name == "TAG".toList then readHandleDirective? (rest.dropWhile isSpace)
    else none
  match reading with
  | some (directive, following) =>
    (afterComment? following).map fun lines => (directive, lines)
  | none => none

end ZoneServices.Yaml
