import ZoneServices.Json.Value

/-!
# Writing JSON

A value is written on one line without spaces, or spread over lines with two more spaces for
each array and object around.  In strings only quotes, backslashes and the control characters
below the space are escaped.
-/

namespace ZoneServices.Json

/-- A character of a string, escaped if it cannot stand in one. -/
def writeCharacter (character : Char) : Text :=
  match character with
  | '"' => ['\\', '"']
  | '\\' => ['\\', '\\']
  | '\x08' => ['\\', 'b']
  | '\x0c' => ['\\', 'f']
  | '\n' => ['\\', 'n']
  | '\r' => ['\\', 'r']
  | '\t' => ['\\', 't']
  | _ =>
    if character.toNat < 0x20 then
      ['\\', 'u', '0', '0', Text.hexDigit (character.toNat / 16),
        Text.hexDigit (character.toNat % 16)]
    else
      [character]

/-- A string between quotes. -/
def writeString (text : Text) : Text :=
  '"' :: text.flatMap writeCharacter ++ ['"']

/-- A number in decimals, or as it was written. -/
def writeNumber : Number → Text
  | .whole value => Numeral.signed value
  | .other literal => literal

/-- The word of a truth value. -/
def writeBool : Bool → Text
  | true => "true".toList
  | false => "false".toList

/-- The word of the value that is none. -/
def writeNull : Text := "null".toList

mutual

/-- A value in one line, without any spaces. -/
def write : Json → Text
  | .null | .unreadable => writeNull
  | .bool value => writeBool value
  | .number value => writeNumber value
  | .string value => writeString value
  | .array elements => '[' :: writeElements elements ++ [']']
  | .object members => '\x7b' :: writeMembers members ++ ['\x7d']

/-- Elements with commas in between. -/
def writeElements : List Json → Text
  | [] => []
  | [element] => write element
  | element :: following :: rest => write element ++ ',' :: writeElements (following :: rest)

/-- Members with commas in between, each with a colon behind its key. -/
def writeMembers : List (Text × Json) → Text
  | [] => []
  | [(key, value)] => writeString key ++ ':' :: write value
  | (key, value) :: following :: rest =>
    writeString key ++ ':' :: write value ++ ',' :: writeMembers (following :: rest)

end

/-- The start of another line, two spaces further in at each level. -/
def lineStart (level : Nat) : Text :=
  '\n' :: List.replicate (2 * level) ' '

mutual

/-- Written form of a value over lines, inside `level` arrays and objects. -/
def writeLines (level : Nat) : Json → Text
  | .null | .unreadable => writeNull
  | .bool value => writeBool value
  | .number value => writeNumber value
  | .string value => writeString value
  | .array [] => ['[', ']']
  | .array (element :: rest) =>
    '[' :: lineStart (level + 1) ++ writeLines (level + 1) element
      ++ writeElementLines (level + 1) rest ++ lineStart level ++ [']']
  | .object [] => ['\x7b', '\x7d']
  | .object ((key, value) :: rest) =>
    '\x7b' :: lineStart (level + 1) ++ writeString key ++ ':' :: ' ' :: writeLines (level + 1) value
      ++ writeMemberLines (level + 1) rest ++ lineStart level ++ ['\x7d']

/-- Written form over lines of the elements of an array after its first one. -/
def writeElementLines (level : Nat) : List Json → Text
  | [] => []
  | element :: rest =>
    ',' :: lineStart level ++ writeLines level element ++ writeElementLines level rest

/-- Written form over lines of the members of an object after its first one. -/
def writeMemberLines (level : Nat) : List (Text × Json) → Text
  | [] => []
  | (key, value) :: rest =>
    ',' :: lineStart level ++ writeString key ++ ':' :: ' ' :: writeLines level value
      ++ writeMemberLines level rest

end

/-- A value over lines, with its parts set in. -/
def pretty (value : Json) : Text :=
  writeLines 0 value

end ZoneServices.Json
