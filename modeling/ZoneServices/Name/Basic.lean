import ZoneServices.Text.Basic

/-!
# Domain names

A domain name is its labels, from the leftmost one on, and whether it is absolute.  The root is
the absolute name without labels; the relative name without labels is written as the empty text.

A written name puts a backslash before a character that a label cannot show as it stands, a dot
above all, so that the dots left over are exactly those between labels.
-/

namespace ZoneServices

/-- A domain name. -/
structure Name where
  labels : List Text
  /-- Whether the name starts at the root. -/
  absolute : Bool
deriving DecidableEq, Repr

namespace Name

/-- The absolute name without labels. -/
def root : Name := ⟨[], true⟩

/-- Number of octets that a label can have. -/
def labelLimit : Nat := 63

/-- Longest size of a name in octets, one being counted for each label beside its characters. -/
def sizeLimit : Nat := 255

/-- Number of octets that labels take in a message, where each is preceded by its size. -/
def size : List Text → Nat
  | [] => 0
  | label :: rest => Text.octetSize label + 1 + size rest

/-- Whether a character is an ASCII letter or digit. -/
def isAlphanumeric (character : Char) : Bool :=
  character.isAlpha || character.isDigit

/--
Whether a label shows a character as it stands; `first` tells that the character starts the
label.
-/
def showsPlain (first : Bool) (character : Char) : Bool :=
  isAlphanumeric character || character == '_'
    || (character == '*' && first) || (character == '-' && !first)

/-- A character of a label, behind a backslash unless it is shown as it stands. -/
def writeCharacter (first : Bool) (character : Char) : Text :=
  if showsPlain first character then [character] else ['\\', character]

/-- The written form of a label, whose first character has a rule of its own. -/
def writeLabel : Text → Text
  | [] => []
  | character :: rest => writeCharacter true character ++ rest.flatMap (writeCharacter false)

/-- The written form of a name, which ends with a dot if the name is absolute. -/
def write (name : Name) : Text :=
  Text.joined ['.'] (name.labels.map writeLabel) ++ (if name.absolute then ['.'] else [])

end Name

end ZoneServices
