import ZoneServices.Text.Basic

/-!
# Owner names

Records and services are filed under owner names kept as they were written.  An owner name is
absolute when it ends with a dot; inside a zone it may also be relative to the origin of the
zone, the empty text and `@` standing for the origin itself.

The operations here take a name from one form to the other: `relativeTo` gives what stands
before the origin, and `resolve` puts the origin back.  A name outside the zone stays absolute
under both.
-/

namespace ZoneServices.Owner

/-- Stands for the origin of a zone in a relative name. -/
def apex : Text := ['@']

/-- A name with a dot at its end. -/
def qualified (name : Text) : Text :=
  if Text.endsWithDot name then name else name ++ ['.']

/-- Whether the last of some parts makes a joined name absolute. -/
def isAbsoluteLast (parts : List Text) : Bool :=
  match parts.getLast? with
  | some part => 1 < part.length && Text.endsWithDot part
  | none => false

/--
The parts of a name joined by dots, without those that are empty or stand for the origin.  The
result is absolute when the last part is.
-/
def join (parts : List Text) : Text :=
  let kept := (parts.map Text.trimDots).filter fun part => !part.isEmpty && part != apex
  let joined := Text.joined ['.'] kept
  if isAbsoluteLast parts && !joined.isEmpty then qualified joined else joined

/--
A name relative to an origin, letter case aside: empty for the origin itself, the part before
the origin for a name below it, and the absolute name for any other.
-/
def relativeTo (name origin : Text) : Text :=
  let name := Text.trimEndDots name
  let origin := Text.trimEndDots origin
  if origin.isEmpty then
    name
  else if Text.sameFolded name origin then
    []
  else
    -- A name no longer than the origin is cut at zero: nothing stands in front, so it is outside.
    match Text.splitAtOctet? name (Text.octetSize name - Text.octetSize origin) with
    | none => qualified name
    | some (head, tail) =>
      if 1 < head.length && Text.sameFolded tail origin && Text.endsWithDot head then
        Text.trimEndDots head
      else
        qualified name

/-- The absolute form of a name below an origin. -/
def resolve (name origin : Text) : Text :=
  let name := Text.trim name
  if name.isEmpty || name = apex then
    qualified origin
  else if Text.endsWithDot name then
    name
  else
    let origin := Text.trimEndDots origin
    if origin.isEmpty then qualified name else name ++ '.' :: qualified origin

end ZoneServices.Owner
