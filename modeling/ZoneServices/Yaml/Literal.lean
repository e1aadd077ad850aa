import ZoneServices.Yaml.Line

/-!
# Scalars that keep their lines

A scalar can be a block of indented lines.  A bar before it keeps the ends of the lines, and a
greater-than sign folds those between two lines that are not indented further.  Behind either
sign a digit can tell the indentation, a plus sign keeps the line ends after the block, and a
minus sign drops even the first of them.
-/

namespace ZoneServices.Yaml

/-- What happens to the line ends after a block. -/
inductive Chomping where
  /-- One is kept. -/
  | clip
  /-- None is kept. -/
  | strip
  /-- All are kept. -/
  | keep
deriving DecidableEq, Repr

/-- What the line before a block says about it. -/
structure BlockHeader where
  isFolded : Bool
  chomping : Chomping := .clip
  increment : Option Nat := none
deriving DecidableEq, Repr

/-- What a sign says about the line ends after the block. -/
def chomping? (character : Char) : Option Chomping :=
  match character with
  | '+' => some .keep
  | '-' => some .strip
  | _ => none

/-- The indentation that a digit tells, which is not zero. -/
def increment? (character : Char) : Option Nat :=
  (Text.digit? character).filter (0 < ·)

/-- A header with what the text behind its sign says, and what follows on the line. -/
def BlockHeader.read (header : BlockHeader) (text : Text) : BlockHeader × Text :=
  match text with
  | [] => (header, [])
  | first :: rest =>
    let second := rest.head?
    match chomping? first, increment? first with
    | some chomping, _ =>
      match second.bind increment? with
      | some increment => ({ header with chomping, increment := some increment }, rest.drop 1)
      | none => ({ header with chomping }, rest)
    | none, some increment =>
      match second.bind chomping? with
      | some chomping => ({ header with chomping, increment := some increment }, rest.drop 1)
      | none => ({ header with increment := some increment }, rest)
    | none, none => (header, text)

/-- What follows the spaces and the comment at the front of a text, if the line ends there. -/
def afterComment? (text : Text) : Option Text :=
  let following := text.dropWhile isSpace
  let following :=
    if following.head? == some '#' then following.dropWhile (!isBreak ·) else following
  match following with
  | [] => some []
  | character :: rest => if isBreak character then some rest else none

/-- What stands before the first character of a line of a block that is not empty. -/
structure Indentation where
  lineEnds : Text
  column : Nat
  deepest : Nat
  rest : Text
deriving DecidableEq, Repr

/--
The indentation at the front of a text, up to a column if there is one to keep to; a tab must not
take part in it.
-/
def readIndentation? (indent : Option Nat) : (column deepest : Nat) → Text → Option Indentation
  | column, deepest, [] => some ⟨[], column, max deepest column, []⟩
  | column, deepest, character :: rest =>
    let isUnder := indent.all (column < ·)
    if isUnder && character == ' ' then readIndentation? indent (column + 1) deepest rest
    else if isUnder && character == '\t' then none
    else if isBreak character then
      (readIndentation? indent 0 (max deepest column) rest).map fun found =>
        { found with lineEnds := character :: found.lineEnds }
    else
      some ⟨[], column, max deepest column, character :: rest⟩

/-- What a line of a block leaves behind: the end of the line, and whether it was indented. -/
structure LineBefore where
  lineEnd : Text := []
  isIndented : Bool := false
deriving DecidableEq, Repr

/-- The line ends between two lines of a block. -/
def between (isFolded : Bool) (before : LineBefore) (lineEnds : Text) (isIndented : Bool) : Text :=
  if isFolded && before.lineEnd == ['\n'] && !before.isIndented && !isIndented then
    (if lineEnds.isEmpty then [' '] else []) ++ lineEnds
  else
    before.lineEnd ++ lineEnds

/-- The rest of a block whose lines start at a column, and the text after it. -/
def readLines? (header : BlockHeader) (indent : Nat) (before : LineBefore)
    (place : Indentation) : Option (Text × Text) :=
  match place.rest with
  | [] => some (ending, [])
  | character :: _ =>
    if place.column ≠ indent then some (ending, place.rest)
    else
      let line := place.rest.takeWhile (!isBreak ·)
      let following := place.rest.dropWhile (!isBreak ·)
      let lineEnd := following.take 1
      match readIndentation? (some indent) 0 0 (following.drop 1) with
      | none => none
      | some next =>
        if next.rest.length < place.rest.length then
          (readLines? header indent ⟨lineEnd, isSpace character⟩ next).map fun others =>
            (between header.isFolded before place.lineEnds (isSpace character) ++ line ++ others.1,
              others.2)
        else
          none
termination_by place.rest.length
where
  ending : Text :=
    match header.chomping with
    | .strip => []
    | .clip => before.lineEnd
    | .keep => before.lineEnd ++ place.lineEnds

/--
The block whose sign stands before a text, and the text after it; `outer` is the column of the
collection around it.
-/
def readBlock? (isFolded : Bool) (outer : Option Nat) (text : Text) : Option (Text × Text) :=
  let (header, following) := ({ isFolded } : BlockHeader).read text
  match afterComment? following with
  | none => none
  | some lines =>
    let indent := header.increment.map (outer.getD 0 + ·)
    match readIndentation? indent 0 0 lines with
    | none => none
    | some place =>
      let least := max ((outer.map (· + 1)).getD 0) 1
      readLines? header (indent.getD (max place.deepest least)) {} place

end ZoneServices.Yaml
