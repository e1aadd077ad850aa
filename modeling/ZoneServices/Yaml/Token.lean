import ZoneServices.Yaml.Property
import ZoneServices.Yaml.Scalar

/-!
# Tokens of YAML texts

A YAML text is cut into tokens in one walk.  Flow collections show where they start and end;
block collections are told by the columns of their lines, and the walk adds tokens where one
starts or ends.

A key is only known as one when a colon follows it.  The walk therefore remembers where one may
have started, in each of the flow collections around it, and puts a token there when it comes to
the colon.  A key has to stand on one line and must not be too long; where the line of a block
mapping starts, there has to be one.
-/

namespace ZoneServices.Yaml

/-- A token of a YAML text. -/
inductive Token where
  | directive (value : Directive)
  | documentStart
  | documentEnd
  | blockSequence
  | blockMapping
  | blockEnd
  | flowStart (isMapping : Bool)
  | flowEnd (isMapping : Bool)
  | dash
  | comma
  | key
  | colon
  | anchor (name : Text)
  | alias (name : Text)
  | tag (tag : Tag)
  | scalar (style : ScalarStyle) (text : Text)
deriving DecidableEq, Repr

/-- Where a key may have started. -/
structure KeyStart where
  /-- Whether there has to be a key. -/
  isRequired : Bool
  /-- How many tokens stand before it. -/
  position : Nat
  place : Place
deriving DecidableEq, Repr

/-- A walk over a YAML text. -/
structure Walk where
  rest : Text
  place : Place := {}
  tokens : List Token := []
  /-- The columns of the block collections around the place, the innermost first. -/
  indents : List Nat := []
  /-- Where a key may have started in each flow collection around the place, innermost first. -/
  flows : List (Option KeyStart) := []
  /-- Where a key may have started outside the flow collections. -/
  blockKey : Option KeyStart := none
  /-- Whether a key may start here. -/
  mayStartKey : Bool := true
deriving Repr

namespace Walk

/-! ## Parts of a step -/

/-- Whether the walk is inside a flow collection. -/
def inFlow (walk : Walk) : Bool :=
  !walk.flows.isEmpty

/-- The walk with another token. -/
def emit (walk : Walk) (token : Token) : Walk :=
  { walk with tokens := token :: walk.tokens }

/-- The walk with another token before those that follow a position. -/
def emitAt (walk : Walk) (position : Nat) (token : Token) : Walk :=
  let count := walk.tokens.length - position
  { walk with tokens := walk.tokens.take count ++ token :: walk.tokens.drop count }

/-- The walk after what stands before `rest`. -/
def moveTo (walk : Walk) (rest : Text) : Walk :=
  { walk with rest, place := walk.place.afterTaking walk.rest rest }

/-- The walk after `count` characters. -/
def move (walk : Walk) (count : Nat) : Walk :=
  walk.moveTo (walk.rest.drop count)

/-- Where a key may have started in the innermost flow collection, or outside of all. -/
def keyStart (walk : Walk) : Option KeyStart :=
  walk.flows.head?.getD walk.blockKey

/-- Remembers where a key may have started, in the innermost collection. -/
def setKeyStart (walk : Walk) (start : Option KeyStart) : Walk :=
  match walk.flows with
  | [] => { walk with blockKey := start }
  | _ :: outer => { walk with flows := start :: outer }

/-- Number of characters that a key can take. -/
def keyLimit : Nat := 1024

/-- Whether a key that started here may still end at a place. -/
def KeyStart.isOpenAt (start : KeyStart) (place : Place) : Bool :=
  start.place.line == place.line && place.column ≤ start.place.column + keyLimit

/-- A place where a key may have started, if the key may still go on; none if it has to. -/
def keepOpen? (place : Place) : Option KeyStart → Option (Option KeyStart)
  | none => some none
  | some start =>
    if KeyStart.isOpenAt start place then some (some start)
    else if start.isRequired then none
    else some none

/-- The walk without the keys that cannot go on any more, if none of them has to be there. -/
def dropStale? (walk : Walk) : Option Walk :=
  match walk.flows.mapM (keepOpen? walk.place), keepOpen? walk.place walk.blockKey with
  | some flows, some blockKey => some { walk with flows, blockKey }
  | _, _ => none

/-- The walk without a key under way, if there need not be one. -/
def dropKey? (walk : Walk) : Option Walk :=
  if walk.keyStart.any (·.isRequired) then none else some (walk.setKeyStart none)

/-- Remembers that a key may start here, if one may. -/
def startKey? (walk : Walk) : Option Walk :=
  if walk.mayStartKey then
    walk.dropKey?.map fun dropped =>
      dropped.setKeyStart <| some
        { isRequired := !walk.inFlow && walk.indents.head? == some walk.place.column
          position := walk.tokens.length
          place := walk.place }
  else
    some walk

/-- The walk with the block collections ended that start behind a column. -/
def endBlocks (walk : Walk) (isEnded : Nat → Bool) : Walk :=
  if walk.inFlow then walk
  else
    let ended := walk.indents.takeWhile isEnded
    { walk with
      indents := walk.indents.dropWhile isEnded
      tokens := List.replicate ended.length .blockEnd ++ walk.tokens }

/-- The walk with a block collection started at a column, if none is there yet. -/
def startBlock (walk : Walk) (column position : Nat) (token : Token) : Walk :=
  if walk.inFlow || walk.indents.head?.any (column ≤ ·) then walk
  else { walk with indents := column :: walk.indents }.emitAt position token

/-! ## Steps -/

/-- The mark that may stand before a line and tells how a text is encoded. -/
def encodingMark : Char := '\uFEFF'

/-- The walk after the spaces, comments and line ends before the next token. -/
def skip (walk : Walk) : Walk :=
  go walk.mayStartKey false walk.place walk.rest
where
  go (mayStartKey isComment : Bool) (place : Place) : Text → Walk
    | [] => { walk with mayStartKey, place, rest := [] }
    | character :: rest =>
      if isBreak character then
        go (mayStartKey || !walk.inFlow) false (place.behind character) rest
      else if isComment || character == ' '
          || (character == '\t' && (walk.inFlow || !mayStartKey)) then
        go mayStartKey isComment (place.behind character) rest
      else if character == '#' then
        go mayStartKey true (place.behind character) rest
      else if character == encodingMark && place.column == 0 then
        go mayStartKey false (place.behind character) rest
      else
        { walk with mayStartKey, place, rest := character :: rest }

/-- Ends all blocks around the walk. -/
def endAll? (walk : Walk) : Option Walk :=
  (walk.endBlocks fun _ => true).dropKey?.map fun walk => { walk with mayStartKey := false }

/-- Reads a directive, which ends all blocks. -/
def readDirective? (walk : Walk) : Option Walk :=
  match Yaml.readDirective? (walk.rest.drop 1), walk.endAll? with
  | some (directive, rest), some walk => some ((walk.emit (.directive directive)).moveTo rest)
  | _, _ => none

/-- Reads a mark of the start or the end of a document, which ends all blocks. -/
def readMark? (walk : Walk) (token : Token) : Option Walk :=
  walk.endAll?.map fun walk => (walk.emit token).move 3

/-- The walk after the start of a flow collection, which may be a key. -/
def readFlowStart? (walk : Walk) (isMapping : Bool) : Option Walk :=
  walk.startKey?.map fun walk =>
    { walk with flows := none :: walk.flows, mayStartKey := true }.emit (.flowStart isMapping)
      |>.move 1

/-- Reads the bracket that ends a flow collection. -/
def readFlowEnd? (walk : Walk) (isMapping : Bool) : Option Walk :=
  walk.dropKey?.map fun walk =>
    { walk with flows := walk.flows.tail, mayStartKey := false }.emit (.flowEnd isMapping)
      |>.move 1

/-- Reads a comma between the items of a flow collection. -/
def readComma? (walk : Walk) : Option Walk :=
  walk.dropKey?.map fun walk => ({ walk with mayStartKey := true }.emit .comma).move 1

/-- Reads the dash of an item, which may start a block sequence. -/
def readDash? (walk : Walk) : Option Walk :=
  if walk.inFlow || walk.mayStartKey then
    (walk.startBlock walk.place.column walk.tokens.length .blockSequence).dropKey?.map fun walk =>
      ({ walk with mayStartKey := true }.emit .dash).move 1
  else
    none

/-- Reads the question mark before a key, which may start a block mapping. -/
def readKeyMark? (walk : Walk) : Option Walk :=
  if walk.inFlow || walk.mayStartKey then
    (walk.startBlock walk.place.column walk.tokens.length .blockMapping).dropKey?.map fun walk =>
      ({ walk with mayStartKey := !walk.inFlow }.emit .key).move 1
  else
    none

/-- Reads the colon before a value; the key before it gets its token now. -/
def readValueMark? (walk : Walk) : Option Walk :=
  match walk.keyStart with
  | some start =>
    let marked := (walk.emitAt start.position .key).startBlock start.place.column start.position
      .blockMapping
    some (({ marked.setKeyStart none with mayStartKey := false }.emit .colon).move 1)
  | none =>
    if walk.inFlow then
      some (({ walk with mayStartKey := false }.emit .colon).move 1)
    else if walk.mayStartKey then
      some ((walk.startBlock walk.place.column walk.tokens.length .blockMapping).emit .colon
        |>.move 1)
    else
      none

/-- The walk after a node or a property of one, which may start a key, with the text behind it. -/
def readPart? (walk : Walk) (reading : Option (Token × Text)) : Option Walk :=
  match reading, walk.startKey? with
  | some (token, rest), some walk =>
    some (({ walk with mayStartKey := false }.emit token).moveTo rest)
  | _, _ => none

/-- Reads a scalar that keeps or folds its lines. -/
def readLines? (walk : Walk) (isFolded : Bool) : Option Walk :=
  match readBlock? isFolded walk.indents.head? (walk.rest.drop 1), walk.dropKey? with
  | some (text, rest), some walk =>
    let style : ScalarStyle := if isFolded then .text else .literal
    some (({ walk with mayStartKey := true }.emit (.scalar style text)).moveTo rest)
  | _, _ => none

/-- Reads a scalar without quotes. -/
def readPlain? (walk : Walk) : Option Walk :=
  let indent := (walk.indents.head?.map (· + 1)).getD 0
  match Yaml.readPlain? walk.inFlow indent walk.rest, walk.startKey? with
  | some reading, some walk =>
    some (({ walk with mayStartKey := reading.isLineEnded }.emit
      (.scalar .plain reading.value)).moveTo reading.rest)
  | _, _ => none

/-- The token of a quoted scalar that was read. -/
def quoted (reading : Option (List QuotedPart × Text)) : Option (Token × Text) :=
  reading.map fun (parts, rest) => (.scalar .text (foldParts (.spaces []) parts), rest)

/-- Reads the token that starts with a character. -/
def readToken? (walk : Walk) (character : Char) (rest : Text) : Option Walk :=
  let isLineStart := walk.place.column == 0
  if isLineStart && character == '%' then walk.readDirective?
  else if isLineStart && (afterMark? '-' walk.rest).isSome then walk.readMark? .documentStart
  else if isLineStart && (afterMark? '.' walk.rest).isSome then walk.readMark? .documentEnd
  else if startsWithMark '-' walk.rest then walk.readDash?
  else if character == '?' && (walk.inFlow || startsApart rest) then walk.readKeyMark?
  else if character == ':' && (walk.inFlow || startsApart rest) then walk.readValueMark?
  else if startsPlain walk.inFlow walk.rest then walk.readPlain?
  else
    match character with
    | '[' => walk.readFlowStart? false
    | '\x7b' => walk.readFlowStart? true
    | ']' => walk.readFlowEnd? false
    | '\x7d' => walk.readFlowEnd? true
    | ',' => walk.readComma?
    | '*' => walk.readPart? ((readName? rest).map fun (name, rest) => (.alias name, rest))
    | '&' => walk.readPart? ((readName? rest).map fun (name, rest) => (.anchor name, rest))
    | '!' =>
      walk.readPart? ((readTag? walk.inFlow rest).map fun (tag, rest) => (.tag tag, rest))
    | '|' => if walk.inFlow then none else walk.readLines? false
    | '>' => if walk.inFlow then none else walk.readLines? true
    | '\'' => walk.readPart? (quoted (readSingle false rest))
    | '"' => walk.readPart? (quoted (readDouble 0 0 false rest))
    | _ => none

/--
The tokens of a text, in reverse, given a walk over its front.  Every token takes a character.
-/
def finish? (walk : Walk) : Option (List Token) :=
  match walk.skip.dropStale? with
  | none => none
  | some ready =>
    match ready.rest with
    | [] => ready.endAll?.map (·.tokens)
    | character :: rest =>
      match (ready.endBlocks (ready.place.column < ·)).readToken? character rest with
      | none => none
      | some next => if next.rest.length < walk.rest.length then finish? next else none
termination_by walk.rest.length

end Walk

/-- The tokens of a text, if it can be cut into tokens. -/
def tokens? (text : Text) : Option (List Token) :=
  ({ rest := text } : Walk).finish?.map List.reverse

end ZoneServices.Yaml
