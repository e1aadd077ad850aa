import ZoneServices.Yaml.Token

/-!
# Documents in YAML

A text holds at most one document.  Its tokens are read one by one, and each goes to the
innermost collection under way, which knows what it waits for.  A node that was left out counts
as a plain scalar without text wherever the next token tells that it was; some collections end
without a token of their own.

An alias stands for the node that its name was last given to.  Inside that very node it stands
for a collection without entries.
-/

namespace ZoneServices.Yaml

/-- What a YAML text holds. -/
inductive Document where
  | empty
  | node (root : Yaml)
deriving Repr, BEq

/-! ## Collections under way -/

/-- How a collection is written. -/
inductive Layout where
  | blockSequence
  /-- Items behind dashes that are not indented below the key before them. -/
  | dashes
  | blockMapping
  | flowSequence
  | flowMapping
  /-- A mapping with one member between the items of a flow sequence. -/
  | pair
deriving DecidableEq, Repr

/-- Whether a collection that is written in this way is a mapping. -/
def Layout.isMapping : Layout → Bool
  | .blockMapping | .flowMapping | .pair => true
  | .blockSequence | .dashes | .flowSequence => false

/-- What a collection waits for. -/
inductive Stage where
  | entry
  | separator
  | item
  | key
  | colon (key : Yaml)
  | value (key : Yaml)
deriving Repr

/-- A collection that is being read; its entries are in reverse. -/
structure Frame where
  layout : Layout
  stage : Stage
  items : List Yaml := []
  members : List (Yaml × Yaml) := []
  /-- The name that the collection is given, and how many names were given before. -/
  anchor : Option (Text × Nat) := none
deriving Repr

namespace Frame

/-- The node that the collection makes of what was read. -/
def node (frame : Frame) : Yaml :=
  if frame.layout.isMapping then .mapping frame.members.reverse else .sequence frame.items.reverse

/-- Whether a node may follow in the collection. -/
def takesNode (frame : Frame) : Bool :=
  match frame.stage with
  | .item | .key | .value _ => true
  | .entry => frame.layout == .flowSequence || frame.layout == .flowMapping
  | .separator | .colon _ => false

/-- The collection with another node, at the place that it waits for one. -/
def put (frame : Frame) (node : Yaml) : Frame :=
  let next : Stage :=
    match frame.layout with
    | .blockSequence | .dashes | .blockMapping => .entry
    | .flowSequence | .flowMapping | .pair => .separator
  match frame.stage with
  | .key => { frame with stage := .colon node }
  | .value key => { frame with members := (key, node) :: frame.members, stage := next }
  | .item => { frame with items := node :: frame.items, stage := next }
  | .entry =>
    if frame.layout.isMapping then
      { frame with members := (node, missing) :: frame.members, stage := next }
    else
      { frame with items := node :: frame.items, stage := next }
  | .separator | .colon _ => frame

/-- Whether a token tells that the node which a collection waits for was left out. -/
def isLeftOut (frame : Frame) (token : Token) : Bool :=
  match frame.layout, frame.stage, token with
  | .blockSequence, .item, .dash | .blockSequence, .item, .blockEnd => true
  | .dashes, .item, .dash | .dashes, .item, .key | .dashes, .item, .colon
  | .dashes, .item, .blockEnd => true
  | .blockMapping, .key, .key | .blockMapping, .key, .colon | .blockMapping, .key, .blockEnd => true
  | .blockMapping, .value _, .key | .blockMapping, .value _, .colon
  | .blockMapping, .value _, .blockEnd => true
  | .flowMapping, .key, .colon | .flowMapping, .key, .comma
  | .flowMapping, .key, .flowEnd true => true
  | .flowMapping, .value _, .comma | .flowMapping, .value _, .flowEnd true => true
  | .pair, .value _, .comma | .pair, .value _, .flowEnd false => true
  | _, _, _ => false

/-- Whether a collection may end with a bracket, or with its indentation. -/
def mayEnd (frame : Frame) (token : Token) : Bool :=
  match frame.layout, frame.stage, token with
  | .blockSequence, .entry, .blockEnd | .blockMapping, .entry, .blockEnd => true
  | .flowSequence, .entry, .flowEnd false | .flowSequence, .separator, .flowEnd false => true
  | .flowMapping, .entry, .flowEnd true | .flowMapping, .separator, .flowEnd true => true
  | _, _, _ => false

end Frame

/-! ## Reading tokens -/

/-- What stands before a node. -/
structure Properties where
  anchor : Option Text := none
  tag : Option Text := none
deriving DecidableEq, Repr

/-- Whether neither a name nor a tag waits for a node. -/
def Properties.isNone (properties : Properties) : Bool :=
  properties.anchor.isNone && properties.tag.isNone

/-- How far a document has been read. -/
structure Reading where
  /-- The handles that tags may start with, and what they stand for. -/
  handles : List (Text × Text)
  /-- The collections around the place, the innermost first. -/
  frames : List Frame := []
  /-- The node of the document, once it has been read. -/
  root : Option Yaml := none
  properties : Properties := {}
  /-- The nodes that have names, the last one first. -/
  anchors : List (Text × Yaml) := []
deriving Repr

namespace Reading

/-- Gives a name to a node, if there is one to give. -/
def name (reading : Reading) (anchor : Option Text) (node : Yaml) : Reading :=
  match anchor with
  | some name => { reading with anchors := (name, node) :: reading.anchors }
  | none => reading

/-- Puts a node into the innermost collection; a pair is closed once it has its value. -/
def put (reading : Reading) (node : Yaml) : Reading :=
  let reading := { reading with properties := {} }
  match reading.frames with
  | [] => { reading with root := some node }
  | frame :: frames =>
    let filled := frame.put node
    match filled.layout, filled.stage, frames with
    | .pair, .separator, outer :: frames =>
      { reading with frames := outer.put filled.node :: frames }
    | _, _, _ => { reading with frames := filled :: frames }

/-- Puts a scalar with the tag that waits for it, and names it. -/
def putScalar (reading : Reading) (style : ScalarStyle) (text : Text) : Reading :=
  let node : Yaml := .scalar style reading.properties.tag text
  (reading.name reading.properties.anchor node).put node

/-- Puts the node that was left out. -/
def putMissing (reading : Reading) : Reading :=
  reading.putScalar .plain []

/-- Starts a collection; inside of it, its own name stands for one without entries. -/
def start (reading : Reading) (layout : Layout) (stage : Stage) : Reading :=
  let anchor := reading.properties.anchor
  let frame : Frame :=
    { layout, stage, anchor := anchor.map fun name => (name, reading.anchors.length) }
  { reading with frames := frame :: reading.frames, properties := {} }.name anchor frame.node

/-- The nodes that have names, after a collection has ended that was given one. -/
def anchorsAfter (reading : Reading) (frame : Frame) : List (Text × Yaml) :=
  match frame.anchor with
  | some (name, before) =>
    reading.anchors.set (reading.anchors.length - before - 1) (name, frame.node)
  | none => reading.anchors

/-- Closes the innermost collection and puts its node into the one around it. -/
def close (reading : Reading) : Reading :=
  match reading.frames with
  | [] => reading
  | frame :: frames =>
    { reading with frames, anchors := reading.anchorsAfter frame }.put frame.node

/-- Whether a node may follow. -/
def takesNode (reading : Reading) : Bool :=
  match reading.frames with
  | [] => reading.root.isNone
  | frame :: _ => frame.takesNode

/-- Whether dashes may follow that are not indented below the key before them. -/
def takesDashes (reading : Reading) : Bool :=
  match reading.frames with
  | frame :: _ =>
    frame.layout == .blockMapping && match frame.stage with
      | .key | .value _ => true
      | _ => false
  | [] => false

/-- Whether a token starts the node that comes next, or a property of it. -/
def startsNode (reading : Reading) (token : Token) : Bool :=
  match token with
  | .scalar _ _ | .flowStart _ | .blockSequence | .blockMapping => true
  | .alias _ => reading.properties.isNone
  | .anchor _ => reading.properties.anchor.isNone
  | .tag _ => reading.properties.tag.isNone
  | .dash => reading.takesDashes
  | _ => false

/-- The reading with the node before a token put in if it was left out. -/
def fillNode (reading : Reading) (token : Token) : Reading :=
  if reading.takesNode && !reading.startsNode token
      && (!reading.properties.isNone || reading.frames.head?.any (·.isLeftOut token)) then
    reading.putMissing
  else
    reading

/-- Closes such a sequence if no further dash follows. -/
def endDashes (reading : Reading) (token : Token) : Reading :=
  match reading.frames with
  | frame :: _ =>
    match frame.layout, frame.stage, token with
    | .dashes, .entry, .dash => reading
    | .dashes, .entry, _ => reading.close
    | _, _, _ => reading
  | [] => reading

/-- Tells the innermost collection what it waits for. -/
def setStage (reading : Reading) (stage : Stage) : Reading :=
  match reading.frames with
  | [] => reading
  | frame :: frames => { reading with frames := { frame with stage } :: frames }

/-- The reading with the value before a token put in if it was left out with its colon. -/
def fillValue (reading : Reading) (token : Token) : Reading :=
  match reading.frames.head?.map Frame.stage, token with
  | some (.colon _), .colon => reading
  | some (.colon key), _ => (reading.setStage (.value key)).putMissing
  | _, _ => reading

/-- The reading after a token that starts a node, or a property of it. -/
def readNode? (reading : Reading) (token : Token) : Option Reading :=
  match token with
  | .scalar style text => some (reading.putScalar style text)
  | .alias name => (reading.anchors.lookup name).map reading.put
  | .flowStart isMapping =>
    some (reading.start (if isMapping then .flowMapping else .flowSequence) .entry)
  | .blockSequence => some (reading.start .blockSequence .entry)
  | .blockMapping => some (reading.start .blockMapping .entry)
  | .dash => some (reading.start .dashes .item)
  | .anchor name =>
    some { reading with properties := { reading.properties with anchor := some name } }
  | .tag tag =>
    (tag.resolve? reading.handles).map fun text =>
      { reading with properties := { reading.properties with tag := some text } }
  | _ => none

/-- The reading after a token that is no node, given the innermost collection. -/
def readMark? (reading : Reading) (frame : Frame) (token : Token) : Option Reading :=
  match token, frame.layout, frame.stage with
  | .dash, .blockSequence, .entry | .dash, .dashes, .entry => some (reading.setStage .item)
  | .key, .blockMapping, .entry | .key, .flowMapping, .entry => some (reading.setStage .key)
  | .key, .flowSequence, .entry => some (reading.start .pair .key)
  | .colon, _, .colon key => some (reading.setStage (.value key))
  | .colon, .pair, .key | .comma, .pair, .key | .flowEnd false, .pair, .key =>
    some (reading.setStage (.colon missing))
  | .comma, .flowSequence, .separator | .comma, .flowMapping, .separator =>
    some (reading.setStage .entry)
  | _, _, _ => if frame.mayEnd token then some reading.close else none

/-- Takes in one token, unless it fits nowhere. -/
def next? (reading : Reading) (token : Token) : Option Reading :=
  let reading := ((reading.fillNode token).endDashes token).fillValue token
  if reading.takesNode && reading.startsNode token then reading.readNode? token
  else
    match reading.frames with
    | frame :: _ => if reading.properties.isNone then reading.readMark? frame token else none
    | [] => none

/-- The node of the document, once all collections are closed. -/
def finish? (reading : Reading) : Option Yaml :=
  match reading.frames, reading.root with
  | [], some root => some root
  | [], none => if reading.properties.isNone then none else some missing
  | _ :: _, _ => none

end Reading

/-! ## Documents -/

/-- The directive of a token that is one. -/
def Token.directive? : Token → Option Directive
  | .directive found => some found
  | _ => none

/-- The handles that some directives add, if they do not contradict each other. -/
def handlesOf? (directives : List Directive) : Option (List (Text × Text)) :=
  let versions := directives.filterMap fun
    | .version isKnown => some isKnown
    | .handle _ _ => none
  let handles := directives.filterMap fun
    | .handle name meaning => some (name, meaning)
    | .version _ => none
  let names := handles.map Prod.fst
  if versions.length ≤ 1 && versions.all id && names.eraseDups.length == names.length then
    some handles
  else
    none

/-- The handles that are always known, with what they stand for. -/
def commonHandles : List (Text × Text) :=
  [(['!'], ['!']), ("!!".toList, "tag:yaml.org,2002:".toList)]

/-- The node of the tokens between the marks of a document, which may be left out. -/
def nodeOf? (handles : List (Text × Text)) (tokens : List Token) : Option Yaml :=
  let start : Reading := { handles := handles ++ commonHandles }
  (tokens.foldlM Reading.next? start).bind Reading.finish?

/-- The document of some tokens: its directives, its start if it is shown, and its node. -/
def Document.ofTokens? (tokens : List Token) : Option Document :=
  let directives := (tokens.takeWhile (·.directive?.isSome)).filterMap Token.directive?
  let body := (tokens.dropWhile (·.directive?.isSome)).reverse.dropWhile (· == .documentEnd)
  match handlesOf? directives, body.reverse with
  | none, _ => none
  | some _, .documentStart :: [] => some (.node missing)
  | some handles, .documentStart :: tokens => (nodeOf? handles tokens).map .node
  | some _, body =>
    if tokens.isEmpty then some .empty
    else if directives.isEmpty then (nodeOf? [] body).map .node
    else none

/-- The document of a text whose characters are all allowed. -/
def read? (text : Text) : Option Document :=
  if text.all isAllowed then (tokens? (withLineFeeds text)).bind Document.ofTokens? else none

end ZoneServices.Yaml
