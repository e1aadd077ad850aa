import ZoneServices.Json.Token

/-!
# Reading JSON

The tokens of a JSON text are taken one after the other.  What has been read of the arrays and
objects around the place of reading is kept on a stack, and each token either fits that place or
refuses the text.  A text is one value and nothing else.
-/

namespace ZoneServices.Json

/-- The members of an object that have been read, the last one first; a key may be unreadable. -/
abbrev OpenMembers : Type := List (Option Text × Json)

/-- An array or an object that a value is being read for. -/
inductive Frame where
  /-- An array with the elements before that value, the last one first. -/
  | array (elements : List Json)
  /-- An object with the members before that value, and the key of the value. -/
  | member (members : OpenMembers) (key : Option Text)

/-- A place in a JSON text, with the arrays and objects around it. -/
inductive Place where
  | awaitValue (outer : List Frame)
  | arrayStart (outer : List Frame)
  | element (elements : List Json) (outer : List Frame)
  | objectStart (outer : List Frame)
  | awaitKey (members : OpenMembers) (outer : List Frame)
  | colon (members : OpenMembers) (key : Option Text) (outer : List Frame)
  | member (members : OpenMembers) (outer : List Frame)
  | done (value : Json)

/-- The object of the members that were read, unless the key of one cannot be read. -/
def closeObject (members : OpenMembers) : Json :=
  match members.reverse.mapM fun member => member.1.map fun key => (key, member.2) with
  | some members => .object members
  | none => .unreadable

/-- The place behind a value. -/
def Place.after (value : Json) : List Frame → Place
  | [] => .done value
  | .array elements :: outer => .element (value :: elements) outer
  | .member members key :: outer => .member ((key, value) :: members) outer

/-- The place behind the first token of a value. -/
def Place.start? (outer : List Frame) : Token → Option Place
  | .scalar value => some (.after value outer)
  | .string (some text) => some (.after (.string text) outer)
  | .string none => some (.after .unreadable outer)
  | .arrayStart => some (.arrayStart outer)
  | .objectStart => some (.objectStart outer)
  | _ => none

/-- The place behind a token, if the token fits the place before it. -/
def Place.next? : Place → Token → Option Place
  | .awaitValue outer, token => start? outer token
  | .arrayStart outer, .arrayEnd => some (.after (.array []) outer)
  | .arrayStart outer, token => start? (.array [] :: outer) token
  | .element elements outer, .comma => some (.awaitValue (.array elements :: outer))
  | .element elements outer, .arrayEnd => some (.after (.array elements.reverse) outer)
  | .objectStart outer, .objectEnd => some (.after (.object []) outer)
  | .objectStart outer, .string key => some (.colon [] key outer)
  | .awaitKey members outer, .string key => some (.colon members key outer)
  | .colon members key outer, .colon => some (.awaitValue (.member members key :: outer))
  | .member members outer, .comma => some (.awaitKey members outer)
  | .member members outer, .objectEnd => some (.after (closeObject members) outer)
  | _, _ => none

/-- The value that a text writes. -/
def read? (text : Text) : Option Json :=
  match (tokens? text).bind (List.foldlM Place.next? (.awaitValue [])) with
  | some (.done value) => some value
  | _ => none

end ZoneServices.Json
