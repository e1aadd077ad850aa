import ZoneServices.Json.Value

/-!
# Decoding JSON

A decoder takes a value apart and yields nothing for a value that has another shape.  The fields
of a structure are the members of an object: those of other names are passed over, and a field
may be written only once.  A structure may also be an array of its fields in order, of which the
last ones may be missing.
-/

namespace ZoneServices.Json

/-- The text of a string. -/
def text? : Json → Option Text
  | .string value => some value
  | _ => none

/-- The truth value of a value that is one. -/
def flag? : Json → Option Bool
  | .bool value => some value
  | _ => none

/-- The whole number that is at least `low` and below `limit`. -/
def whole? (low limit : Int) : Json → Option Int
  | .number (.whole value) => if low ≤ value ∧ value < limit then some value else none
  | _ => none

/-- The signed number of sixty-four bits that a value is. -/
def int64? (value : Json) : Option Int64 :=
  (value.whole? Int64.minValue.toInt (Int64.maxValue.toInt + 1)).map Int64.ofInt

/-- The signed number of thirty-two bits that a value is. -/
def int32? (value : Json) : Option Int32 :=
  (value.whole? Int32.minValue.toInt (Int32.maxValue.toInt + 1)).map Int32.ofInt

/-- The unsigned number of thirty-two bits that a value is. -/
def word32? (value : Json) : Option UInt32 :=
  (value.whole? 0 UInt32.size).map fun number => UInt32.ofNat number.toNat

/-- The unsigned number of sixteen bits that a value is. -/
def word16? (value : Json) : Option UInt16 :=
  (value.whole? 0 UInt16.size).map fun number => UInt16.ofNat number.toNat

/-- The unsigned number of sixty-four bits that a value is, as a count. -/
def count? (value : Json) : Option Nat :=
  (value.whole? 0 UInt64.size).map Int.toNat

/-- The decoded elements of an array, if all of them decode. -/
def list? {Item : Type} (decode : Json → Option Item) : Json → Option (List Item)
  | .array elements => elements.mapM decode
  | _ => none

/-- The decoded members of an object, the last one of each key. -/
def directory? {Item : Type} (decode : Json → Option Item) : Json → Option (Directory Item)
  | .object members =>
    (members.mapM fun member => (decode member.2).map fun item => (member.1, item)).map
      Directory.ofList
  | _ => none

/-! ## Fields -/

/-- The values of a member that may be written once: none if it is written more often. -/
def member? (members : List (Text × Json)) (name : String) : Option (Option Json) :=
  match members.filter fun member => member.1 == name.toList with
  | [] => some none
  | [member] => some (some member.2)
  | _ => none

/-- The values of the fields of a structure that is written as an object. -/
def memberFields? (names : List String) : Json → Option (List (Option Json))
  | .object members => names.mapM (member? members)
  | _ => none

/-- The values of the fields of a structure, written as an object or as an array. -/
def fields? (names : List String) : Json → Option (List (Option Json))
  | .array elements =>
    if elements.length ≤ names.length then
      some (elements.map some ++ List.replicate (names.length - elements.length) none)
    else
      none
  | value => memberFields? names value

/-- The decoded value of a field that has to be there. -/
def required {Item : Type} (decode : Json → Option Item) (field : Option Json) : Option Item :=
  field.bind decode

/-- The decoded value of a field, or another one if the field is not there. -/
def defaulting {Item : Type} (decode : Json → Option Item) (missing : Item) :
    Option Json → Option Item
  | none => some missing
  | some value => decode value

/-- The decoded value of a field that may be missing or null. -/
def optional {Item : Type} (decode : Json → Option Item) : Option Json → Option (Option Item)
  | none | some .null => some none
  | some value => (decode value).map some

/-- How deep a document may be nested whose structures share their members. -/
def depthLimit : Nat := 127

/-- A document all of whose parts stand for values and are not nested too deep. -/
def wholeDocument? (value : Json) : Option Json :=
  if value.isReadable && value.depth ≤ depthLimit then some value else none

end ZoneServices.Json
