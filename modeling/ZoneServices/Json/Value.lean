import ZoneServices.Directory
import ZoneServices.Text.Numeral

/-!
# JSON values

Service bodies, stored zones and settings are exchanged as JSON.  A value keeps the members of
its objects in the order in which they were written, repeated ones included.

Whole numbers of 64 bits, signed or unsigned, are numbers of their own; any other number is kept
as it was written.  A part that follows the grammar without standing for a value, a string with
half a surrogate pair or a number beyond every bound, is `unreadable`: it may be passed over,
but never be used.
-/

namespace ZoneServices

/-- A number of a JSON text. -/
inductive Json.Number where
  /-- A whole number of 64 bits, signed or unsigned. -/
  | whole (value : Int)
  /-- Any other number, as it was written. -/
  | other (literal : Text)
deriving DecidableEq, Repr

/-- A JSON value. -/
inductive Json where
  | null
  | bool (value : Bool)
  | number (value : Json.Number)
  | string (value : Text)
  | array (elements : List Json)
  | object (members : List (Text × Json))
  /-- A part that stands for no value. -/
  | unreadable
deriving Repr, BEq, Inhabited

namespace Json

/-- The number of a count. -/
def ofNat (value : Nat) : Json :=
  .number (.whole value)

/-- The number of a whole number. -/
def ofInt (value : Int) : Json :=
  .number (.whole value)

/-- The array of some items. -/
def ofList {Item : Type} (encode : Item → Json) (items : List Item) : Json :=
  .array (items.map encode)

/-- The member of an object, unless its value is the one that need not be written. -/
def optionalMember (key : String) (omitted : Bool) (value : Json) : List (Text × Json) :=
  if omitted then [] else [(key.toList, value)]

/-- The object of some members, in their order. -/
def ofMembers (members : List (String × Json)) : Json :=
  .object (members.map fun member => (member.1.toList, member.2))

/-! ## Shape -/

mutual

/-- Number of arrays and objects that lie around one another. -/
def depth : Json → Nat
  | .array elements => depthOfElements elements + 1
  | .object members => depthOfMembers members + 1
  | _ => 0

/-- The greatest depth among some elements. -/
def depthOfElements : List Json → Nat
  | [] => 0
  | element :: rest => max (depth element) (depthOfElements rest)

/-- The greatest depth among the values of some members. -/
def depthOfMembers : List (Text × Json) → Nat
  | [] => 0
  | (_, value) :: rest => max (depth value) (depthOfMembers rest)

end

mutual

/-- Whether no part of a value is unreadable. -/
def isReadable : Json → Bool
  | .array elements => areReadable elements
  | .object members => areReadableMembers members
  | .unreadable => false
  | _ => true

/-- Whether every part of the elements of an array stands for a value. -/
def areReadable : List Json → Bool
  | [] => true
  | element :: rest => isReadable element && areReadable rest

/-- Whether every part of the members of an object stands for a value. -/
def areReadableMembers : List (Text × Json) → Bool
  | [] => true
  | (_, value) :: rest => isReadable value && areReadableMembers rest

end

/-! ## Normal form -/

mutual

/--
A value in which the members of every object are in the order of their keys, the last of each
key.
-/
def normalize : Json → Json
  | .array elements => .array (normalizeElements elements)
  | .object members => .object (Directory.ofList (normalizeMembers members)).entries
  | value => value

/-- Some elements, each of them normalized. -/
def normalizeElements : List Json → List Json
  | [] => []
  | element :: rest => normalize element :: normalizeElements rest

/-- Some members, the value of each normalized. -/
def normalizeMembers : List (Text × Json) → List (Text × Json)
  | [] => []
  | (key, value) :: rest => (key, normalize value) :: normalizeMembers rest

end

end Json

end ZoneServices
