import ZoneServices.Record.Basic

/-!
# Reading records

A record is read from a line of words: owner, time to live, class, type, and the rest of the
line as payload. The class may be left out.  The words are all found before any of them is
looked into, so a line that lacks a word is refused for that, whatever its other words are; then
the time to live, the type, the owner and the payload are looked at in this order.
-/

namespace ZoneServices.Record

/-- Whether a name may own a record: an absolute name whose labels follow the ASCII rule. -/
def checkOwner (name : Text) : Except RecordError Unit :=
  match Name.readAscii? name with
  | none => .error (.invalidOwner name .malformed)
  | some owner => if owner.absolute then .ok () else .error (.invalidOwner name .relative)

/-- The words of a record line before its payload, and the payload. -/
structure Line where
  owner : Text
  ttl : Text
  type : Text
  payload : Text
deriving DecidableEq, Repr

/-- The first word of a text and what follows it, or the complaint that a field is missing. -/
def requireWord (line : Text) (field : RecordField) (text : Text) :
    Except RecordError (Text × Text) :=
  match Text.nextWord? text with
  | some found => .ok found
  | none => .error (.missingField (Text.trim line) field)

/-- The words of a line, none of which is looked into yet. -/
def Line.read (line : Text) : Except RecordError Line := do
  let (owner, rest) ← match Text.nextWord? line with
    | some found => Except.ok found
    | none => .error .empty
  let (ttl, rest) ← requireWord line .ttl rest
  let (type, rest) ← requireWord line .type rest
  let (type, rest) ←
    -- No type has the name of the class, so the class may be left out.
    if Text.sameFolded type className then requireWord line .type rest else .ok (type, rest)
  return { owner, ttl, type, payload := Text.trim rest }

/-- The record that a line writes, or the first thing that is wrong with the line. -/
def read (line : Text) : Except RecordError Record := do
  let words ← Line.read line
  let shown := Text.trim line
  let ttl ← match Numeral.word32? words.ttl with
    | some ttl => Except.ok ttl
    | none => .error (.invalidTtl shown words.ttl)
  let type ← match RecordType.read? words.type with
    | some type => Except.ok type
    | none => .error (.unknownType shown words.type)
  checkOwner words.owner
  if words.payload.isEmpty then
    throw (.missingField shown .payload)
  match Payload.normalize type words.payload with
  | .ok payload => return { owner := words.owner, type, ttl, payload }
  | .error fault => throw (.invalidPayload shown type fault)

end ZoneServices.Record
