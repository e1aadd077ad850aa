import ZoneServices.Name.Owner
import ZoneServices.Payload.Grammar
import ZoneServices.Wording

/-!
# Records

A resource record has an owner, a type, a time to live and a payload.  Its canonical text

    <owner> <time to live> IN <type> <payload>

is what services are identified by and what a search for a text looks into.  The owner is
absolute and the payload is in canonical form, so the canonical text of a record reads back as
that record; a payload that is not one of its type is kept as it was given, and `validate` says
so.
-/

namespace ZoneServices

/-- A resource record. -/
structure Record where
  owner : Text
  type : RecordType
  ttl : UInt32
  payload : Text
deriving DecidableEq, Repr

/-- A field that a record line may lack. -/
inductive RecordField where
  | ttl
  | type
  | payload
deriving DecidableEq, Repr

/-- Why an owner name is refused. -/
inductive OwnerFault where
  | malformed
  | relative
deriving DecidableEq, Repr

/-- Why a text is not a record. -/
inductive RecordError where
  | empty
  | missingField (line : Text) (field : RecordField)
  | invalidTtl (line ttl : Text)
  | unknownType (line type : Text)
  | invalidOwner (owner : Text) (fault : OwnerFault)
  | invalidPayload (line : Text) (type : RecordType) (fault : Payload.Fault)
deriving DecidableEq, Repr

/-- The name by which errors call a field. -/
def RecordField.name : RecordField → String
  | .ttl => "ttl"
  | .type => "type"
  | .payload => "rdata"

/-- What is said of an owner that is none. -/
def OwnerFault.message : OwnerFault → String
  | .malformed => Wording.syntaxComplaint
  | .relative => "owner name must be absolute"

/-- What is said of a payload that is not one of its type. -/
def Payload.Fault.message : Payload.Fault → String
  | .strings fault => fault.message
  | .generic fault => fault.message
  | .tokens => Wording.syntaxComplaint

/-- What is said of a record that is none, with the text that it was read from. -/
def RecordError.message : RecordError → String
  | .empty => "Empty record line"
  | .missingField line field =>
    let line := Text.quoted line
    let field := field.name
    s!"Record {line} is missing its {field}"
  | .invalidTtl line ttl =>
    let line := Text.quoted line
    let ttl := Text.quoted ttl
    s!"Invalid TTL {ttl} in record {line}"
  | .unknownType line type =>
    let line := Text.quoted line
    let type := Text.quoted type
    s!"Unknown record type {type} in record {line}"
  | .invalidOwner owner fault =>
    let owner := Text.quoted owner
    let reason := fault.message
    s!"Invalid owner name {owner}: {reason}"
  | .invalidPayload line type fault =>
    let line := Text.quoted line
    let type := String.ofList type.write
    let reason := fault.message
    s!"Invalid {type} data in record {line}: {reason}"

namespace Record

/-- The class that every record belongs to, as its canonical text names it. -/
def className : Text := "IN".toList

/-- The canonical text of a record. -/
def write (record : Record) : Text :=
  record.owner ++ ' ' :: Numeral.decimal record.ttl.toNat ++ ' ' :: className
    ++ ' ' :: record.type.write ++ ' ' :: record.payload

/-- A payload in canonical form, or as it was given when it is not one of its type. -/
def settledPayload (type : RecordType) (payload : Text) : Text :=
  match Payload.normalize type payload with
  | .ok canonical => canonical
  | .error _ => payload

/-- The record of a name below an origin.  Nothing is refused. -/
def make (name : Text) (type : RecordType) (ttl : UInt32) (origin payload : Text) : Record :=
  { owner := Owner.resolve name origin
    type := type
    ttl := ttl
    payload := settledPayload type (Text.trim payload) }

/-- A record that holds a text, in as many strings as it takes. -/
def ofText (name : Text) (ttl : UInt32) (origin text : Text) : Record :=
  make name .txt ttl origin (CharacterString.writeText text)

/-- Checks that the payload of a record is one of its type. -/
def validate (record : Record) : Except RecordError Unit :=
  match Payload.normalize record.type record.payload with
  | .ok _ => .ok ()
  | .error fault => .error (.invalidPayload record.write record.type fault)

/-- The character-strings of a text record, if its payload can be read. -/
def strings? (record : Record) : Option (List Octets) :=
  if record.type = .txt then
    match CharacterString.readAll record.payload with
    | .ok strings => some strings
    | .error _ => none
  else
    none

/-- The character-strings of a text record as texts; none for other records. -/
def texts (record : Record) : List Text :=
  (record.strings?.getD []).map Utf8.decodeLossy

/-- The text of all strings of a record, one after the other. -/
def joinedText (record : Record) : Text :=
  record.texts.flatten

/--
The last word of the payload, which is the host that an alias, a server or an exchanger names.
-/
def target (record : Record) : Text :=
  (Text.words record.payload).getLast?.getD []

end Record

end ZoneServices
