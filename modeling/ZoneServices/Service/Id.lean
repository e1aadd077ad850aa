import ZoneServices.Digest.Sha1
import ZoneServices.Json.Fields
import ZoneServices.Record.Basic
import ZoneServices.Text.Base64

/-!
# Service identifiers

A service is identified by the digest of the canonical text of its first record.  The identifier
is shown in base64, and only that text is read back as the identifier.
-/

namespace ZoneServices

/-- The identifier of a service. -/
structure ServiceId where
  octets : Vector UInt8 20
deriving DecidableEq, Repr

/-- Why a text is not the identifier of a service. -/
inductive ServiceId.Fault where
  | notBase64
  | wrongSize (size : Nat)
deriving DecidableEq, Repr

/-- A text that is not the identifier of a service. -/
structure ServiceId.Error where
  text : Text
  fault : ServiceId.Fault
deriving DecidableEq, Repr

/-- What is said of a text that is not an identifier. -/
def ServiceId.Error.message (error : ServiceId.Error) : String :=
  let text := Text.quoted error.text
  match error.fault with
  | .notBase64 =>
    let complaint := Wording.syntaxComplaint
    s!"invalid service id {text}: {complaint}"
  | .wrongSize size => s!"invalid service id {text}: expected 20 bytes, got {size}"

namespace ServiceId

/-- The identifier of a service whose first record is given: the digest of its canonical text. -/
def ofRecord (record : Record) : ServiceId :=
  ⟨Sha1.digest (Utf8.encode record.write)⟩

/-- The shown form of an identifier, in base64. -/
def write (id : ServiceId) : Text :=
  Base64.encode id.octets.toList

/-- The identifier that a text shows, or why it shows none. -/
def read (text : Text) : Except Error ServiceId :=
  match Base64.decode? text with
  | none => .error ⟨text, .notBase64⟩
  | some octets =>
    if size : octets.toArray.size = 20 then .ok ⟨⟨octets.toArray, size⟩⟩
    else .error ⟨text, .wrongSize octets.length⟩

/-- The JSON form of an identifier. -/
def encode (id : ServiceId) : Json :=
  .string id.write

/-- The identifier of a JSON form. -/
def decode? (value : Json) : Option ServiceId :=
  value.text?.bind fun text => (read text).toOption

end ServiceId

end ZoneServices
