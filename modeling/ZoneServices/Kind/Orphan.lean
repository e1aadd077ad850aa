import ZoneServices.Record.Reader
import ZoneServices.Registry

/-!
# Orphans

A record that no recognizer claims is kept as it is, with the word for its type and its payload.
-/

namespace ZoneServices

/-- A record that is kept as it is. -/
structure Orphan where
  type : Text
  payload : Text
deriving DecidableEq, Repr

namespace Orphan

/-- The orphan that keeps the type and the payload of a record. -/
def ofRecord (record : Record) : Orphan :=
  ⟨record.type.write, record.payload⟩

/-- The record that was kept, read again from its text. -/
def records (orphan : Orphan) (subdomain : Text) (ttl : UInt32) (origin : Text) :
    Except SynthesisError (List Record) :=
  match Record.read <|
      Owner.resolve subdomain origin ++ ' ' :: Numeral.decimal ttl.toNat
        ++ ' ' :: Record.className ++ ' ' :: orphan.type ++ ' ' :: orphan.payload with
  | .ok record => .ok [record]
  | .error cause => .error (.unreadable cause)

instance : ServiceKind Orphan where
  key := "svcs.Orphan".toList
  blank := ⟨[], []⟩
  decode? value := do
    let [type, payload] ← value.fields? ["Type", "Rdata"]
      | none
    return ⟨← Json.required Json.text? type, ← Json.required Json.text? payload⟩
  kindKey _ := "svcs.Orphan".toList
  kindKey_eq _ := rfl
  resourceCount _ := 1
  comment orphan _ := orphan.type
  records := records
  encode orphan := .ofMembers [("Rdata", .string orphan.payload), ("Type", .string orphan.type)]

/-- The kind as it is registered.  What is left over is kept without a recognizer. -/
def registration {Memory Body : Type} [ServiceBody Body] [Hosts Body Orphan] :
    Registration Memory Body :=
  .ofKind Orphan
    { name := "Orphan Record".toList
      description := "A record not handled by any known service.".toList
      family := .hidden
      categories := []
      restrictions := {} }
    1000 none

end Orphan

end ZoneServices
