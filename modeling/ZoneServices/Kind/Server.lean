import ZoneServices.Address
import ZoneServices.Kind.Grouping

/-!
# Servers

All addresses of a name, of either protocol version, make one service.
-/

namespace ZoneServices

/-- A host with its addresses, in the order of their records. -/
structure Server where
  addresses : List Address
deriving DecidableEq, Repr

namespace Server

/-- The type of the record that gives an address. -/
def addressType : Address → RecordType
  | .v4 _ => .a
  | .v6 _ => .aaaa

/-- The address that a record gives, if its type is that of the address. -/
def address? (record : Record) : Option Address :=
  match Address.read? record.payload with
  | some address => if record.type = addressType address then some address else none
  | none => none

/-- One record for each address, of which there must be one. -/
def records (server : Server) (subdomain : Text) (ttl : UInt32) (origin : Text) :
    Except SynthesisError (List Record) :=
  if server.addresses.isEmpty then
    .error (.invalidRecord subdomain "server without address".toList)
  else
    .ok <| server.addresses.map fun address =>
      Record.make subdomain (addressType address) ttl origin address.write

instance : ServiceKind Server where
  key := "abstract.Server".toList
  blank := ⟨[]⟩
  decode? value := do
    let [addresses] ← value.fields? ["Addresses"]
      | none
    let addresses ←
      Json.required (Json.list? fun address => address.text?.bind Address.read?) addresses
    return ⟨addresses⟩
  kindKey _ := "abstract.Server".toList
  kindKey_eq _ := rfl
  resourceCount server := server.addresses.length
  comment server _ := Text.joined [',', ' '] (server.addresses.map Address.write)
  records := records
  encode server :=
    .ofMembers [("Addresses", .ofList (fun address => .string address.write) server.addresses)]

/-- A server with one more address behind the others. -/
def add (server : Server) (address : Address) : Server :=
  ⟨server.addresses ++ [address]⟩

variable {Memory Body : Type} [ServiceBody Body] [Hosts Body Server]

/-- Gathers the addresses of each owner in one service. -/
def recognizer : Recognizer Memory Body := do
  Grouping.gather address? (fun address => Server.mk [address]) add []
    (← Recognition.search [.ofType .a, .ofType .aaaa])

/-- The kind as it is registered. -/
def registration : Registration Memory Body :=
  .ofKind Server
    { name := "Server".toList
      description := "A host reachable on IPv4 and/or IPv6.".toList
      family := .byPurpose
      categories := ["server".toList]
      restrictions := {} }
    20 (some recognizer)

end Server

end ZoneServices
