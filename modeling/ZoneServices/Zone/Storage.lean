import ZoneServices.Json.Reader
import ZoneServices.Json.Writer
import ZoneServices.Zone.Basic

/-!
# Stored zones

A zone is stored as a JSON object whose members are those of its header and the services by
subdomain.  To make a zone of it, each stored service has to be revived by a registry.  This is
done strictly, so that the first service that cannot be revived is an error, or leniently, so
that such services are left out and reported.
-/

namespace ZoneServices

namespace ZoneId

/-- The JSON form of the identifier of a zone. -/
def encode (id : ZoneId) : Json :=
  .ofInt id.value.toInt

/-- The identifier of a zone in a JSON form. -/
def decode? (value : Json) : Option ZoneId :=
  value.int64?.map ZoneId.mk

end ZoneId

namespace UserId

/-- The JSON form of the identifier of a user. -/
def encode (id : UserId) : Json :=
  .ofInt id.value.toInt

/-- The identifier of a user in a JSON form. -/
def decode? (value : Json) : Option UserId :=
  value.int64?.map UserId.mk

end UserId

namespace Timestamp

/-- The JSON form of a moment: its written form. -/
def encode (moment : Timestamp) : Json :=
  .string moment.write

/-- The moment of a JSON form. -/
def decode? (value : Json) : Option Timestamp :=
  value.text?.bind read?

end Timestamp

namespace ZoneHeader

/-- The member for an item, left out if there is no item. -/
def presentMember {Item : Type} (key : String) (encode : Item → Json) :
    Option Item → List (Text × Json)
  | none => []
  | some item => [(key.toList, encode item)]

/-- The members that store a header; what is missing is left out. -/
def members (header : ZoneHeader) : List (Text × Json) :=
  [ ("id".toList, header.id.encode),
    ("id_author".toList, header.author.encode),
    ("default_ttl".toList, .ofNat header.defaultTtl.toNat),
    ("last_modified".toList, header.lastModified.encode) ]
    ++ presentMember "commit_msg" .string header.commitMessage
    ++ presentMember "commit_date" Timestamp.encode header.commitDate
    ++ presentMember "published" Timestamp.encode header.published

/-- The names of the members that store a header. -/
def fieldNames : List String :=
  ["id", "id_author", "default_ttl", "last_modified", "commit_msg", "commit_date", "published"]

/-- The header that some fields store; only what may be left out of it may be missing. -/
def ofFields? : List (Option Json) → Option ZoneHeader
  | [id, author, defaultTtl, lastModified, commitMessage, commitDate, published] => do
    return {
      id := ← Json.required ZoneId.decode? id
      author := ← Json.required UserId.decode? author
      defaultTtl := ← Json.required Json.word32? defaultTtl
      lastModified := ← Json.required Timestamp.decode? lastModified
      commitMessage := ← Json.optional Json.text? commitMessage
      commitDate := ← Json.optional Timestamp.decode? commitDate
      published := ← Json.optional Timestamp.decode? published }
  | _ => none

end ZoneHeader

/-- A stored zone. -/
structure StoredZone where
  header : ZoneHeader
  services : Directory (List StoredService)

namespace StoredZone

/-- An object with the stored services of each subdomain. -/
def encodeServices (services : Directory (List StoredService)) : Json :=
  .object (services.entries.map fun entry => (entry.1, .ofList StoredService.encode entry.2))

/-- A stored zone as one object: the members of its header, and the services behind them. -/
def encode (stored : StoredZone) : Json :=
  .object (stored.header.members ++ [("services".toList, encodeServices stored.services)])

/-- The stored zone of an object; without services it is empty. -/
def decode? (value : Json) : Option StoredZone := do
  let header ← (value.memberFields? ZoneHeader.fieldNames).bind ZoneHeader.ofFields?
  let [services] ← value.memberFields? ["services"]
    | none
  let services ←
    Json.defaulting (Json.directory? (Json.list? StoredService.decode?)) ∅ services
  return { header, services }

/-- The stored zone that a text writes. -/
def read? (text : Text) : Option StoredZone := do
  decode? (← Json.wholeDocument? (← Json.read? text))

end StoredZone

/-- The stored service that a text writes. -/
def StoredService.read? (text : Text) : Option StoredService := do
  decode? (← Json.wholeDocument? (← Json.read? text))

namespace Registry

variable {Memory Body : Type} [ServiceBody Body]

/-- The services of a subdomain, or the first refusal of one of them. -/
def reviveAll (registry : Registry Memory Body) (stored : List StoredService) :
    Except RegistryError (List (Service Body)) :=
  stored.mapM registry.revive

/-- The services that can be revived, and the errors of the others. -/
def reviveSome (registry : Registry Memory Body) :
    List StoredService → List (Service Body) × List RegistryError
  | [] => ([], [])
  | stored :: rest =>
    let (services, errors) := registry.reviveSome rest
    match registry.revive stored with
    | .ok service => (service :: services, errors)
    | .error error => (services, error :: errors)

/-- The zone of some entries of a stored zone, or the first error. -/
def loadEntries (registry : Registry Memory Body) :
    List (Text × List StoredService) → Except RegistryError (Directory (List (Service Body)))
  | entries => do
    let revived ← entries.mapM fun entry => do
      return (entry.1, ← registry.reviveAll entry.2)
    return Directory.ofList revived

/-- The zone that was stored, or the error of the first service that cannot be revived. -/
def load (registry : Registry Memory Body) (stored : StoredZone) :
    Except RegistryError (Zone Body) := do
  let services ← registry.loadEntries stored.services.entries
  return { header := stored.header, services }

/--
The zone of the services that can be revived, and the errors of the others.  A subdomain none of
whose services can be revived is left out.
-/
def loadLenient (registry : Registry Memory Body) (stored : StoredZone) :
    Zone Body × List RegistryError :=
  let revived := stored.services.entries.map fun entry => (entry.1, registry.reviveSome entry.2)
  let kept := revived.filterMap fun entry =>
    if entry.2.1.isEmpty then none else some (entry.1, entry.2.1)
  ( { header := stored.header, services := Directory.ofList kept },
    revived.flatMap fun entry => entry.2.2 )

end Registry

namespace Zone

variable {Body : Type} [ServiceBody Body]

/-- A zone as it is stored. -/
def store (zone : Zone Body) : StoredZone :=
  { header := zone.header, services := zone.services.map (List.map Service.store) }

/-- The JSON form of a zone as it is stored. -/
def encode (zone : Zone Body) : Json :=
  zone.store.encode

end Zone

end ZoneServices
