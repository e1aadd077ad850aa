import ZoneServices.Zone.Storage

/-!
# Domains

A domain is managed for a user at a provider.  It keeps the identifiers of all zones that were
taken of it, the last of which is its current zone; nothing is ever removed from this history.
-/

namespace ZoneServices

/-- Identifies a domain. -/
structure DomainId where
  value : Int64
deriving DecidableEq, Repr

/-- Identifies the configuration of a provider. -/
structure ProviderId where
  value : Int64
deriving DecidableEq, Repr

/-- A domain that is managed for a user. -/
structure Domain where
  /-- Identifier, zero before the domain is stored. -/
  id : DomainId
  owner : UserId
  provider : ProviderId
  name : Text
  group : Text
  /-- The zones that were taken of the domain, the oldest one first. -/
  history : List ZoneId
deriving DecidableEq, Repr

/-- Why a text does not name a domain. -/
inductive DomainFault where
  | tooShort
  | malformed
deriving DecidableEq, Repr

/-- A text that does not name a domain. -/
structure DomainError where
  name : Text
  fault : DomainFault
deriving DecidableEq, Repr

/-- What is said of a refused name; the reason for a malformed one is worded elsewhere. -/
def DomainError.message (error : DomainError) : String :=
  let name := Text.quoted error.name
  match error.fault with
  | .tooShort => s!"{name} is not a valid domain name: must be at least 3 characters long"
  | .malformed =>
    let complaint := Wording.syntaxComplaint
    s!"{name} is not a valid domain name: {complaint}"

namespace Domain

/-- Least number of octets of a name before the dots that end it. -/
def leastSize : Nat := 3

/-- A new domain without a history, whose name must be long enough and be read as a name. -/
def make (owner : UserId) (provider : ProviderId) (name : Text) : Except DomainError Domain :=
  let qualified := Owner.qualified (Text.trim name)
  if Text.octetSize (Text.trimEndDots qualified) < leastSize then
    .error ⟨name, .tooShort⟩
  else
    match Name.readAscii? qualified with
    | none => .error ⟨name, .malformed⟩
    | some _ =>
      .ok { id := ⟨0⟩, owner, provider, name := qualified, group := [], history := [] }

/-- Another zone at the end of the history, which thereby becomes current. -/
def push (domain : Domain) (zone : ZoneId) : Domain :=
  { domain with history := domain.history ++ [zone] }

/-- The zone that was pushed last. -/
def current? (domain : Domain) : Option ZoneId :=
  domain.history.getLast?

/-- JSON form of a domain; an empty group is left out. -/
def encode (domain : Domain) : Json :=
  .object <|
    [ ("id".toList, .ofInt domain.id.value.toInt),
      ("id_owner".toList, domain.owner.encode),
      ("id_provider".toList, .ofInt domain.provider.value.toInt),
      ("domain_name".toList, .string domain.name) ]
      ++ Json.optionalMember "group" domain.group.isEmpty (.string domain.group)
      ++ [("zone_history".toList, .ofList ZoneId.encode domain.history)]

/-- The domain that an object stores; the group and the history may be missing. -/
def decode? (value : Json) : Option Domain := do
  let [id, owner, provider, name, group, history] ←
      value.fields? ["id", "id_owner", "id_provider", "domain_name", "group", "zone_history"]
    | none
  return {
    id := ⟨← Json.required Json.int64? id⟩
    owner := ← Json.required UserId.decode? owner
    provider := ⟨← Json.required Json.int64? provider⟩
    name := ← Json.required Json.text? name
    group := ← Json.defaulting Json.text? [] group
    history := ← Json.defaulting (Json.list? ZoneId.decode?) [] history }

end Domain

end ZoneServices
