import ZoneServices.Service.Id
import ZoneServices.Service.Kind

/-!
# Services

A service of a zone is a body together with a header, which says where in the zone the service
is, at which time to live its records are written, and how the service is summed up.  A stored
service keeps the body in JSON form until its kind is looked up.
-/

namespace ZoneServices

/-- What a zone knows about a service beside its body. -/
structure ServiceHeader where
  kind : Text
  id : ServiceId
  /-- Subdomain of the service, empty at the origin of the zone. -/
  subdomain : Text
  /-- Time to live in seconds, zero for that of the zone. -/
  ttl : UInt32
  comment : Text
  userComment : Text
  /-- Number of records that the body stood for when it was summed up. -/
  resources : Nat
deriving DecidableEq, Repr

namespace ServiceHeader

/-- The time to live that records are written at. -/
def effectiveTtl (header : ServiceHeader) (zoneTtl : UInt32) : UInt32 :=
  if header.ttl = 0 then zoneTtl else header.ttl

/-- The members that store a header; empty comments are left out. -/
def members (header : ServiceHeader) : List (Text × Json) :=
  [ ("_svctype".toList, .string header.kind),
    ("_id".toList, header.id.encode),
    ("_domain".toList, .string header.subdomain),
    ("_ttl".toList, .ofNat header.ttl.toNat) ]
    ++ Json.optionalMember "_comment" header.comment.isEmpty (.string header.comment)
    ++ Json.optionalMember "_mycomment" header.userComment.isEmpty (.string header.userComment)
    ++ [("_tmp_hint_nb".toList, .ofNat header.resources)]

/-- A header as an object of its own. -/
def encode (header : ServiceHeader) : Json :=
  .object header.members

/-- The names of the members that store a header. -/
def fieldNames : List String :=
  ["_svctype", "_id", "_domain", "_ttl", "_comment", "_mycomment", "_tmp_hint_nb"]

/-- The header that some fields store; comments may be missing, and so may the number of records. -/
def ofFields? : List (Option Json) → Option ServiceHeader
  | [kind, id, subdomain, ttl, comment, userComment, resources] => do
    return {
      kind := ← Json.required Json.text? kind
      id := ← Json.required ServiceId.decode? id
      subdomain := ← Json.required Json.text? subdomain
      ttl := ← Json.required Json.word32? ttl
      comment := ← Json.defaulting Json.text? [] comment
      userComment := ← Json.defaulting Json.text? [] userComment
      resources := ← Json.defaulting Json.count? 0 resources }
  | _ => none

/-- The header that a JSON form stores. -/
def decode? (value : Json) : Option ServiceHeader :=
  (value.fields? fieldNames).bind ofFields?

end ServiceHeader

/-- A stored service. -/
structure StoredService where
  header : ServiceHeader
  body : Json
deriving Repr, BEq

namespace StoredService

/-- A stored service as one object: the members of its header, and its body behind them. -/
def encode (stored : StoredService) : Json :=
  .object (stored.header.members ++ [("Service".toList, stored.body)])

/-- The stored service of a JSON form, which has to be an object. -/
def decode? (value : Json) : Option StoredService := do
  let header ← (value.memberFields? ServiceHeader.fieldNames).bind ServiceHeader.ofFields?
  let [body] ← value.memberFields? ["Service"]
    | none
  return { header, body := (← body).normalize }

end StoredService

/-- A service of a zone. -/
structure Service (Body : Type) where
  header : ServiceHeader
  body : Body
deriving DecidableEq, Repr

namespace Service

variable {Body : Type} [ServiceBody Body]

/-- A new service of a body, summed up, and without a comment of its user. -/
def ofBody (body : Body) (id : ServiceId) (subdomain : Text) (ttl : UInt32) (origin : Text) :
    Service Body :=
  { header :=
      { kind := ServiceBody.kindKey body
        id := id
        subdomain := subdomain
        ttl := ttl
        comment := ServiceBody.comment body origin
        userComment := []
        resources := ServiceBody.resourceCount body }
    body := body }

/-- A service summed up anew. -/
def refresh (service : Service Body) (origin : Text) : Service Body :=
  { service with
    header :=
      { service.header with
        comment := ServiceBody.comment service.body origin
        resources := ServiceBody.resourceCount service.body } }

/-- A service with another body, summed up anew. -/
def revise (service : Service Body) (body : Body) (origin : Text) : Service Body :=
  refresh { service with body := body } origin

/-- The records that a service writes on its subdomain, at its time to live. -/
def records (service : Service Body) (zoneTtl : UInt32) (origin : Text) :
    Except SynthesisError (List Record) :=
  ServiceBody.records service.body service.header.subdomain
    (service.header.effectiveTtl zoneTtl) origin

/-- A service as it is stored. -/
def store (service : Service Body) : StoredService :=
  { header := service.header, body := (ServiceBody.encode service.body).normalize }

end Service

end ZoneServices
