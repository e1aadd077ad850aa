import ZoneServices.Record.Basic
import ZoneServices.Service.Form

/-!
# Kinds of services

A kind of service says how many records a service stands for, how it is summed up, which records
it writes, and how its body is stored.  Two abilities are optional: to name the labels under
which records are written, and to present settings in steps.

A type of bodies may host several kinds.  `Hosts` puts the body of a kind into such a type and
takes it out again; what holds of the body as one of its kind holds of it as one of the larger
type.  Two types of bodies stand side by side in their sum, so that kinds of one's own can be
added to others.
-/

namespace ZoneServices

/-- Why a service cannot write its records. -/
inductive SynthesisError where
  | invalidRecord (subdomain reason : Text)
  | unreadable (cause : RecordError)
deriving DecidableEq, Repr

/-- What is said of a service that cannot write its records. -/
def SynthesisError.message : SynthesisError → String
  | .invalidRecord subdomain reason =>
    let subdomain := Text.quoted subdomain
    let reason := String.ofList reason
    s!"Unable to generate records for {subdomain}: {reason}"
  | .unreadable cause =>
    let cause := cause.message
    s!"Unable to parse generated record: {cause}"

/-- What the bodies of services have in common. -/
class ServiceBody (Body : Type) where
  kindKey : Body → Text
  resourceCount : Body → Nat
  comment : Body → (origin : Text) → Text
  records : Body → (subdomain : Text) → (ttl : UInt32) → (origin : Text) →
    Except SynthesisError (List Record)
  /-- Labels below its subdomain that a service has records under, if its kind names them. -/
  subdomains? : Body → Option (List Text) := fun _ => none
  /-- The steps of its settings by number, if its kind has them. -/
  settings? : Body → Option (Int32 → Except Text SettingsForm) := fun _ => none
  encode : Body → Json

/-- A kind of service, as the type of its bodies. -/
class ServiceKind (Kind : Type) extends ServiceBody Kind where
  key : Text
  /-- The body of a service that nothing was entered for. -/
  blank : Kind
  decode? : Json → Option Kind
  kindKey_eq : ∀ body, kindKey body = key

/-- A type of bodies that has the bodies of a kind among its own. -/
class Hosts (Body Kind : Type) [ServiceBody Body] [ServiceKind Kind] where
  inject : Kind → Body
  /-- The body of the kind that a body is, if it is one. -/
  project? : Body → Option Kind
  project?_inject : ∀ kind, project? (inject kind) = some kind
  inject_of_project? : ∀ {body kind}, project? body = some kind → inject kind = body
  kindKey_inject : ∀ kind, ServiceBody.kindKey (inject kind) = ServiceKind.key Kind
  resourceCount_inject : ∀ kind,
    ServiceBody.resourceCount (inject kind) = ServiceBody.resourceCount kind
  comment_inject : ∀ kind, ServiceBody.comment (inject kind) = ServiceBody.comment kind
  records_inject : ∀ kind, ServiceBody.records (inject kind) = ServiceBody.records kind
  encode_inject : ∀ kind, ServiceBody.encode (inject kind) = ServiceBody.encode kind

/-- An optional ability of services. -/
inductive Capability where
  | listSubdomains
  | customSettingsForm
deriving DecidableEq, Repr

/-- The name that an ability is listed under. -/
def Capability.name : Capability → String
  | .listSubdomains => "ListSubdomains"
  | .customSettingsForm => "CustomSettingsForm"

/-- The optional abilities that a body has. -/
def ServiceBody.capabilities {Body : Type} [ServiceBody Body] (body : Body) : List Capability :=
  (if (subdomains? body).isSome then [.listSubdomains] else [])
    ++ (if (settings? body).isSome then [.customSettingsForm] else [])

/-! ## Sums of bodies -/

variable {Left Right : Type} [ServiceBody Left] [ServiceBody Right]

instance : ServiceBody (Left ⊕ Right) where
  kindKey
    | .inl body => ServiceBody.kindKey body
    | .inr body => ServiceBody.kindKey body
  resourceCount
    | .inl body => ServiceBody.resourceCount body
    | .inr body => ServiceBody.resourceCount body
  comment
    | .inl body => ServiceBody.comment body
    | .inr body => ServiceBody.comment body
  records
    | .inl body => ServiceBody.records body
    | .inr body => ServiceBody.records body
  subdomains?
    | .inl body => ServiceBody.subdomains? body
    | .inr body => ServiceBody.subdomains? body
  settings?
    | .inl body => ServiceBody.settings? body
    | .inr body => ServiceBody.settings? body
  encode
    | .inl body => ServiceBody.encode body
    | .inr body => ServiceBody.encode body

instance {Kind : Type} [ServiceKind Kind] [Hosts Left Kind] : Hosts (Left ⊕ Right) Kind where
  inject kind := .inl (Hosts.inject kind)
  project?
    | .inl body => Hosts.project? body
    | .inr _ => none
  project?_inject kind := Hosts.project?_inject kind
  inject_of_project? {body kind} found := by
    match body, found with
    | .inl body, found => exact congrArg Sum.inl (Hosts.inject_of_project? found)
  kindKey_inject kind := (Hosts.kindKey_inject kind :
    ServiceBody.kindKey (Hosts.inject kind : Left) = _)
  resourceCount_inject kind := (Hosts.resourceCount_inject kind :
    ServiceBody.resourceCount (Hosts.inject kind : Left) = _)
  comment_inject kind := (Hosts.comment_inject kind :
    ServiceBody.comment (Hosts.inject kind : Left) = _)
  records_inject kind := (Hosts.records_inject kind :
    ServiceBody.records (Hosts.inject kind : Left) = _)
  encode_inject kind := (Hosts.encode_inject kind :
    ServiceBody.encode (Hosts.inject kind : Left) = _)

instance {Kind : Type} [ServiceKind Kind] [Hosts Right Kind] : Hosts (Left ⊕ Right) Kind where
  inject kind := .inr (Hosts.inject kind)
  project?
    | .inl _ => none
    | .inr body => Hosts.project? body
  project?_inject kind := Hosts.project?_inject kind
  inject_of_project? {body kind} found := by
    match body, found with
    | .inr body, found => exact congrArg Sum.inr (Hosts.inject_of_project? found)
  kindKey_inject kind := (Hosts.kindKey_inject kind :
    ServiceBody.kindKey (Hosts.inject kind : Right) = _)
  resourceCount_inject kind := (Hosts.resourceCount_inject kind :
    ServiceBody.resourceCount (Hosts.inject kind : Right) = _)
  comment_inject kind := (Hosts.comment_inject kind :
    ServiceBody.comment (Hosts.inject kind : Right) = _)
  records_inject kind := (Hosts.records_inject kind :
    ServiceBody.records (Hosts.inject kind : Right) = _)
  encode_inject kind := (Hosts.encode_inject kind :
    ServiceBody.encode (Hosts.inject kind : Right) = _)

end ZoneServices
