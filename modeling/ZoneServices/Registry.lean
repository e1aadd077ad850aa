import ZoneServices.Analysis.Recognition
import ZoneServices.Service.Catalog

/-!
# Registries of kinds

A registry holds the known kinds of services, each under its own key.  They are kept in the
order in which their recognizers run: by priority, and those of one priority in the order in
which they were registered.  A kind whose key is taken is refused, and the registry stays as it
was.
-/

namespace ZoneServices

/-- Why a registry refuses a request. -/
inductive RegistryError where
  | unknownKind (kind : Text)
  | duplicateKind (kind : Text)
  | invalidBody (kind : Text)
deriving DecidableEq, Repr

/-- What is said of a refusal; the reason for an invalid body is worded elsewhere. -/
def RegistryError.message : RegistryError → String
  | .unknownKind kind =>
    let kind := Text.quoted kind
    s!"Unknown service type {kind}"
  | .duplicateKind kind =>
    let kind := Text.quoted kind
    s!"Service type {kind} is already registered"
  | .invalidBody kind =>
    let kind := Text.quoted kind
    let complaint := Wording.syntaxComplaint
    s!"Invalid data for service type {kind}: {complaint}"

/-- Whether a refusal concerns a single stored service, which can be left out. -/
def RegistryError.isRecoverable : RegistryError → Bool
  | .unknownKind _ => true
  | .duplicateKind _ => false
  | .invalidBody _ => true

/-- A kind as it is to be registered. -/
structure Registration (Memory Body : Type) [ServiceBody Body] where
  kind : Text
  description : ServiceDescription
  /-- Recognizers of lower priority run first. -/
  priority : Int32
  /-- The recognizer, if services of the kind are recognized at all. -/
  recognizer : Option (Recognizer Memory Body)
  /-- The body of a service that nothing was entered for. -/
  blank : Body
  decode? : Json → Option Body
  kindKey_blank : ServiceBody.kindKey blank = kind
  kindKey_decode? : ∀ {value body}, decode? value = some body → ServiceBody.kindKey body = kind

/-- The registration of a kind whose services the body type hosts. -/
def Registration.ofKind {Memory Body : Type} [ServiceBody Body] (Kind : Type) [ServiceKind Kind]
    [Hosts Body Kind] (description : ServiceDescription) (priority : Int32)
    (recognizer : Option (Recognizer Memory Body)) : Registration Memory Body where
  kind := ServiceKind.key Kind
  description := description
  priority := priority
  recognizer := recognizer
  blank := Hosts.inject (ServiceKind.blank : Kind)
  decode? value := (ServiceKind.decode? value).map fun kind : Kind => Hosts.inject kind
  kindKey_blank := Hosts.kindKey_inject _
  kindKey_decode? {value body} decoded := by
    obtain ⟨kind, _, rfl⟩ := Option.map_eq_some_iff.mp decoded
    exact Hosts.kindKey_inject kind

/-- A registered kind. -/
structure RegistryEntry (Memory Body : Type) [ServiceBody Body] extends
    Registration Memory Body where
  /-- Number of kinds that were registered before. -/
  sequence : Nat

/-- The known kinds of services, in the order in which their recognizers run. -/
structure Registry (Memory Body : Type) [ServiceBody Body] where
  entries : List (RegistryEntry Memory Body)
  /-- Number of the kinds that have been registered, which the next entry takes for its own. -/
  registered : Nat

namespace RegistryEntry

variable {Memory Body : Type} [ServiceBody Body]

/-- The body that stored data decodes to, or else the refusal of the data. -/
def decode (entry : RegistryEntry Memory Body) (body : Json) : Except RegistryError Body :=
  match entry.decode? body with
  | some body => .ok body
  | none => .error (.invalidBody entry.kind)

end RegistryEntry

namespace Registry

variable {Memory Body : Type} [ServiceBody Body]

/-- A registry that knows no kinds. -/
def empty : Registry Memory Body := ⟨[], 0⟩

/-- Number of kinds that are known. -/
def size (registry : Registry Memory Body) : Nat :=
  registry.entries.length

/-- Whether no kind is known. -/
def isEmpty (registry : Registry Memory Body) : Bool :=
  registry.entries.isEmpty

/-- Entries with a new one after all those whose priority is not higher. -/
def insertEntry (entry : RegistryEntry Memory Body) :
    List (RegistryEntry Memory Body) → List (RegistryEntry Memory Body)
  | [] => [entry]
  | first :: rest =>
    if first.priority ≤ entry.priority then first :: insertEntry entry rest
    else entry :: first :: rest

/-- Registers a kind under a key that is not taken, with the next number. -/
def register (registry : Registry Memory Body) (registration : Registration Memory Body) :
    Except RegistryError (Registry Memory Body) :=
  if registry.entries.any (·.kind == registration.kind) then
    .error (.duplicateKind registration.kind)
  else
    -- Numbers are given in the order of registration, whatever place the entry takes.
    let entry := { registration with sequence := registry.registered }
    .ok
      { entries := insertEntry entry registry.entries
        registered := registry.registered + 1 }

/-- Registers kinds up to the first that is refused; yields the registry and the refusal. -/
def registerUntilRefused (registry : Registry Memory Body) :
    List (Registration Memory Body) → Registry Memory Body × Option RegistryError
  | [] => (registry, none)
  | registration :: rest =>
    match registry.register registration with
    | .ok registry => registry.registerUntilRefused rest
    | .error error => (registry, some error)

/-- The entry of a kind, or else the refusal of the kind. -/
def find (registry : Registry Memory Body) (kind : Text) :
    Except RegistryError (RegistryEntry Memory Body) :=
  match registry.entries.find? (·.kind == kind) with
  | some entry => .ok entry
  | none => .error (.unknownKind kind)

/-- The body of a new service of a kind. -/
def create (registry : Registry Memory Body) (kind : Text) : Except RegistryError Body :=
  (registry.find kind).map (·.blank)

/-- A stored service with its body decoded by the kind that its header names. -/
def revive (registry : Registry Memory Body) (stored : StoredService) :
    Except RegistryError (Service Body) := do
  let entry ← registry.find stored.header.kind
  let body ← entry.decode stored.body
  return { header := stored.header, body }

end Registry

end ZoneServices
