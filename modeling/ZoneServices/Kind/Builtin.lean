import ZoneServices.Kind.Alias
import ZoneServices.Kind.Challenge
import ZoneServices.Kind.MailExchangers
import ZoneServices.Kind.Orphan
import ZoneServices.Kind.Server

/-!
# The built-in kinds

| key                          | priority | recognizes                              |
|------------------------------|----------|-----------------------------------------|
| `abstract.ScalewayChallenge` | 2        | text records under the label of a challenge |
| `abstract.MXs`               | 10       | all mail exchangers of a name           |
| `abstract.Server`            | 20       | all addresses of a name                 |
| `svcs.CNAME`                 | 30       | an alias                                |
| `svcs.Orphan`                | 1000     | nothing; it takes what is left over     |
-/

namespace ZoneServices

/-- The body of a service of a built-in kind. -/
inductive Builtin where
  | challenge (body : Challenge)
  | mailExchangers (body : MailExchangers)
  | server (body : Server)
  | link (body : Alias)
  | orphan (body : Orphan)
deriving DecidableEq, Repr

namespace Builtin

/-- Applies to a body what is defined for every kind. -/
def dispatch {Result : Type} (action : {Kind : Type} → [ServiceKind Kind] → Kind → Result) :
    Builtin → Result
  | .challenge body => action body
  | .mailExchangers body => action body
  | .server body => action body
  | .link body => action body
  | .orphan body => action body

instance : ServiceBody Builtin where
  kindKey := dispatch ServiceBody.kindKey
  resourceCount := dispatch ServiceBody.resourceCount
  comment := dispatch ServiceBody.comment
  records := dispatch ServiceBody.records
  subdomains? := dispatch ServiceBody.subdomains?
  settings? := dispatch ServiceBody.settings?
  encode := dispatch ServiceBody.encode

instance : Hosts Builtin Challenge where
  inject := .challenge
  project?
    | .challenge body => some body
    | _ => none
  project?_inject _ := rfl
  inject_of_project? {body kind} found := by cases body <;> simp_all
  kindKey_inject _ := rfl
  resourceCount_inject _ := rfl
  comment_inject _ := rfl
  records_inject _ := rfl
  encode_inject _ := rfl

instance : Hosts Builtin MailExchangers where
  inject := .mailExchangers
  project?
    | .mailExchangers body => some body
    | _ => none
  project?_inject _ := rfl
  inject_of_project? {body kind} found := by cases body <;> simp_all
  kindKey_inject _ := rfl
  resourceCount_inject _ := rfl
  comment_inject _ := rfl
  records_inject _ := rfl
  encode_inject _ := rfl

instance : Hosts Builtin Server where
  inject := .server
  project?
    | .server body => some body
    | _ => none
  project?_inject _ := rfl
  inject_of_project? {body kind} found := by cases body <;> simp_all
  kindKey_inject _ := rfl
  resourceCount_inject _ := rfl
  comment_inject _ := rfl
  records_inject _ := rfl
  encode_inject _ := rfl

instance : Hosts Builtin Alias where
  inject := .link
  project?
    | .link body => some body
    | _ => none
  project?_inject _ := rfl
  inject_of_project? {body kind} found := by cases body <;> simp_all
  kindKey_inject _ := rfl
  resourceCount_inject _ := rfl
  comment_inject _ := rfl
  records_inject _ := rfl
  encode_inject _ := rfl

instance : Hosts Builtin Orphan where
  inject := .orphan
  project?
    | .orphan body => some body
    | _ => none
  project?_inject _ := rfl
  inject_of_project? {body kind} found := by cases body <;> simp_all
  kindKey_inject _ := rfl
  resourceCount_inject _ := rfl
  comment_inject _ := rfl
  records_inject _ := rfl
  encode_inject _ := rfl

end Builtin

namespace Registry

variable {Memory Body : Type} [ServiceBody Body] [Hosts Body Challenge] [Hosts Body MailExchangers]
  [Hosts Body Server] [Hosts Body Alias] [Hosts Body Orphan]

/-- The built-in kinds, in the order in which they are registered. -/
def builtinRegistrations : List (Registration Memory Body) :=
  [ Challenge.registration, MailExchangers.registration, Server.registration, Alias.registration,
    Orphan.registration ]

/-- The registry of the built-in kinds. -/
def builtin : Registry Memory Body :=
  (empty.registerUntilRefused builtinRegistrations).1

end Registry

end ZoneServices
