import ZoneServices.Registry

/-!
# Aliases

A name may stand for another one.
-/

namespace ZoneServices

/-- An alias of a name. -/
structure Alias where
  target : Text
deriving DecidableEq, Repr

namespace Alias

/-- The record of an alias, which must have a target. -/
def records (link : Alias) (subdomain : Text) (ttl : UInt32) (origin : Text) :
    Except SynthesisError (List Record) :=
  if link.target.isEmpty then
    .error (.invalidRecord subdomain "alias without target".toList)
  else
    .ok [Record.make subdomain .cname ttl origin (Owner.qualified link.target)]

instance : ServiceKind Alias where
  key := "svcs.CNAME".toList
  blank := ⟨[]⟩
  decode? value := do
    let [target] ← value.fields? ["Target"]
      | none
    return ⟨← Json.required Json.text? target⟩
  kindKey _ := "svcs.CNAME".toList
  kindKey_eq _ := rfl
  resourceCount _ := 1
  comment link _ := Text.trimEndDots link.target
  records := records
  encode link := .ofMembers [("Target", .string link.target)]

variable {Memory Body : Type} [ServiceBody Body] [Hosts Body Alias]

/-- Makes an alias of each of some records, except of those without a target. -/
def claimEach : List (Nat × Record) → Recognizer Memory Body
  | [] => return
  | (id, record) :: rest => do
    if !record.target.isEmpty then
      let _ ← Recognition.use id record.owner (Alias.mk record.target)
    claimEach rest

/-- Makes aliases of the free records of their type. -/
def recognizer : Recognizer Memory Body := do
  claimEach (← Recognition.search [.ofType .cname])

/-- The kind as it is registered; it runs behind the kinds that gather records. -/
def registration : Registration Memory Body :=
  .ofKind Alias
    { name := "Subdomain alias".toList
      description := "Make the subdomain an alias of another name.".toList
      family := .provider
      categories := ["alias".toList]
      restrictions := { alone := true, single := true, neededTypes := ["CNAME".toList] } }
    30 (some recognizer)

end Alias

end ZoneServices
