import ZoneServices.Kind.Grouping

/-!
# Mail exchangers

All mail exchangers of a name make one service.  They are written at one time to live, that of
the first of them.
-/

namespace ZoneServices

/-- A mail exchanger. -/
structure MailExchanger where
  /-- Lower ones are preferred. -/
  preference : UInt16
  target : Text
deriving DecidableEq, Repr

/-- The mail exchangers of a name, in the order of their records. -/
structure MailExchangers where
  exchangers : List MailExchanger
deriving DecidableEq, Repr

namespace MailExchanger

/-- The exchanger of a payload, which has just two words. -/
def ofPayload? (payload : Text) : Option MailExchanger :=
  if (Text.words payload).length = 2 then
    ((Payload.tokens? payload).bind Payload.exchanger?).map fun (preference, exchange) =>
      ⟨preference, exchange.write⟩
  else
    none

/-- The payload of an exchanger, its target made absolute, for a service on a subdomain. -/
def payload (exchanger : MailExchanger) (subdomain : Text) : Except SynthesisError Text :=
  if exchanger.target.isEmpty then
    .error (.invalidRecord subdomain "mail exchanger without target".toList)
  else
    match Name.readAscii? (Owner.qualified exchanger.target) with
    | some exchange =>
      .ok (Numeral.decimal exchanger.preference.toNat ++ ' ' :: exchange.write)
    | none =>
      .error <| .invalidRecord subdomain <|
        "invalid mail exchanger '".toList ++ exchanger.target ++ "': ".toList
          ++ Wording.syntaxComplaint.toList

/-- The JSON form of an exchanger. -/
def encode (exchanger : MailExchanger) : Json :=
  .ofMembers
    [ ("Preference", .ofNat exchanger.preference.toNat),
      ("Target", .string exchanger.target) ]

/-- The exchanger of a JSON form, which has a preference and a target. -/
def decode? (value : Json) : Option MailExchanger := do
  let [preference, target] ← value.fields? ["Preference", "Target"]
    | none
  return ⟨← Json.required Json.word16? preference, ← Json.required Json.text? target⟩

end MailExchanger

namespace MailExchangers

/-- One record for each exchanger, if all of them can be written. -/
def records (mail : MailExchangers) (subdomain : Text) (ttl : UInt32) (origin : Text) :
    Except SynthesisError (List Record) :=
  mail.exchangers.mapM fun exchanger =>
    (exchanger.payload subdomain).map (Record.make subdomain .mx ttl origin)

instance : ServiceKind MailExchangers where
  key := "abstract.MXs".toList
  blank := ⟨[]⟩
  decode? value := do
    let [exchangers] ← value.fields? ["MXs"]
      | none
    return ⟨← Json.required (Json.list? MailExchanger.decode?) exchangers⟩
  kindKey _ := "abstract.MXs".toList
  kindKey_eq _ := rfl
  resourceCount mail := mail.exchangers.length
  comment mail _ :=
    Text.joined [',', ' '] (mail.exchangers.map fun exchanger => Text.trimEndDots exchanger.target)
  records := records
  encode mail := .ofMembers [("MXs", .ofList MailExchanger.encode mail.exchangers)]

/-- Exchangers with one more behind them. -/
def add (mail : MailExchangers) (exchanger : MailExchanger) : MailExchangers :=
  ⟨mail.exchangers ++ [exchanger]⟩

variable {Memory Body : Type} [ServiceBody Body] [Hosts Body MailExchangers]

/-- Gathers the exchangers of each owner in one service. -/
def recognizer : Recognizer Memory Body := do
  Grouping.gather (fun record => MailExchanger.ofPayload? record.payload)
    (fun exchanger => MailExchangers.mk [exchanger]) add []
    (← Recognition.search [.ofType .mx])

/-- The kind as it is registered. -/
def registration : Registration Memory Body :=
  .ofKind MailExchangers
    { name := "E-Mail Servers".toList
      description := "Mail exchangers receiving e-mail for the subdomain.".toList
      family := .byPurpose
      categories := ["email".toList]
      restrictions := { single := true, neededTypes := ["MX".toList] } }
    10 (some recognizer)

end MailExchangers

end ZoneServices
