import ZoneServices.CharacterString
import ZoneServices.Payload.Field
import ZoneServices.Payload.Generic
import ZoneServices.Payload.Locator
import ZoneServices.Payload.Token

/-!
# Payloads

What a record of each type may carry.  Free text is rewritten in the canonical form of its
character-strings, and the payload of a type without a mnemonic in the canonical generic form.
What the signing of a zone makes is carried as it is.  Every other payload has to be a list of
tokens that its type accepts, and is then kept as it was written.
-/

namespace ZoneServices.Payload

/-- Why a payload is not one of its type. -/
inductive Fault where
  | strings (fault : CharacterString.Fault)
  | generic (fault : Generic.Fault)
  | tokens
deriving DecidableEq, Repr

/-- The preference and the name of a mail exchanger; further tokens do not matter. -/
def exchanger? : List Text → Option (UInt16 × Name)
  | preference :: exchange :: _ =>
    match Numeral.word16? preference, Name.readInternational? exchange with
    | some preference, some exchange => some (preference, exchange)
    | _, _ => none
  | _ => none

/-- The name of a host; further tokens do not matter. -/
def host? : List Text → Option Name
  | token :: _ => Name.readInternational? token
  | [] => none

/-- Whether tokens start with two names, a serial number and four durations. -/
def isAuthority : List Text → Bool
  | server :: mailbox :: serial :: refresh :: retry :: expire :: minimum :: _ =>
    (Name.readInternational? server).isSome && (Name.readInternational? mailbox).isSome
      && (Field.duration? serial).isSome && (Field.signedDuration? refresh).isSome
      && (Field.signedDuration? retry).isSome && (Field.signedDuration? expire).isSome
      && (Field.duration? minimum).isSome
  | _ => false

/-- Whether tokens start with a priority, a weight, a port and the name of a host. -/
def isServicePlace : List Text → Bool
  | priority :: weight :: port :: target :: _ =>
    (Numeral.word16? priority).isSome && (Numeral.word16? weight).isSome
      && (Numeral.word16? port).isSome && (Name.readInternational? target).isSome
  | _ => false

/-- Whether tokens start with two numbers, flags, a service, an expression and a name. -/
def isNamingRule : List Text → Bool
  | order :: preference :: flags :: _ :: _ :: replacement :: _ =>
    (Numeral.word16? order).isSome && (Numeral.word16? preference).isSome && Field.isFlags flags
      && (Name.readInternational? replacement).isSome
  | _ => false

/-- Whether tokens start with flags, a property and a value that fits the property. -/
def isAuthorization : List Text → Bool
  | flags :: tag :: value :: _ =>
    (Numeral.octet? flags).isSome
      && (match String.ofList (Text.fold tag) with
          | "issue" | "issuewild" => Field.isIssuer value
          | "iodef" => Locator.isAbsolute value
          | _ => true)
  | _ => false

/-- Whether tokens are two numbers and a fingerprint. -/
def isKeyFingerprint : List Text → Bool
  | [algorithm, kind, fingerprint] =>
    (Numeral.octet? algorithm).isSome && (Numeral.octet? kind).isSome
      && Field.isFingerprint fingerprint
  | _ => false

/-- Whether tokens are three numbers and a certificate in any number of words. -/
def isCertificateBinding : List Text → Bool
  | usage :: selector :: matching :: data =>
    (Numeral.octet? usage).isSome && (Numeral.octet? selector).isSome
      && (Numeral.octet? matching).isSome && Field.isCertificate data
  | _ => false

/-- Whether tokens are a single key in base64. -/
def isPublicKey : List Text → Bool
  | [key] => Base64.isRun key
  | _ => false

/-- Whether the tokens ask a parent zone to follow record types of a child zone. -/
def isSynchronization : List Text → Bool
  | serial :: flags :: types =>
    (Numeral.word32? serial).isSome && (Numeral.word16? flags).isSome
      && types.all fun type => (RecordType.ofMnemonic? type).isSome
  | _ => false

/-- Whether tokens start with a priority and a target, and go on with parameters. -/
def isServiceBinding : List Text → Bool
  | priority :: target :: parameters =>
    (Numeral.word16? priority).isSome && Field.isTarget target && parameters.all Field.isParameter
  | _ => false

/-- Whether tokens are a payload of a form. -/
def acceptsTokens (tokens : List Text) : PayloadForm → Bool
  | .ipv4 => (tokens.head?.bind Ipv4.read?).isSome
  | .ipv6 => (tokens.head?.bind Ipv6.read?).isSome
  | .host => (host? tokens).isSome
  | .exchanger => (exchanger? tokens).isSome
  | .servicePlace => isServicePlace tokens
  | .authority => isAuthority tokens
  | .hostInformation => 2 ≤ tokens.length
  | .authorization => isAuthorization tokens
  | .namingRule => isNamingRule tokens
  | .keyFingerprint => isKeyFingerprint tokens
  | .certificateBinding => isCertificateBinding tokens
  | .publicKey => isPublicKey tokens
  | .synchronization => isSynchronization tokens
  | .serviceBinding => isServiceBinding tokens
  | .anything => true
  | .strings | .generic | .carried | .nothing => false

/-- A payload that is kept as it was written if its tokens have a form. -/
def keepTokens (form : PayloadForm) (payload : Text) : Except Fault Text :=
  match tokens? payload with
  | some tokens => if acceptsTokens tokens form then .ok payload else .error .tokens
  | none => .error .tokens

/-- Canonical form of a payload of a type, or why it is not one. -/
def normalize (type : RecordType) (payload : Text) : Except Fault Text :=
  match type.form with
  | .strings =>
    match CharacterString.readAll payload with
    | .ok strings => .ok (CharacterString.writeAll strings)
    | .error fault => .error (.strings fault)
  | .generic =>
    match Generic.normalize payload with
    | .ok canonical => .ok canonical
    | .error fault => .error (.generic fault)
  | .carried => .ok payload
  | form => keepTokens form payload

end ZoneServices.Payload
