import ZoneServices.Address
import ZoneServices.Name.Reader
import ZoneServices.Payload.Token
import ZoneServices.RecordType
import ZoneServices.Text.Base64

/-!
# Fields of a payload

Readers for the single tokens of a payload: durations, hexadecimal data, values of certification
authorities and service parameters.  Numbers, names, addresses and locators are read by modules
of their own.
-/

namespace ZoneServices.Payload.Field

/-! ## Durations -/

/-- Number of seconds in a unit of time, named by a letter of either case. -/
def secondsIn? (unit : Char) : Option Nat :=
  match unit.toLower with
  | 's' => some 1
  | 'm' => some 60
  | 'h' => some 3600
  | 'd' => some 86400
  | 'w' => some 604800
  | _ => none

/-- A number of seconds, if it is one of thirty-two bits. -/
def seconds? (value : Nat) : Option Nat :=
  if value < UInt32.size then some value else none

/-- Seconds of a duration, given those of the units before and the number under way. -/
def durationFrom? : (total : Nat) → (pending : Option Nat) → Text → Option Nat
  | total, none, [] => some total
  | total, some number, [] => seconds? (total + number)
  | total, pending, character :: rest =>
    match Text.digit? character with
    | some digit => durationFrom? total (some (pending.getD 0 * 10 + digit)) rest
    | none =>
      match pending, secondsIn? character with
      | some number, some unit =>
        match seconds? (total + number * unit) with
        | some total => durationFrom? total none rest
        | none => none
      | _, _ => none

/-- Seconds of a duration: numbers with a unit each, the last of which may be left out. -/
def duration? (token : Text) : Option Nat :=
  if token.isEmpty then none else durationFrom? 0 none token

/-- Seconds of a duration that also fits a signed number. -/
def signedDuration? (token : Text) : Option Nat :=
  (duration? token).filter (· < UInt32.size / 2)

/-! ## Data -/

/-- Whether a text is made of hexadecimal digits, two for each octet. -/
def isHexadecimal (text : Text) : Bool :=
  text.all Text.isHexDigit && text.length % 2 == 0

/-- A text without the spaces and line ends in it. -/
def withoutSpaces (text : Text) : Text :=
  text.filter fun character => !" \t\r\n".toList.contains character

/-- Whether a token is a fingerprint: octets in hexadecimal, between which spaces do not count. -/
def isFingerprint (token : Text) : Bool :=
  !token.isEmpty && isHexadecimal (withoutSpaces token)

/--
Whether the tokens together are octets in hexadecimal, at least one, between which spaces do not
count.
-/
def isCertificate (tokens : List Text) : Bool :=
  let digits := withoutSpaces tokens.flatten
  !digits.isEmpty && isHexadecimal digits

/-- Whether a token consists of letters and digits. -/
def isFlags (token : Text) : Bool :=
  token.all Name.isAlphanumeric

/-! ## Certification authorities -/

/-- Where a reader of issuer parameters stands. -/
inductive IssuerPlace where
  | before
  /-- Inside a key of so many characters. -/
  | key (size : Nat)
  | value

/-- The place after one more character of the parameters of an issuer, if it may stand there. -/
def IssuerPlace.step (place : IssuerPlace) (character : Char) : Option IssuerPlace :=
  match place with
  | .before =>
    if character = ';' ∨ character = ' ' ∨ character = '\t' then some .before
    else if Name.isAlphanumeric character then some (.key 1)
    else none
  | .key size =>
    if character = '=' then some .value
    else if Name.isAlphanumeric character || (1 < size && character == '-') then
      some (.key (size + 1))
    else none
  | .value =>
    if character = ';' then some .before
    else if Text.isControl character || Text.isBlank character then none
    else some .value

/--
Whether a text is a list of issuer parameters; each octet counts as the character of its number.
-/
def isIssuerParameters (text : Text) : Bool :=
  let characters := (Utf8.encode text).map fun octet => Char.ofNat octet.toNat
  match characters.foldlM IssuerPlace.step IssuerPlace.before with
  | some .before | some .value => true
  | some (.key _) | none => false

/-- Whether a token names an issuer: a name, or nothing, and parameters after a semicolon. -/
def isIssuer (token : Text) : Bool :=
  let name := token.takeWhile (· != ';')
  (name.isEmpty || (Name.readInternational? name).isSome)
    && isIssuerParameters ((token.dropWhile (· != ';')).drop 1)

/-! ## Service parameters -/

/-- Keys of service parameters. -/
inductive ParameterKey where
  | mandatory
  | protocols
  | noDefaultProtocol
  | port
  | ipv4Hint
  | encryptedHello
  | ipv6Hint
  | privateUse
  | invalid
  | unassigned
deriving DecidableEq, Repr

/-- The key that a number stands for. -/
def ParameterKey.ofNumber (number : Nat) : ParameterKey :=
  match number with
  | 0 => .mandatory
  | 1 => .protocols
  | 2 => .noDefaultProtocol
  | 3 => .port
  | 4 => .ipv4Hint
  | 5 => .encryptedHello
  | 6 => .ipv6Hint
  | _ =>
    if number < 65280 then .unassigned else if number < 65535 then .privateUse else .invalid

/-- The key that a text names, `key` before a number naming the one of that number. -/
def ParameterKey.read? (text : Text) : Option ParameterKey :=
  match String.ofList text with
  | "mandatory" => some .mandatory
  | "alpn" => some .protocols
  | "no-default-alpn" => some .noDefaultProtocol
  | "port" => some .port
  | "ipv4hint" => some .ipv4Hint
  | "ech" => some .encryptedHello
  | "ipv6hint" => some .ipv6Hint
  | _ =>
    match text with
    | 'k' :: 'e' :: 'y' :: number => (Numeral.word16? number).map fun n => .ofNumber n.toNat
    | _ => none

/-- The token at the front of a value, given the walk up to a place before that token ends. -/
def frontTokenFrom? (walk : Walk) : Text → Option Text
  | [] =>
    match walk.place with
    | .bare word | .listBare _ word => some word.reverse
    | _ => none
  | character :: rest =>
    match walk.step character with
    | some ⟨[], .between⟩ | none => none
    | some ⟨token :: _, _⟩ => if walk.place.isInList then none else some token
    | some walk => frontTokenFrom? walk rest

/--
The token that a value starts with, of which there is none behind a blank or a comment.  What
follows it does not count.  A list is no token, but the last one of a list that is not closed is.
-/
def frontToken? (value : Text) : Option Text :=
  match value with
  | ';' :: _ => none
  | _ => frontTokenFrom? Walk.start value

/--
The items of a list between commas, of which those at the end do not count; each has to be a
token.
-/
def listItems? (value : Text) : Option (List Text) :=
  (Text.fields ',' (Text.dropEndWhile (· == ',') value)).mapM frontToken?

/-- Whether a value, or none, fits the key of a service parameter. -/
def isParameterOf : ParameterKey → (value : Option Text) → Bool
  | .mandatory, some value => ((listItems? value).bind (·.mapM ParameterKey.read?)).isSome
  | .protocols, some value => (listItems? value).isSome
  | .noDefaultProtocol, none => true
  | .port, some value => ((frontToken? value).bind Numeral.word16?).isSome
  | .ipv4Hint, some value => ((listItems? value).bind (·.mapM Ipv4.read?)).isSome
  | .encryptedHello, some value => (frontToken? value).any Base64.isRun
  | .ipv6Hint, some value => ((listItems? value).bind (·.mapM Ipv6.read?)).isSome
  | .privateUse, _ => true
  | _, _ => false

/-- Whether a token is a service parameter: a key, and a value after an equals sign. -/
def isParameter (token : Text) : Bool :=
  match ParameterKey.read? (token.takeWhile (· != '=')) with
  | none => false
  | some key =>
    match token.dropWhile (· != '=') with
    | [] => isParameterOf key none
    | _ :: value => isParameterOf key (some value)

/-- Whether a token names the target of a service, under either rule for labels. -/
def isTarget (token : Text) : Bool :=
  (Name.readInternational? token).isSome || (Name.readAscii? token).isSome

end ZoneServices.Payload.Field
