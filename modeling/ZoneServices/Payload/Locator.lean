import ZoneServices.Address
import ZoneServices.Name.International
import ZoneServices.Text.Utf8

/-!
# Resource locators

A locator is absolute: it starts with a scheme, a letter followed by letters, digits and a few
marks, and a colon.  What follows is free, except that a host has to be well-formed.  The schemes
of the web have to name one; a file may be on one, and any other scheme may name one after two
slashes.

A host is an IPv6 address in brackets or a text.  To the web and to files it is a name in any
language, of which any octet may be written as a percent sign and two hexadecimal digits.  If the
last label of that name is a number, it is an IPv4 address, whose numbers may be written in octal
or hexadecimal and of which the last one stands for all octets that are left.
-/

namespace ZoneServices.Payload.Locator

/-! ## Hosts by number -/

/-- The number of a part of an IPv4 address in the widest sense, if it is one. -/
def hostNumber? (part : Text) : Option Nat :=
  let numeral (base : Nat) (digits : Text) : Option Nat :=
    digits.foldlM
      (fun value character =>
        (Text.hexDigit? character).bind fun digit =>
          if digit < base then some (value * base + digit) else none)
      0
  match Text.fold part with
  | [] => none
  | '0' :: 'x' :: digits => numeral 16 digits
  | '0' :: digits => numeral 8 digits
  | digits => numeral 10 digits

/-- The labels of a host, without an empty one at its end. -/
def hostLabels (host : Text) : List Text :=
  Text.fields '.' (if Text.endsWithDot host then host.dropLast else host)

/-- Whether the last label of a host is a number, so that the host has to be an address. -/
def isNumeric (host : Text) : Bool :=
  match (hostLabels host).getLast? with
  | some label => !label.isEmpty && (label.all Char.isDigit || (hostNumber? label).isSome)
  | none => false

/--
Whether numbers are those of an address whose last number stays below `limit` if it stands
alone.
-/
def fitAddress : (limit : Nat) → List Nat → Bool
  | _, [] => false
  | limit, [last] => last < limit
  | limit, first :: rest => first < UInt8.size && fitAddress (limit / UInt8.size) rest

/-- Whether the labels of a host are the numbers of an IPv4 address. -/
def isNumericAddress (host : Text) : Bool :=
  let labels := hostLabels host
  labels.length ≤ 4
    && match labels.mapM hostNumber? with
       | some numbers => fitAddress UInt32.size numbers
       | none => false

/-! ## Hosts by name -/

/-- The octets of a text in which a percent sign and two hexadecimal digits stand for one. -/
def percentDecoded : Text → Octets
  | [] => []
  | '%' :: first :: second :: rest =>
    match Text.hexDigit? first, Text.hexDigit? second with
    | some high, some low => UInt8.ofNat (high * 16 + low) :: percentDecoded rest
    | _, _ => Utf8.encode ['%'] ++ percentDecoded (first :: second :: rest)
  | character :: rest => Utf8.encode [character] ++ percentDecoded rest

/-- Whether a character cannot stand in a host. -/
def breaksHost (character : Char) : Bool :=
  "\x00\t\n\r #/:<>?@[\\]^|".toList.contains character

/-- Whether a character cannot stand in a host that is a name. -/
def breaksHostName (character : Char) : Bool :=
  breaksHost character || Text.isControl character || character == '%'

/-- The name in ASCII that a host stands for, with its percent signs decoded. -/
def hostName? (text : Text) : Option Text :=
  (Utf8.decode? (percentDecoded text)).bind (Name.toAscii? breaksHostName)

/-- Whether a host of the web or of a file is a name or an IPv4 address. -/
def isNamedHost (text : Text) : Bool :=
  match hostName? text with
  | some name => !name.isEmpty && (!isNumeric name || isNumericAddress name)
  | none => false

/-- Whether a host is an IPv6 address in brackets. -/
def isBracketedAddress (text : Text) : Bool :=
  text.getLast? == some ']' && (Ipv6.read? (text.drop 1).dropLast).isSome

/-- Whether a text is a host; the web takes names only, other schemes any text. -/
def isHost (isWeb : Bool) (text : Text) : Bool :=
  if text.head? == some '[' then isBracketedAddress text
  else if isWeb then isNamedHost text
  else !text.any breaksHost

/-! ## Authorities -/

/-- A host and what follows it, from the first colon outside brackets on. -/
def splitHost : (isInside : Bool) → Text → Text × Text
  | _, [] => ([], [])
  | isInside, character :: rest =>
    if character == ':' && !isInside then ([], character :: rest)
    else
      let parts := splitHost (character == '[' || (isInside && character != ']')) rest
      (character :: parts.1, parts.2)

/-- Whether a text is a port number, which may be left out, or starts with one and a backslash. -/
def isPort (text : Text) : Bool :=
  let digits := text.takeWhile Char.isDigit
  let following := (text.dropWhile Char.isDigit).head?
  (digits.isEmpty || (Numeral.natural? digits).any (· < UInt16.size))
    && (following.isNone || following == some '\\')

/-- Whether a text is a host and its port, or nothing if the host may be left out. -/
def isHostPort (isWeb mayBeEmpty : Bool) (text : Text) : Bool :=
  match splitHost false text with
  | ([], following) => mayBeEmpty && following.isEmpty
  | (host, following) => isHost isWeb host && isPort (following.drop 1)

/-- Whether a character ends the part that names the host; backslashes do in the web. -/
def endsAuthority (isWeb : Bool) (character : Char) : Bool :=
  "/?#".toList.contains character || (isWeb && character == '\\')

/--
Whether a text after the slashes of a locator starts with a host, behind a user if there is one.
The host may be left out if the scheme is not one of the web and there is no user either; an at
sign alone is a user if more follows.
-/
def startsWithHost (isWeb : Bool) (text : Text) : Bool :=
  let authority := text.takeWhile (!endsAuthority isWeb ·)
  let parts := Text.fields '@' authority
  let user := Text.joined ['@'] parts.dropLast
  let isNobody := authority == ['@'] && authority.length < text.length
  let mayBeEmpty := !isWeb && !isNobody && (user.isEmpty || user == [':'])
  isHostPort isWeb mayBeEmpty (parts.getLast?.getD [])

/-- Whether a character is a slash to the web, which takes backslashes for slashes. -/
def isSlash (character : Char) : Bool :=
  character == '/' || character == '\\'

/-- Whether a text names a drive in place of a host. -/
def isDrive : Text → Bool
  | [letter, mark] => letter.isAlpha && (mark == ':' || mark == '|')
  | _ => false

/-- Whether what follows the scheme of a file may do so: no host, a drive, or a host. -/
def isFilePlace : Text → Bool
  | first :: second :: rest =>
    let host := rest.takeWhile (!endsAuthority true ·)
    !isSlash first || !isSlash second || host.isEmpty || isDrive host || isHost true host
  | _ => true

/-! ## Schemes -/

/-- The schemes that have to name a host. -/
def webSchemes : List Text :=
  ["http", "https", "ws", "wss", "ftp"].map String.toList

/-- Whether a text is a scheme: a letter, then letters, digits and a few marks. -/
def isScheme : Text → Bool
  | [] => false
  | first :: rest =>
    first.isAlpha
      && rest.all fun character =>
        Name.isAlphanumeric character || "+-.".toList.contains character

/-- Whether a character does not count at either end of a locator. -/
def isMargin (character : Char) : Bool :=
  character.toNat ≤ 0x20

/--
A text without what does not count in a locator: its margins, and tabs and line ends anywhere.
-/
def trim (text : Text) : Text :=
  (Text.dropEndWhile isMargin (text.dropWhile isMargin)).filter
    fun character => !"\t\r\n".toList.contains character

/-- Whether a text is an absolute locator. -/
def isAbsolute (text : Text) : Bool :=
  let text := trim text
  let scheme := Text.fold (text.takeWhile (· != ':'))
  match text.dropWhile (· != ':') with
  | [] => false
  | _ :: rest =>
    isScheme scheme
      && if webSchemes.contains scheme then startsWithHost true (rest.dropWhile isSlash)
         else if scheme == "file".toList then isFilePlace rest
         else !"//".toList.isPrefixOf rest || startsWithHost false (rest.drop 2)

end ZoneServices.Payload.Locator
