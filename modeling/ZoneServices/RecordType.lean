import ZoneServices.Text.Numeral

/-!
# Record types

A record type is its number.  Most types in use also have a mnemonic; any type can be written as
`TYPE` and its number, and that is how a type without a mnemonic is shown.  Three mnemonics are
shown but not read back: the number is the only way to write those types.
-/

namespace ZoneServices

/-- The type of a resource record. -/
structure RecordType where
  code : UInt16
deriving DecidableEq, Repr

/-- How the payload of a record type is written. -/
inductive PayloadForm where
  | strings
  /-- Octets in hexadecimal, for types without a mnemonic. -/
  | generic
  /-- Whatever the signing of the zone wrote. -/
  | carried
  | ipv4
  | ipv6
  | host
  | exchanger
  | servicePlace
  | authority
  | hostInformation
  | authorization
  | namingRule
  | keyFingerprint
  | certificateBinding
  | publicKey
  | synchronization
  | serviceBinding
  | anything
  /-- Nothing, for types that only exist in messages. -/
  | nothing
deriving DecidableEq, Repr

namespace RecordType

/-- The type of addresses of four octets. -/
def a : RecordType := ⟨1⟩

/-- The type of aliases, each of which leads to another name. -/
def cname : RecordType := ⟨5⟩

/-- The type of the hosts that take the mail of a domain. -/
def mx : RecordType := ⟨15⟩

/-- The type of texts. -/
def txt : RecordType := ⟨16⟩

/-- The type of addresses of eight groups. -/
def aaaa : RecordType := ⟨28⟩

/-- What is known about a type that has a mnemonic. -/
structure Entry where
  code : UInt16
  mnemonic : String
  form : PayloadForm
  /-- Whether the mnemonic can be read, not only shown. -/
  readable : Bool := true

/-- The types that have a mnemonic, in the order of their codes. -/
def entries : List Entry :=
  [ { code := 0, mnemonic := "ZERO", form := .anything, readable := false },
    { code := 1, mnemonic := "A", form := .ipv4 },
    { code := 2, mnemonic := "NS", form := .host },
    { code := 5, mnemonic := "CNAME", form := .host },
    { code := 6, mnemonic := "SOA", form := .authority },
    { code := 10, mnemonic := "NULL", form := .nothing },
    { code := 12, mnemonic := "PTR", form := .host },
    { code := 13, mnemonic := "HINFO", form := .hostInformation },
    { code := 15, mnemonic := "MX", form := .exchanger },
    { code := 16, mnemonic := "TXT", form := .strings },
    { code := 24, mnemonic := "SIG", form := .carried },
    { code := 25, mnemonic := "KEY", form := .carried },
    { code := 28, mnemonic := "AAAA", form := .ipv6 },
    { code := 33, mnemonic := "SRV", form := .servicePlace },
    { code := 35, mnemonic := "NAPTR", form := .namingRule },
    { code := 41, mnemonic := "OPT", form := .nothing, readable := false },
    { code := 43, mnemonic := "DS", form := .carried },
    { code := 44, mnemonic := "SSHFP", form := .keyFingerprint },
    { code := 46, mnemonic := "RRSIG", form := .carried },
    { code := 47, mnemonic := "NSEC", form := .carried },
    { code := 48, mnemonic := "DNSKEY", form := .carried },
    { code := 50, mnemonic := "NSEC3", form := .carried },
    { code := 51, mnemonic := "NSEC3PARAM", form := .carried },
    { code := 52, mnemonic := "TLSA", form := .certificateBinding },
    { code := 59, mnemonic := "CDS", form := .carried },
    { code := 60, mnemonic := "CDNSKEY", form := .carried },
    { code := 61, mnemonic := "OPENPGPKEY", form := .publicKey },
    { code := 62, mnemonic := "CSYNC", form := .synchronization },
    { code := 64, mnemonic := "SVCB", form := .serviceBinding },
    { code := 65, mnemonic := "HTTPS", form := .serviceBinding },
    { code := 250, mnemonic := "TSIG", form := .nothing },
    { code := 251, mnemonic := "IXFR", form := .nothing, readable := false },
    { code := 252, mnemonic := "AXFR", form := .nothing },
    { code := 255, mnemonic := "ANY", form := .nothing },
    { code := 257, mnemonic := "CAA", form := .authorization },
    { code := 65305, mnemonic := "ANAME", form := .host } ]

/-- The entry of a type, if it has a mnemonic. -/
def entry? (type : RecordType) : Option Entry :=
  entries.find? (·.code == type.code)

/-- What is written before the code of a type without a mnemonic. -/
def genericMark : Text := "TYPE".toList

/-- The mnemonic of a type, or else its code behind the generic mark. -/
def write (type : RecordType) : Text :=
  match type.entry? with
  | some entry => entry.mnemonic.toList
  | none => genericMark ++ Numeral.decimal type.code.toNat

/-- The type with a mnemonic, as far as it can be read; `*` is another word for `ANY`. -/
def ofMnemonic? (mnemonic : Text) : Option RecordType :=
  let mnemonic := if mnemonic = ['*'] then "ANY".toList else mnemonic
  (entries.find? fun entry => entry.readable && entry.mnemonic.toList == mnemonic).map
    fun entry => ⟨entry.code⟩

/-- The type that a word names in any letter case, by mnemonic or by number. -/
def read? (word : Text) : Option RecordType :=
  let word := Text.upper word
  if genericMark.isPrefixOf word then
    (Numeral.word16? (word.drop genericMark.length)).map RecordType.mk
  else
    ofMnemonic? word

/-- The form of the payloads of a type; types without a mnemonic have generic payloads. -/
def form (type : RecordType) : PayloadForm :=
  match type.entry? with
  | some entry => entry.form
  | none => .generic

/-- Whether records of a type come from the signing of a zone. -/
def isSigning (type : RecordType) : Bool :=
  type.form == .carried

end RecordType

end ZoneServices
