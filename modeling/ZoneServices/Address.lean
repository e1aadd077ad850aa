import ZoneServices.Text.Numeral

/-!
# Addresses

Network addresses of both protocol versions.  Four octets are written in decimal between dots,
without leading zeros.  Eight groups of sixteen bits are written in hexadecimal between colons;
two colons stand for a run of zero groups, and the last two groups may be written as four
octets.

The written form is unique: lower case, the first longest run of at least two zero groups left
out, and octets only in an address that maps one of four octets.
-/

namespace ZoneServices

/-- An address of four octets. -/
structure Ipv4 where
  first : UInt8
  second : UInt8
  third : UInt8
  fourth : UInt8
deriving DecidableEq, Repr

/-- An address of eight groups. -/
structure Ipv6 where
  groups : Vector UInt16 8
deriving DecidableEq, Repr

/-- An address of either version. -/
inductive Address where
  | v4 (address : Ipv4)
  | v6 (address : Ipv6)
deriving DecidableEq, Repr

namespace Ipv4

/-- The octet that a decimal numeral writes, which has no zeros in front. -/
def octet? (text : Text) : Option UInt8 :=
  if 1 < text.length ∧ text.head? = some '0' then none
  else
    match Numeral.natural? text with
    | some value => if value < 256 then some (UInt8.ofNat value) else none
    | none => none

/-- The address that four numerals between dots write. -/
def read? (text : Text) : Option Ipv4 :=
  match Text.fields '.' text with
  | [first, second, third, fourth] =>
    match octet? first, octet? second, octet? third, octet? fourth with
    | some first, some second, some third, some fourth => some ⟨first, second, third, fourth⟩
    | _, _, _, _ => none
  | _ => none

/-- Four decimal numerals between dots. -/
def write (address : Ipv4) : Text :=
  Text.joined ['.'] <|
    [address.first, address.second, address.third, address.fourth].map
      fun octet => Numeral.decimal octet.toNat

/-- The two groups that the octets fill. -/
def toGroups (address : Ipv4) : List UInt16 :=
  [ UInt16.ofNat (address.first.toNat * 256 + address.second.toNat),
    UInt16.ofNat (address.third.toNat * 256 + address.fourth.toNat) ]

/-- The address whose octets fill two groups. -/
def ofGroups (upper lower : UInt16) : Ipv4 :=
  ⟨UInt8.ofNat (upper.toNat / 256), UInt8.ofNat (upper.toNat % 256),
    UInt8.ofNat (lower.toNat / 256), UInt8.ofNat (lower.toNat % 256)⟩

end Ipv4

namespace Ipv6

/-- The address of a list of groups, if there are eight. -/
def ofList? (groups : List UInt16) : Option Ipv6 :=
  if size : groups.length = 8 then some ⟨⟨groups.toArray, by simp [size]⟩⟩ else none

/-- The group that at most four hexadecimal digits write, in letters of any case. -/
def group? (text : Text) : Option UInt16 :=
  if text.length ≤ 4 then (Numeral.hexNatural? text).map UInt16.ofNat else none

/--
The groups that the fields between colons write; `dotted` allows the last one to be four octets.
-/
def groupsOf? (dotted : Bool) : List Text → Option (List UInt16)
  | [] => some []
  | [last] =>
    match group? last with
    | some group => some [group]
    | none => if dotted then (Ipv4.read? last).map Ipv4.toGroups else none
  | field :: rest =>
    match group? field, groupsOf? dotted rest with
    | some group, some groups => some (group :: groups)
    | _, _ => none

/-- The groups on one side of two colons, where there may be none. -/
def side? (dotted : Bool) (text : Text) : Option (List UInt16) :=
  if text.isEmpty then some [] else groupsOf? dotted (Text.fields ':' text)

/-- What stands before and after the first two colons in a row. -/
def splitAtGap? : Text → Option (Text × Text)
  | [] => none
  | character :: rest =>
    if character = ':' ∧ rest.head? = some ':' then some ([], rest.drop 1)
    else (splitAtGap? rest).map fun sides => (character :: sides.1, sides.2)

/--
The address that a text writes: with eight groups, or with two colons for at least one zero group.
-/
def read? (text : Text) : Option Ipv6 :=
  match splitAtGap? text with
  | none => (groupsOf? true (Text.fields ':' text)).bind ofList?
  | some (before, after) =>
    match side? false before, side? true after with
    | some upper, some lower =>
      if upper.length + lower.length ≤ 7 then
        ofList? (upper ++ List.replicate (8 - (upper.length + lower.length)) 0 ++ lower)
      else
        none
    | _, _ => none

/-- Number of zero groups in front. -/
def zeroRun (groups : List UInt16) : Nat :=
  (groups.takeWhile (· == 0)).length

/-- Where the first longest run of zero groups starts, and how many groups it has. -/
def longestZeroRun (groups : List UInt16) : Nat × Nat :=
  (List.range groups.length).foldl
    (fun best start =>
      let run := zeroRun (groups.drop start)
      if best.2 < run then (start, run) else best)
    (0, 0)

/-- Hexadecimal numerals without zeros in front, between colons. -/
def writeGroups (groups : List UInt16) : Text :=
  Text.joined [':'] (groups.map fun group => Numeral.hexadecimal group.toNat)

/-- Written form of an address. -/
def write (address : Ipv6) : Text :=
  match address.groups.toList with
  | [0, 0, 0, 0, 0, 0xFFFF, upper, lower] => "::ffff:".toList ++ (Ipv4.ofGroups upper lower).write
  | groups =>
    let run := longestZeroRun groups
    if 1 < run.2 then
      writeGroups (groups.take run.1) ++ "::".toList ++ writeGroups (groups.drop (run.1 + run.2))
    else
      writeGroups groups

end Ipv6

namespace Address

/-- The address that a text writes, of four octets or else of eight groups. -/
def read? (text : Text) : Option Address :=
  match Ipv4.read? text with
  | some address => some (.v4 address)
  | none => (Ipv6.read? text).map .v6

/-- The written form of an address, which is unique. -/
def write : Address → Text
  | .v4 address => address.write
  | .v6 address => address.write

end Address

end ZoneServices
