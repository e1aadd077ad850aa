import ZoneServices.Text.Utf8

/-!
# Base64

The standard alphabet with padding.  Reading accepts exactly what writing produces: the padding
must be there and exact, and the bits that no octet takes must be zero.  Texts that were put
together from several encodings can only be checked, not read.
-/

namespace ZoneServices.Base64

/-- The digit of six bits. -/
def digit (value : Nat) : Char :=
  if value < 26 then Char.ofNat ('A'.toNat + value)
  else if value < 52 then Char.ofNat ('a'.toNat + (value - 26))
  else if value < 62 then Char.ofNat ('0'.toNat + (value - 52))
  else if value = 62 then '+'
  else '/'

/-- The six bits that a digit stands for. -/
def value? (character : Char) : Option Nat :=
  if 'A' ≤ character ∧ character ≤ 'Z' then some (character.toNat - 'A'.toNat)
  else if 'a' ≤ character ∧ character ≤ 'z' then some (character.toNat - 'a'.toNat + 26)
  else if '0' ≤ character ∧ character ≤ '9' then some (character.toNat - '0'.toNat + 52)
  else if character = '+' then some 62
  else if character = '/' then some 63
  else none

/-- Four digits for three octets each; the last group is padded. -/
def encode : Octets → Text
  | [] => []
  | [first] =>
    [digit (first.toNat / 4), digit (first.toNat % 4 * 16), '=', '=']
  | [first, second] =>
    [digit (first.toNat / 4), digit (first.toNat % 4 * 16 + second.toNat / 16),
      digit (second.toNat % 16 * 4), '=']
  | first :: second :: third :: rest =>
    digit (first.toNat / 4) :: digit (first.toNat % 4 * 16 + second.toNat / 16)
      :: digit (second.toNat % 16 * 4 + third.toNat / 64) :: digit (third.toNat % 64)
      :: encode rest

/-- The octets of a last group of four characters, which may be padded. -/
def decodeLast? (first second third fourth : Char) : Option Octets :=
  match value? first, value? second with
  | some a, some b =>
    if third = '=' ∧ fourth = '=' then
      if b % 16 = 0 then some [UInt8.ofNat (a * 4 + b / 16)] else none
    else
      match value? third with
      | none => none
      | some c =>
        if fourth = '=' then
          if c % 4 = 0 then
            some [UInt8.ofNat (a * 4 + b / 16), UInt8.ofNat (b % 16 * 16 + c / 4)]
          else
            none
        else
          (value? fourth).map fun d =>
            [UInt8.ofNat (a * 4 + b / 16), UInt8.ofNat (b % 16 * 16 + c / 4),
              UInt8.ofNat (c % 4 * 64 + d)]
  | _, _ => none

/-- The octets that a text writes; only the last group may be padded. -/
def decode? : Text → Option Octets
  | [] => some []
  | [first, second, third, fourth] => decodeLast? first second third fourth
  | first :: second :: third :: fourth :: rest =>
    match value? first, value? second, value? third, value? fourth with
    | some a, some b, some c, some d =>
      (decode? rest).map fun octets =>
        UInt8.ofNat (a * 4 + b / 16) :: UInt8.ofNat (b % 16 * 16 + c / 4)
          :: UInt8.ofNat (c % 4 * 64 + d) :: octets
    | _, _, _, _ => none
  | _ => none

/--
Whether a text is made of base64 texts, one after the other, each of which may be padded.
-/
def isRun : Text → Bool
  | [] => true
  | first :: second :: third :: fourth :: rest =>
    (decodeLast? first second third fourth).isSome && isRun rest
  | _ => false

end ZoneServices.Base64
