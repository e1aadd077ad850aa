import ZoneServices.Text.Numeral
import ZoneServices.Text.Utf8

/-!
# Generic payloads

Types without a mnemonic carry their payload as octets in hexadecimal, behind a mark and the
number of octets. The digits may come in any number of words and in any letter case; the
canonical form has them in one word and in lower case, and no word at all for an empty payload.
-/

namespace ZoneServices.Payload.Generic

/-- The mark that a generic payload starts with. -/
def mark : Text := "\\#".toList

/-- Why a payload is not in generic form. -/
inductive Fault where
  | noMark
  | noLength
  | notHexadecimal
  | lengthMismatch (length digits : Nat)
deriving DecidableEq, Repr

/-- What is said of a payload that is not in generic form. -/
def Fault.message : Fault → String
  | .noMark =>
    let mark := String.ofList mark
    s!"expected '{mark} <length> <hex>'"
  | .noLength => "missing or invalid data length"
  | .notHexadecimal => "data is not hexadecimal"
  | .lengthMismatch length digits => s!"data length {length} does not match {digits} hex digits"

/-- Canonical form of a payload of `length` octets with the given digits. -/
def write (length : Nat) (digits : Text) : Text :=
  if digits.isEmpty then mark ++ " 0".toList
  else mark ++ ' ' :: Numeral.decimal length ++ ' ' :: Text.fold digits

/-- Canonical form of a payload, or why it is not in generic form. -/
def normalize (payload : Text) : Except Fault Text :=
  match Text.words payload with
  | [] => .error .noMark
  | first :: rest =>
    if first ≠ mark then .error .noMark
    else
      match rest with
      | [] => .error .noLength
      | second :: rest =>
        match Numeral.count? second with
        | none => .error .noLength
        | some length =>
          -- The digits may be written in groups.
          let digits := rest.flatten
          if !digits.all Text.isHexDigit then .error .notHexadecimal
          else if length * 2 ≠ digits.length then
            .error (.lengthMismatch length digits.length)
          else .ok (write length digits)

end ZoneServices.Payload.Generic
