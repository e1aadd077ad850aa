import ZoneServices.Text.Basic

/-!
# Numerals

Reading and writing of whole numbers in positional notation.  A numeral of a fixed-width field
may start with a plus sign and with zeros; one whose value does not fit the field is refused,
never cut.
-/

namespace ZoneServices.Numeral

/-- Value of a decimal numeral, which may start with zeros. -/
def natural? (text : Text) : Option Nat :=
  if text.isEmpty then none
  else text.foldlM (fun value character => (Text.digit? character).map (value * 10 + ·)) 0

/-- Value of a hexadecimal numeral in letters of either case, which may start with zeros. -/
def hexNatural? (text : Text) : Option Nat :=
  if text.isEmpty then none
  else text.foldlM (fun value character => (Text.hexDigit? character).map (value * 16 + ·)) 0

/-- A numeral without the plus sign that it may start with. -/
def withoutPlus : Text → Text
  | '+' :: rest => rest
  | text => text

/-- Value of an unsigned numeral below a limit, with an optional plus sign. -/
def unsigned? (limit : Nat) (text : Text) : Option Nat :=
  match natural? (withoutPlus text) with
  | some value => if value < limit then some value else none
  | none => none

/-- Value of an unsigned numeral of eight bits. -/
def octet? (text : Text) : Option UInt8 :=
  (unsigned? UInt8.size text).map UInt8.ofNat

/-- Value of an unsigned numeral of sixteen bits. -/
def word16? (text : Text) : Option UInt16 :=
  (unsigned? UInt16.size text).map UInt16.ofNat

/-- Value of an unsigned numeral of thirty-two bits. -/
def word32? (text : Text) : Option UInt32 :=
  (unsigned? UInt32.size text).map UInt32.ofNat

/-- Value of an unsigned numeral of sixty-four bits, which counts are kept in. -/
def count? (text : Text) : Option Nat :=
  unsigned? UInt64.size text

/-- Decimal numeral of a natural number, without leading zeros. -/
def decimal (value : Nat) : Text :=
  Nat.toDigits 10 value

/-- Lower-case hexadecimal numeral of a natural number, without leading zeros. -/
def hexadecimal (value : Nat) : Text :=
  Nat.toDigits 16 value

/-- Decimal numeral of a whole number, with a minus sign for one below zero. -/
def signed : Int → Text
  | .ofNat value => decimal value
  | .negSucc value => '-' :: decimal (value + 1)

/-- Decimal numeral with zeros in front, up to a width; one that is longer is not cut. -/
def padded (width value : Nat) : Text :=
  let digits := decimal value
  List.replicate (width - digits.length) '0' ++ digits

end ZoneServices.Numeral
