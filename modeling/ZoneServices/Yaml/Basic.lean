import ZoneServices.Text.Numeral

/-!
# YAML documents

Settings are written as YAML.  The nodes of a document are scalars, sequences and mappings.  The
style of a scalar decides whether it can be a number: one without quotes can, one in quotes
cannot, and one that keeps its lines can if its tag says so.
-/

namespace ZoneServices

/-- How a scalar is written. -/
inductive ScalarStyle where
  /-- Without quotes. -/
  | plain
  /-- As lines whose ends are kept. -/
  | literal
  /-- In quotes, or as lines that are folded. -/
  | text
deriving DecidableEq, Repr

/-- A node of a YAML document. -/
inductive Yaml where
  | scalar (style : ScalarStyle) (tag : Option Text) (value : Text)
  | sequence (items : List Yaml)
  | mapping (members : List (Yaml × Yaml))
deriving Repr, BEq, Inhabited

namespace Yaml

/-- The node that was left out. -/
def missing : Yaml := .scalar .plain none []

/-- The text of a scalar. -/
def text? : Yaml → Option Text
  | .scalar _ _ value => some value
  | _ => none

/-- Value of a digit in a base of at most sixteen. -/
def digitIn? (base : Nat) (character : Char) : Option Nat :=
  match Text.hexDigit? character with
  | some value => if value < base then some value else none
  | none => none

/-- Value of a numeral in a base, which has at least one digit. -/
def numeralIn? (base : Nat) (text : Text) : Option Nat :=
  if text.isEmpty then none
  else text.foldlM (fun value character => (digitIn? base character).map (value * base + ·)) 0

/--
The natural number that a text writes: in decimal without leading zeros, or after `0x`, `0o` or
`0b` in another base, and with or without a plus sign.
-/
def numeral? (text : Text) : Option Nat :=
  match Numeral.withoutPlus text with
  | '0' :: 'x' :: digits => numeralIn? 16 digits
  | '0' :: 'o' :: digits => numeralIn? 8 digits
  | '0' :: 'b' :: digits => numeralIn? 2 digits
  | '0' :: _ :: _ => none
  | digits => numeralIn? 10 digits

/-- The tag that says that a scalar is a whole number. -/
def integerTag : Text := "tag:yaml.org,2002:int".toList

/-- The natural number that a node stands for, as far as its style lets it be one. -/
def natural? : Yaml → Option Nat
  | .scalar .plain _ value => numeral? value
  | .scalar .literal tag value => if tag == some integerTag then numeral? value else none
  | _ => none

end Yaml

end ZoneServices
