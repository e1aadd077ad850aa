import ZoneServices.Text.Basic

/-!
# UTF-8

Octets and the texts they stand for.  A list of octets is cut into pieces: a character for each
well-formed sequence, and otherwise the longest run of octets that starts a well-formed sequence
without finishing it (at least one octet).  Every octet belongs to exactly one piece, so a lossy
reading replaces each broken piece by one replacement character and loses nothing else.
-/

namespace ZoneServices

/-- A list of octets, which may or may not be the UTF-8 of a text. -/
abbrev Octets : Type := List UInt8

namespace Utf8

/-- The octets of a text. -/
def encode (text : Text) : Octets :=
  text.flatMap String.utf8EncodeChar

/--
What the first octet of a sequence asks for: how many octets follow, and the range of the first
of them.
-/
structure Lead where
  following : Nat
  low : UInt8
  high : UInt8

/-- What a first octet asks for, if a well-formed sequence can start with it. -/
def lead? (octet : UInt8) : Option Lead :=
  if octet < 0x80 then some ⟨0, 0x80, 0xBF⟩
  else if octet < 0xC2 then none
  else if octet < 0xE0 then some ⟨1, 0x80, 0xBF⟩
  else if octet = 0xE0 then some ⟨2, 0xA0, 0xBF⟩
  else if octet = 0xED then some ⟨2, 0x80, 0x9F⟩
  else if octet < 0xF0 then some ⟨2, 0x80, 0xBF⟩
  else if octet = 0xF0 then some ⟨3, 0x90, 0xBF⟩
  else if octet < 0xF4 then some ⟨3, 0x80, 0xBF⟩
  else if octet = 0xF4 then some ⟨3, 0x80, 0x8F⟩
  else none

/-- The octets at the front that can follow a first octet, at most `count` of them. -/
def continuation : (count : Nat) → (low high : UInt8) → Octets → Octets
  | 0, _, _, _ => []
  | _ + 1, _, _, [] => []
  | count + 1, low, high, octet :: rest =>
    if low ≤ octet ∧ octet ≤ high then octet :: continuation count 0x80 0xBF rest else []

/-- A piece of a list of octets: a character, or octets that finish none. -/
inductive Piece where
  | character (value : Char)
  | broken (octets : Octets)
deriving DecidableEq, Repr

/-- The bits of a first octet that belong to the code point, when `following` octets follow it. -/
def leadBits (octet : UInt8) : (following : Nat) → Nat
  | 0 => octet.toNat
  | 1 => octet.toNat % 32
  | 2 => octet.toNat % 16
  | _ => octet.toNat % 8

/-- The character of a well-formed sequence: six bits of each octet behind those of the first. -/
def assemble (octet : UInt8) (following : Octets) : Char :=
  Char.ofNat <|
    following.foldl (fun point next => point * 64 + next.toNat % 64)
      (leadBits octet following.length)

/--
The piece at the front of a list that starts with `octet`, and how many octets of `rest` belong
to it.
-/
def front (octet : UInt8) (rest : Octets) : Piece × Nat :=
  match lead? octet with
  | none => (.broken [octet], 0)
  | some lead =>
    let following := continuation lead.following lead.low lead.high rest
    if following.length = lead.following then
      (.character (assemble octet following), following.length)
    else
      (.broken (octet :: following), following.length)

/-- A list of octets in pieces, none of which is empty. -/
def pieces : Octets → List Piece
  | [] => []
  | octet :: rest =>
    let piece := front octet rest
    piece.1 :: pieces (rest.drop piece.2)
termination_by octets => octets.length
decreasing_by
  simp only [List.length_drop, List.length_cons]
  omega

/-- The text of a list of octets, with one replacement character for each broken piece. -/
def decodeLossy (octets : Octets) : Text :=
  (pieces octets).map fun
    | .character value => value
    | .broken _ => '\uFFFD'

/-- The text of a list of octets, if there is no broken piece. -/
def decode? (octets : Octets) : Option Text :=
  (pieces octets).mapM fun
    | .character value => some value
    | .broken _ => none

end Utf8

/-- Lower-case hexadecimal text of a list of octets, two digits for each. -/
def Octets.hexadecimal (octets : Octets) : Text :=
  octets.flatMap fun octet => [Text.hexDigit (octet.toNat / 16), Text.hexDigit (octet.toNat % 16)]

end ZoneServices
