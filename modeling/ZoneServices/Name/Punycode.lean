import ZoneServices.Text.Basic

/-!
# Punycode

The encoding of a label with characters outside ASCII into ASCII letters, digits and hyphens.
The ASCII characters come first, in order; then, for each other code point from the smallest on,
the distance to the place where it is inserted, as a numeral in base thirty-six whose digits end
at thresholds that adapt to the distances seen so far.
-/

namespace ZoneServices.Punycode

/--
The digit of a value below thirty-six: a letter, or an ASCII digit for the values from twenty-six
on.
-/
def digit (value : Nat) : Char :=
  if value < 26 then Char.ofNat ('a'.toNat + value) else Char.ofNat ('0'.toNat + (value - 26))

/-- Value from which a digit at `position` does not end its numeral. -/
def threshold (position bias : Nat) : Nat :=
  if position ≤ bias + 1 then 1 else if bias + 26 ≤ position then 26 else position - bias

theorem one_le_threshold (position bias : Nat) : 1 ≤ threshold position bias := by
  unfold threshold
  split
  · omega
  · split <;> omega

/--
The numeral of a distance; its last digit is the first one below the threshold of its position.
-/
def distanceDigits (bias position distance : Nat) : Text :=
  let limit := threshold position bias
  if distance < limit then
    [digit distance]
  else
    digit (limit + (distance - limit) % (36 - limit))
      :: distanceDigits bias (position + 36) ((distance - limit) / (36 - limit))
termination_by distance
decreasing_by
  have positive := one_le_threshold position bias
  have bounded :=
    Nat.div_le_self (distance - threshold position bias) (36 - threshold position bias)
  omega

/--
How often a distance has to be divided by thirty-five to fall below the damping bound, and what
is left.
-/
def damp (distance rounds : Nat) : Nat × Nat :=
  if 455 < distance then damp (distance / 35) (rounds + 36) else (rounds, distance)
termination_by distance
decreasing_by exact Nat.div_lt_self (by omega) (by omega)

/-- Bias after a distance, when `count` characters are in place. -/
def adapt (distance count : Nat) (isFirst : Bool) : Nat :=
  let halved := if isFirst then distance / 700 else distance / 2
  let damped := damp (halved + halved / count) 0
  damped.1 + 36 * damped.2 / (damped.2 + 38)

/-- What has been written so far. -/
structure Progress where
  written : Text
  distance : Nat
  bias : Nat
  placed : Nat

/-- Progress over one character of the label, while `point` is the code point being inserted. -/
def Progress.scan (basic point : Nat) (progress : Progress) (character : Char) : Progress :=
  if character.toNat < point then
    { progress with distance := progress.distance + 1 }
  else if character.toNat = point then
    { written := progress.written ++ distanceDigits progress.bias 36 progress.distance
      distance := 0
      bias := adapt progress.distance (progress.placed + 1) (progress.placed == basic)
      placed := progress.placed + 1 }
  else
    progress

/--
Progress over all code points that are to be inserted; `next` is the smallest one still
possible.
-/
def Progress.insertAll (label : Text) (basic : Nat) :
    List Nat → (next : Nat) → Progress → Progress
  | [], _, progress => progress
  | point :: points, next, progress =>
    let skipped := progress.distance + (point - next) * (progress.placed + 1)
    let scanned := label.foldl (Progress.scan basic point) { progress with distance := skipped }
    insertAll label basic points (point + 1) { scanned with distance := scanned.distance + 1 }

/-- Code points outside ASCII that a label holds, ascending, once each. -/
def extendedPoints (label : Text) : List Nat :=
  ((label.filter (!Text.isAscii ·)).map Char.toNat).eraseDups.mergeSort

/-- Encoding of a label, without the mark that announces one. -/
def encode (label : Text) : Text :=
  let basic := label.filter Text.isAscii
  let start : Progress := ⟨[], 0, 72, basic.length⟩
  let extension := (start.insertAll label basic.length (extendedPoints label) 128).written
  if basic.isEmpty then extension else basic ++ '-' :: extension

/-! ## Decoding -/

/-- Value of a digit, in lower case. -/
def value? (character : Char) : Option Nat :=
  if 'a' ≤ character ∧ character ≤ 'z' then some (character.toNat - 'a'.toNat)
  else (Text.digit? character).map (· + 26)

/--
The sum of a distance and the numeral at the front of a text, and the text after it; `weight` is
that of the digit at `position`.
-/
def readDistance? (bias : Nat) : (position weight distance : Nat) → Text → Option (Nat × Text)
  | _, _, _, [] => none
  | position, weight, distance, character :: rest =>
    match value? character with
    | none => none
    | some value =>
      let limit := threshold position bias
      let distance := distance + value * weight
      if value < limit then some (distance, rest)
      else readDistance? bias (position + 36) (weight * (36 - limit)) distance rest

/-- Reading a distance takes at least one digit. -/
theorem length_readDistance? {bias position weight distance : Nat} {text rest : Text}
    {sum : Nat} (read : readDistance? bias position weight distance text = some (sum, rest)) :
    rest.length < text.length := by
  induction text generalizing position weight distance with
  | nil => simp [readDistance?] at read
  | cons character others step =>
    unfold readDistance? at read
    split at read
    · simp at read
    · dsimp only at read
      split at read
      · cases read
        simp
      · have := step read
        simp only [List.length_cons]
        omega

/-- Whether a number is the code point of a character. -/
def isPoint (number : Nat) : Bool :=
  number < 0xD800 || (0xE000 ≤ number && number < 0x110000)

/--
The label that `placed` becomes when the characters that a text gives are inserted; `next` is the
smallest code point still possible and `distance` the place reached.
-/
def insertFrom? (bias next distance : Nat) (placed : Text) : Text → Option Text
  | [] => some placed
  | character :: rest =>
    match read : readDistance? bias 36 1 distance (character :: rest) with
    | none => none
    | some (sum, following) =>
      have := length_readDistance? read
      let size := placed.length + 1
      let point := next + sum / size
      if isPoint point then
        insertFrom? (adapt (sum - distance) size (distance == 0)) point (sum % size + 1)
          (placed.insertIdx (sum % size) (Char.ofNat point)) following
      else
        none
termination_by text => text.length
decreasing_by assumption

/-- The label that an encoding stands for, without the mark that announces one. -/
def decode? (text : Text) : Option Text :=
  let extension := (text.reverse.takeWhile (· != '-')).reverse
  let basic := text.take (text.length - extension.length - 1)
  if basic.isEmpty && text.contains '-' then none else insertFrom? 72 128 0 basic extension

end ZoneServices.Punycode
