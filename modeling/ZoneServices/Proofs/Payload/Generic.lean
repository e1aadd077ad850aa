import ZoneServices.Proofs.Payload

/-!
# What generic payloads denote

A payload in generic form denotes octets.  Their number may be spelled with zeros and a plus sign in
front, and their digits may be cut into words anywhere and come in either letter case; the canonical
form keeps the octets and nothing of how they were spelled.

The number of octets is given by the payload itself and may be as great as a word of the machine
holds.  Doubling it to compare it with the number of digits is done with a check, so a number whose
double does not fit a word is refused like any other that does not match.
-/

namespace ZoneServices

open Text

namespace Octets

/-! ## Spelled octets -/

/-- What holds of every digit and its value holds of a digit that has been read. -/
theorem of_hexDigit? (property : Char → Nat → Bool)
    (checked : (List.range 128).all fun point =>
      (hexDigit? (Char.ofNat point)).all (property (Char.ofNat point)))
    {character : Char} {digit : Nat} (found : hexDigit? character = some digit) :
    property character digit = true := by
  have isDigit : isHexDigit character = true := by
    rw [isHexDigit, found, Option.isSome_some]
  have ascii := Payload.toNat_lt_of_isHexDigit isDigit
  have held := Name.of_toNat_lt (fun other => (hexDigit? other).all (property other)) checked ascii
  rwa [found] at held

theorem lt_of_hexDigit? {character : Char} {digit : Nat}
    (found : hexDigit? character = some digit) : digit < 16 :=
  of_decide_eq_true (of_hexDigit? (fun _ digit => digit < 16) (by decide) found)

theorem toLower_of_hexDigit? {character : Char} {digit : Nat}
    (found : hexDigit? character = some digit) : character.toLower = hexDigit digit :=
  of_decide_eq_true (of_hexDigit? (fun character digit => character.toLower = hexDigit digit)
    (by decide) found)

/-- Octets are spelled by two hexadecimal digits for each of them, in either letter case. -/
inductive IsSpelled : Octets → Text → Prop
  | nil : IsSpelled [] []
  | cons {octet : UInt8} {high low : Char} {octets : Octets} {digits : Text}
      (upper : hexDigit? high = some (octet.toNat / 16))
      (lower : hexDigit? low = some (octet.toNat % 16)) (rest : IsSpelled octets digits) :
      IsSpelled (octet :: octets) (high :: low :: digits)

/-- Octets are spelled by their own hexadecimal text. -/
theorem isSpelled_hexadecimal (octets : Octets) : IsSpelled octets octets.hexadecimal := by
  induction octets with
  | nil => exact .nil
  | cons octet octets step =>
      have upper : octet.toNat / 16 < 16 := Nat.div_lt_of_lt_mul octet.toNat_lt
      exact .cons (Numeral.hexDigit?_hexDigit upper)
        (Numeral.hexDigit?_hexDigit (Nat.mod_lt _ (by omega))) step

/-- Digits that are cut into pairs spell octets. -/
theorem exists_isSpelled {digits : Text} {length : Nat}
    (hexadecimal : digits.all isHexDigit = true) (size : length * 2 = digits.length) :
    ∃ octets : Octets, octets.length = length ∧ octets.IsSpelled digits := by
  induction length generalizing digits with
  | zero =>
      rw [Nat.zero_mul, eq_comm, List.length_eq_zero_iff] at size
      subst size
      exact ⟨[], rfl, .nil⟩
  | succ length step =>
      match digits with
      | [] | [_] =>
          simp only [List.length_nil, List.length_singleton] at size
          omega
      | high :: low :: rest =>
          simp only [List.all_cons, Bool.and_eq_true] at hexadecimal
          rcases hexadecimal with ⟨isHigh, isLow, others⟩
          rcases Option.isSome_iff_exists.mp isHigh with ⟨upper, highDigit⟩
          rcases Option.isSome_iff_exists.mp isLow with ⟨lower, lowDigit⟩
          have upperSmall := lt_of_hexDigit? highDigit
          have lowerSmall := lt_of_hexDigit? lowDigit
          rcases step others (by simp only [List.length_cons] at size; omega) with
            ⟨octets, rfl, spelled⟩
          have value : (UInt8.ofNat (upper * 16 + lower)).toNat = upper * 16 + lower :=
            UInt8.toNat_ofNat_of_lt' (by change _ < 256; omega)
          refine ⟨UInt8.ofNat (upper * 16 + lower) :: octets, rfl, .cons ?_ ?_ spelled⟩
          · rw [highDigit, value, Option.some.injEq]
            omega
          · rw [lowDigit, value, Option.some.injEq]
            omega

namespace IsSpelled

variable {octets : Octets} {digits : Text}

theorem length (spelled : octets.IsSpelled digits) : octets.length * 2 = digits.length := by
  induction spelled with
  | nil => rfl
  | cons upper lower rest step =>
      rw [List.length_cons, List.length_cons, List.length_cons, ← step]
      omega

theorem all_isHexDigit (spelled : octets.IsSpelled digits) : digits.all isHexDigit = true := by
  induction spelled with
  | nil => rfl
  | cons upper lower rest step => simp [isHexDigit, upper, lower, step]

/-- Letter case aside, there is one spelling of some octets. -/
theorem fold_eq (spelled : octets.IsSpelled digits) : fold digits = octets.hexadecimal := by
  induction spelled with
  | nil => rfl
  | @cons octet high low octets digits upper lower rest step =>
      have pair : hexadecimal (octet :: octets) =
          hexDigit (octet.toNat / 16) :: hexDigit (octet.toNat % 16) :: octets.hexadecimal := rfl
      rw [pair, ← step, ← toLower_of_hexDigit? upper, ← toLower_of_hexDigit? lower]
      rfl

/-- Digits spell one list of octets. -/
theorem unique (spelled : octets.IsSpelled digits) {others : Octets}
    (again : others.IsSpelled digits) : others = octets := by
  induction spelled generalizing others with
  | nil =>
      cases again
      rfl
  | @cons octet high low octets digits upper lower rest step =>
      rcases again with _ | ⟨otherUpper, otherLower, more⟩
      rename_i other others
      have highs := Option.some.inj (upper.symm.trans otherUpper)
      have lows := Option.some.inj (lower.symm.trans otherLower)
      have same : other = octet := UInt8.toNat_inj.mp (by omega)
      rw [same, step more]

end IsSpelled

end Octets

namespace Payload.Generic

/-! ## Denoted octets -/

/--
A payload in generic form: the mark, a number of octets that fits a word of the machine, and two
digits for each octet, cut into words anywhere.
-/
def IsGeneric (payload : Text) : Prop :=
  ∃ size pieces length, words payload = mark :: size :: pieces
    ∧ length < UInt64.size ∧ Numeral.IsNumeral length size
    ∧ pieces.flatten.all isHexDigit = true ∧ pieces.flatten.length = 2 * length

/-- A payload in generic form denotes the octets that its digits spell. -/
def Denotes (payload : Text) (octets : Octets) : Prop :=
  octets.length < UInt64.size ∧ ∃ size pieces, words payload = mark :: size :: pieces
    ∧ Numeral.IsNumeral octets.length size ∧ octets.IsSpelled pieces.flatten

/-- The payload that is written for octets: their digits in lower case and in one word. -/
def canonical (octets : Octets) : Text :=
  if octets.isEmpty then mark ++ " 0".toList
  else mark ++ ' ' :: Numeral.decimal octets.length ++ ' ' :: octets.hexadecimal

/-- A payload denotes octets exactly if it is in generic form. -/
theorem exists_denotes_iff {payload : Text} :
    (∃ octets, Denotes payload octets) ↔ IsGeneric payload := by
  constructor
  · rintro ⟨octets, fits, size, pieces, cut, numeral, spelled⟩
    exact ⟨size, pieces, octets.length, cut, fits, numeral, spelled.all_isHexDigit,
      by rw [← spelled.length, Nat.mul_comm]⟩
  · rintro ⟨size, pieces, length, cut, fits, numeral, hexadecimal, twice⟩
    rcases Octets.exists_isSpelled hexadecimal (by rw [twice, Nat.mul_comm]) with
      ⟨octets, rfl, spelled⟩
    exact ⟨octets, fits, size, pieces, cut, numeral, spelled⟩

/-- No payload denotes two lists of octets. -/
theorem Denotes.unique {payload : Text} {octets others : Octets} (denotes : Denotes payload octets)
    (again : Denotes payload others) : others = octets := by
  rcases denotes with ⟨_, size, pieces, cut, _, spelled⟩
  rcases again with ⟨_, otherSize, otherPieces, otherCut, _, otherSpelled⟩
  cases cut.symm.trans otherCut
  exact spelled.unique otherSpelled

theorem write_of_isSpelled {octets : Octets} {digits : Text} (spelled : octets.IsSpelled digits) :
    write octets.length digits = canonical octets := by
  cases spelled with
  | nil => rfl
  | cons upper lower rest =>
      rw [write, canonical, (Octets.IsSpelled.cons upper lower rest).fold_eq]
      rfl

/-- A payload is made the one that is written for the octets that it denotes. -/
theorem normalize_eq_ok_iff_denotes {payload result : Text} : normalize payload = .ok result ↔
    ∃ octets, Denotes payload octets ∧ result = canonical octets := by
  rw [normalize_eq_ok_iff]
  constructor
  · rintro ⟨size, pieces, length, cut, counted, hexadecimal, twice, rfl⟩
    rcases Numeral.unsigned?_eq_some_iff.mp counted with ⟨fits, numeral⟩
    rcases Octets.exists_isSpelled hexadecimal twice with ⟨octets, rfl, spelled⟩
    exact ⟨octets, ⟨fits, size, pieces, cut, numeral, spelled⟩, write_of_isSpelled spelled⟩
  · rintro ⟨octets, ⟨fits, size, pieces, cut, numeral, spelled⟩, rfl⟩
    exact ⟨size, pieces, octets.length, cut, Numeral.unsigned?_eq_some_iff.mpr ⟨fits, numeral⟩,
      spelled.all_isHexDigit, spelled.length, (write_of_isSpelled spelled).symm⟩

/-- What is written for octets denotes them. -/
theorem denotes_canonical {octets : Octets} (fits : octets.length < UInt64.size) :
    Denotes (canonical octets) octets := by
  have spelled := octets.isSpelled_hexadecimal
  refine ⟨fits, ?_⟩
  cases octets with
  | nil => exact ⟨['0'], [], by decide, Numeral.isNumeral_decimal 0, .nil⟩
  | cons octet octets =>
      have cut := @words_write (octet :: octets).length _ spelled.all_isHexDigit
        (List.cons_ne_nil _ _)
      rw [write_of_isSpelled spelled, spelled.fold_eq] at cut
      refine ⟨_, _, cut, Numeral.isNumeral_decimal _, ?_⟩
      rw [List.flatten_singleton]
      exact spelled

/-- Octets are told from their canonical form. -/
theorem canonical_inj {octets others : Octets} (fits : octets.length < UInt64.size)
    (othersFit : others.length < UInt64.size) :
    canonical octets = canonical others ↔ octets = others := by
  constructor
  · intro same
    exact (denotes_canonical othersFit).unique (same ▸ denotes_canonical fits)
  · rintro rfl
    rfl

/-! ## Lengths in machine words -/

/-- Twice a machine word, unless it does not fit a word. -/
def doubled? (word : UInt64) : Option UInt64 :=
  if word.toNat * 2 < UInt64.size then some (word * 2) else none

/-- Normalization with the lengths in words of the machine. -/
def normalizeInWords (payload : Text) : Except Fault Text :=
  match words payload with
  | [] => .error .noMark
  | first :: rest =>
    if first ≠ mark then .error .noMark
    else
      match rest with
      | [] => .error .noLength
      | second :: rest =>
        match (Numeral.count? second).map UInt64.ofNat with
        | none => .error .noLength
        | some length =>
          let digits := rest.flatten
          if !digits.all isHexDigit then .error .notHexadecimal
          else if doubled? length ≠ some (UInt64.ofNat digits.length) then
            .error (.lengthMismatch length.toNat digits.length)
          else .ok (write length.toNat digits)

/-- The checked doubling of a length is the doubling, as long as no word overflows. -/
theorem doubled?_eq_some_iff {length digits : Nat} (fits : length < UInt64.size)
    (digitsFit : digits < UInt64.size) :
    doubled? (UInt64.ofNat length) = some (UInt64.ofNat digits) ↔ length * 2 = digits := by
  have value : (UInt64.ofNat length).toNat = length := UInt64.toNat_ofNat_of_lt' fits
  have digitsValue : (UInt64.ofNat digits).toNat = digits := UInt64.toNat_ofNat_of_lt' digitsFit
  rw [doubled?, value]
  split
  · rename_i doubleFits
    have twice : (UInt64.ofNat length * 2).toNat = length * 2 := by
      rw [UInt64.toNat_mul, value]
      exact Nat.mod_eq_of_lt doubleFits
    rw [Option.some.injEq, ← UInt64.toNat_inj, twice, digitsValue]
  · rename_i tooGreat
    exact iff_of_false nofun (by omega)

/-- The words of a payload that a machine can hold have no more digits than a machine counts. -/
theorem normalizeInWords_eq {payload : Text} (fits : payload.length < UInt64.size) :
    normalizeInWords payload = normalize payload := by
  rw [normalizeInWords, normalize]
  cases cut : words payload with
  | nil => rfl
  | cons first rest =>
      refine if_congr Iff.rfl rfl ?_
      cases rest with
      | nil => rfl
      | cons size pieces =>
          dsimp only
          cases counted : Numeral.count? size with
          | none => rfl
          | some length =>
              have lengthFits := Numeral.lt_of_unsigned? counted
              -- The digits are characters of the payload, so counting them does not wrap.
              have digitsFit : pieces.flatten.length < UInt64.size := by
                have shorter := List.length_filter_le (!isBlank ·) payload
                rw [← flatten_words, cut] at shorter
                simp only [List.flatten_cons, List.length_append] at shorter
                omega
              have value : (UInt64.ofNat length).toNat = length :=
                UInt64.toNat_ofNat_of_lt' lengthFits
              simp only [Option.map_some, value, ne_eq, doubled?_eq_some_iff lengthFits digitsFit]

/-! ## Normalization -/

/--
The payloads in generic form are made canonical, and nothing else is accepted.  The result is
written for the octets that the payload denotes: it denotes the same octets and stays as it is, and
two payloads have the same result exactly if they denote the same octets.  A machine that counts in
words and checks the doubling of the length does the same with every payload that it can hold.
-/
theorem normalize_by_octets (payload : Text) :
    ((∃ result, normalize payload = .ok result) ↔ IsGeneric payload)
      ∧ (IsGeneric payload → ∃! octets, Denotes payload octets)
      ∧ (∀ result, normalize payload = .ok result ↔
        ∃ octets, Denotes payload octets ∧ result = canonical octets)
      ∧ (∀ result, normalize payload = .ok result →
        normalize result = .ok result ∧ ∀ octets, Denotes result octets ↔ Denotes payload octets)
      ∧ (∀ result other otherResult,
        normalize payload = .ok result → normalize other = .ok otherResult →
          (result = otherResult ↔ ∃ octets, Denotes payload octets ∧ Denotes other octets))
      ∧ (payload.length < UInt64.size → normalizeInWords payload = normalize payload) := by
  refine ⟨?_, ?_, fun _ => normalize_eq_ok_iff_denotes, ?_, ?_, normalizeInWords_eq⟩
  · simp only [normalize_eq_ok_iff_denotes, ← exists_denotes_iff]
    constructor
    · rintro ⟨_, octets, denotes, _⟩
      exact ⟨octets, denotes⟩
    · rintro ⟨octets, denotes⟩
      exact ⟨_, octets, denotes, rfl⟩
  · intro isGeneric
    rcases exists_denotes_iff.mpr isGeneric with ⟨octets, denotes⟩
    exact ⟨octets, denotes, fun _ again => denotes.unique again⟩
  · intro result normalized
    refine ⟨normalize_idempotent normalized, ?_⟩
    rcases normalize_eq_ok_iff_denotes.mp normalized with ⟨octets, denotes, rfl⟩
    -- The canonical form denotes these octets as well, and no payload denotes two lists of them.
    have written := denotes_canonical denotes.1
    intro others
    constructor
    · intro again
      rw [written.unique again]
      exact denotes
    · intro again
      rw [denotes.unique again]
      exact written
  · intro result other otherResult normalized otherNormalized
    rcases normalize_eq_ok_iff_denotes.mp normalized with ⟨octets, denotes, rfl⟩
    rcases normalize_eq_ok_iff_denotes.mp otherNormalized with ⟨others, othersDenoted, rfl⟩
    rw [canonical_inj denotes.1 othersDenoted.1]
    constructor
    · rintro rfl
      exact ⟨octets, denotes, othersDenoted⟩
    · rintro ⟨common, first, second⟩
      rw [← denotes.unique first, ← othersDenoted.unique second]

end Payload.Generic

end ZoneServices
