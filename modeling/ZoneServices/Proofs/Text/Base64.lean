import Mathlib.Algebra.Group.Nat.Defs
import Mathlib.Data.List.Forall2
import ZoneServices.Text.Base64

/-!
# Base64 that is read back

Every list of octets is read back from its base64 text, and from no other text: three octets make
four digits of six bits, no digit is the sign of padding, and a text whose padding or last bits are
not those that are written is refused.

The format is also told without the writer: the bits of the octets, filled up with zeros, are cut
into values of six bits, and the digits of these are filled up with padding.  Octets have exactly
one text of this form, which is the one they are written as.
-/

namespace ZoneServices.Base64

theorem value?_digit {value : Nat} (small : value < 64) : value? (digit value) = some value := by
  have checked : ∀ value < 64, value? (digit value) = some value := by decide
  exact checked value small

theorem digit_ne_padding {value : Nat} (small : value < 64) : digit value ≠ '=' := by
  have checked : ∀ value < 64, digit value ≠ '=' := by decide
  exact checked value small

theorem ofNat_eq {octet : UInt8} {value : Nat} (same : value = octet.toNat) :
    UInt8.ofNat value = octet := by
  rw [same, UInt8.ofNat_toNat]

/-! ## Texts that are read back -/

/-- The digits of three octets give them back, whatever digits follow. -/
theorem decode?_encode (octets : Octets) : decode? (encode octets) = some octets := by
  fun_induction encode octets with
  | case1 => rfl
  | case2 first =>
      have firstBound := first.toNat_lt
      have firstBack : UInt8.ofNat (first.toNat / 4 * 4 + first.toNat % 4 * 16 / 16) = first :=
        ofNat_eq (by omega)
      rw [decode?, decodeLast?, value?_digit (by omega), value?_digit (by omega)]
      simp only [and_self, if_true]
      rw [if_pos (by omega), firstBack]
  | case3 first second =>
      have firstBound := first.toNat_lt
      have secondBound := second.toNat_lt
      have firstBack : UInt8.ofNat (first.toNat / 4 * 4
          + (first.toNat % 4 * 16 + second.toNat / 16) / 16) = first := ofNat_eq (by omega)
      have secondBack : UInt8.ofNat ((first.toNat % 4 * 16 + second.toNat / 16) % 16 * 16
          + second.toNat % 16 * 4 / 4) = second := ofNat_eq (by omega)
      rw [decode?, decodeLast?, value?_digit (by omega), value?_digit (by omega)]
      dsimp only
      rw [if_neg (fun padded => digit_ne_padding (by omega) padded.1), value?_digit (by omega)]
      dsimp only
      rw [if_pos rfl, if_pos (by omega), firstBack, secondBack]
  | case4 first second third rest step =>
      have firstBound := first.toNat_lt
      have secondBound := second.toNat_lt
      have thirdBound := third.toNat_lt
      have firstBack : UInt8.ofNat (first.toNat / 4 * 4
          + (first.toNat % 4 * 16 + second.toNat / 16) / 16) = first := ofNat_eq (by omega)
      have secondBack : UInt8.ofNat ((first.toNat % 4 * 16 + second.toNat / 16) % 16 * 16
          + (second.toNat % 16 * 4 + third.toNat / 64) / 4) = second := ofNat_eq (by omega)
      have thirdBack : UInt8.ofNat ((second.toNat % 16 * 4 + third.toNat / 64) % 4 * 64
          + third.toNat % 64) = third := ofNat_eq (by omega)
      cases following : encode rest with
      | nil =>
          rw [following] at step
          cases step
          rw [decode?, decodeLast?, value?_digit (by omega), value?_digit (by omega)]
          dsimp only
          rw [if_neg (fun padded => digit_ne_padding (by omega) padded.1), value?_digit (by omega)]
          dsimp only
          rw [if_neg (digit_ne_padding (by omega)), value?_digit (by omega), Option.map_some,
            firstBack, secondBack, thirdBack]
      | cons character others =>
          rw [following] at step
          rw [decode?, value?_digit (by omega), value?_digit (by omega), value?_digit (by omega),
            value?_digit (by omega)]
          · dsimp only
            rw [step, Option.map_some, firstBack, secondBack, thirdBack]
          · intro none
            cases none

/-! ## Texts that are read -/

/-- A character that is read as a value is the digit of that value. -/
theorem digit_of_value? {character : Char} {value : Nat} (read : value? character = some value) :
    value < 64 ∧ digit value = character := by
  have capital : 'A'.toNat = 65 ∧ 'Z'.toNat = 90 := ⟨rfl, rfl⟩
  have small : 'a'.toNat = 97 ∧ 'z'.toNat = 122 := ⟨rfl, rfl⟩
  have decimal : '0'.toNat = 48 ∧ '9'.toNat = 57 := ⟨rfl, rfl⟩
  have back := Char.ofNat_toNat character
  unfold value? at read
  split at read
  · rename_i between
    obtain ⟨low, high⟩ : 'A'.toNat ≤ character.toNat ∧ character.toNat ≤ 'Z'.toNat := between
    cases read
    refine ⟨by omega, ?_⟩
    rw [digit, if_pos (by omega), Nat.add_sub_cancel' low, back]
  split at read
  · rename_i between
    obtain ⟨low, high⟩ : 'a'.toNat ≤ character.toNat ∧ character.toNat ≤ 'z'.toNat := between
    cases read
    refine ⟨by omega, ?_⟩
    rw [digit, if_neg (by omega), if_pos (by omega), Nat.add_sub_cancel, Nat.add_sub_cancel' low,
      back]
  split at read
  · rename_i between
    obtain ⟨low, high⟩ : '0'.toNat ≤ character.toNat ∧ character.toNat ≤ '9'.toNat := between
    cases read
    refine ⟨by omega, ?_⟩
    rw [digit, if_neg (by omega), if_neg (by omega), if_pos (by omega), Nat.add_sub_cancel,
      Nat.add_sub_cancel' low, back]
  split at read
  · rename_i plus
    cases read
    rw [plus]
    decide
  split at read
  · rename_i slash
    cases read
    rw [slash]
    decide
  · cases read

theorem toNat_ofNat {value : Nat} (small : value < 256) : (UInt8.ofNat value).toNat = value :=
  UInt8.toNat_ofNat_of_lt small

/-- Three octets that four values of six bits make are written with the digits of these values. -/
theorem encode_values {a b c d : Nat} (first : a < 64) (second : b < 64) (third : c < 64)
    (fourth : d < 64) (rest : Octets) :
    encode (UInt8.ofNat (a * 4 + b / 16) :: UInt8.ofNat (b % 16 * 16 + c / 4)
        :: UInt8.ofNat (c % 4 * 64 + d) :: rest) =
      digit a :: digit b :: digit c :: digit d :: encode rest := by
  have front : (a * 4 + b / 16) / 4 = a := by omega
  have left : (a * 4 + b / 16) % 4 * 16 + (b % 16 * 16 + c / 4) / 16 = b := by omega
  have right : (b % 16 * 16 + c / 4) % 16 * 4 + (c % 4 * 64 + d) / 64 = c := by omega
  have back : (c % 4 * 64 + d) % 64 = d := by omega
  rw [encode, toNat_ofNat (by omega), toNat_ofNat (by omega), toNat_ofNat (by omega), front, left,
    right, back]

/-- The octets of a last group of characters are written with these characters. -/
theorem encode_of_decodeLast? {first second third fourth : Char} {octets : Octets}
    (read : decodeLast? first second third fourth = some octets) :
    encode octets = [first, second, third, fourth] := by
  unfold decodeLast? at read
  split at read
  · rename_i a b isFirst isSecond
    obtain ⟨firstBound, rfl⟩ := digit_of_value? isFirst
    obtain ⟨secondBound, rfl⟩ := digit_of_value? isSecond
    have front : (a * 4 + b / 16) / 4 = a := by omega
    split at read
    · rename_i padded
      split at read
      · rename_i noBits
        cases read
        have back : (a * 4 + b / 16) % 4 * 16 = b := by omega
        rw [encode, toNat_ofNat (by omega), front, back, padded.1, padded.2]
      · cases read
    split at read
    · cases read
    rename_i c isThird
    obtain ⟨thirdBound, rfl⟩ := digit_of_value? isThird
    split at read
    · rename_i padded
      split at read
      · rename_i noBits
        cases read
        have middle : (a * 4 + b / 16) % 4 * 16 + (b % 16 * 16 + c / 4) / 16 = b := by omega
        have back : (b % 16 * 16 + c / 4) % 16 * 4 = c := by omega
        rw [encode, toNat_ofNat (by omega), toNat_ofNat (by omega), front, middle, back, padded]
      · cases read
    · rcases Option.map_eq_some_iff.mp read with ⟨d, isFourth, rfl⟩
      obtain ⟨fourthBound, rfl⟩ := digit_of_value? isFourth
      exact encode_values firstBound secondBound thirdBound fourthBound []
  · cases read

/-- Only the base64 text of some octets is read as these octets. -/
theorem encode_of_decode? {text : Text} {octets : Octets} (read : decode? text = some octets) :
    encode octets = text := by
  fun_induction decode? text generalizing octets with
  | case1 =>
      cases read
      rfl
  | case2 => exact encode_of_decodeLast? read
  | case3 first second third fourth rest more a b c d isFourth isThird isSecond isFirst step =>
      rcases Option.map_eq_some_iff.mp read with ⟨others, following, rfl⟩
      obtain ⟨firstBound, rfl⟩ := digit_of_value? isFirst
      obtain ⟨secondBound, rfl⟩ := digit_of_value? isSecond
      obtain ⟨thirdBound, rfl⟩ := digit_of_value? isThird
      obtain ⟨fourthBound, rfl⟩ := digit_of_value? isFourth
      rw [encode_values firstBound secondBound thirdBound fourthBound, step following]
  | case4 => cases read
  | case5 => cases read

/-- A text decodes exactly to the octets that encode to it. -/
theorem decode?_eq_some_iff {text : Text} {octets : Octets} :
    decode? text = some octets ↔ encode octets = text :=
  ⟨encode_of_decode?, fun written => written ▸ decode?_encode octets⟩

/-! ## The format -/

/-- The sixty-four digits, in the order of their values. -/
def alphabet : Text :=
  "ABCDEFGHIJKLMNOPQRSTUVWXYZabcdefghijklmnopqrstuvwxyz0123456789+/".toList

/-- The lowest bits of a number, the highest of them first. -/
def bits (count value : Nat) : List Bool :=
  (List.range count).reverse.map value.testBit

/-- The bits of some octets, eight of each. -/
def bitsOf (octets : Octets) : List Bool :=
  octets.flatMap fun octet => bits 8 octet.toNat

/--
The bits of some octets are cut into values of six bits, the last of which is filled up with zeros,
and the digits of these values are filled up with padding to groups of four characters.
-/
structure IsLayout (octets : Octets) (values : List Nat) (digits : Text) (zeros padding : Nat) :
    Prop where
  cut : values.flatMap (bits 6) = bitsOf octets ++ List.replicate zeros false
  zeros_lt : zeros < 6
  shown : List.Forall₂ (alphabet[·]? = some ·) values digits
  padding_lt : padding < 4
  groups : 4 ∣ digits.length + padding

/-- Whether a text is the padded form of some octets. -/
def IsPadded (octets : Octets) (text : Text) : Prop :=
  ∃ values digits zeros padding, IsLayout octets values digits zeros padding
    ∧ text = digits ++ List.replicate padding '='

theorem getElem?_alphabet {value : Nat} (small : value < 64) :
    alphabet[value]? = some (digit value) := by
  have checked : ∀ value < 64, alphabet[value]? = some (digit value) := by decide
  exact checked value small

theorem length_bits (count value : Nat) : (bits count value).length = count := by
  rw [bits, List.length_map, List.length_reverse, List.length_range]

/-- The bits of a number are those of its upper part and those of its lower part. -/
theorem bits_append (upperCount count upper lower : Nat) (small : lower < 2 ^ count) :
    bits (upperCount + count) (upper * 2 ^ count + lower) =
      bits upperCount upper ++ bits count lower := by
  rw [bits, Nat.add_comm upperCount count, List.range_add, List.reverse_append, List.map_append,
    ← List.map_reverse, List.map_map, Nat.mul_comm]
  refine congrArg₂ (· ++ ·) (List.map_congr_left ?_) (List.map_congr_left ?_)
  · intro place _
    rw [Function.comp_apply, Nat.testBit_two_pow_mul_add _ small, if_neg (by omega),
      Nat.add_sub_cancel_left]
  · intro place member
    have inside := List.mem_range.mp (List.mem_reverse.mp member)
    rw [Nat.testBit_two_pow_mul_add _ small, if_pos inside]

/-- The bits of a number are those of its quotient before those of its remainder. -/
theorem bits_divide (upperCount count value : Nat) :
    bits (upperCount + count) value =
      bits upperCount (value / 2 ^ count) ++ bits count (value % 2 ^ count) := by
  rw [← bits_append _ _ _ _ (Nat.mod_lt value (Nat.two_pow_pos count)), Nat.div_add_mod']

/-- An octet is cut in one of three ways, by its place in a group. -/
theorem bits_first (octet : UInt8) :
    bits 8 octet.toNat = bits 6 (octet.toNat / 4) ++ bits 2 (octet.toNat % 4) :=
  bits_divide 6 2 octet.toNat

theorem bits_second (octet : UInt8) :
    bits 8 octet.toNat = bits 4 (octet.toNat / 16) ++ bits 4 (octet.toNat % 16) :=
  bits_divide 4 4 octet.toNat

theorem bits_third (octet : UInt8) :
    bits 8 octet.toNat = bits 2 (octet.toNat / 64) ++ bits 6 (octet.toNat % 64) :=
  bits_divide 2 6 octet.toNat

theorem bits_zero (count : Nat) : bits count 0 = List.replicate count false := by
  refine List.eq_replicate_iff.mpr ⟨length_bits count 0, ?_⟩
  intro bit member
  rcases List.mem_map.mp member with ⟨place, _, rfl⟩
  exact Nat.zero_testBit place

theorem bits_filled (upperCount count upper : Nat) :
    bits (upperCount + count) (upper * 2 ^ count) =
      bits upperCount upper ++ List.replicate count false := by
  rw [← bits_zero, ← bits_append _ _ _ _ (Nat.two_pow_pos count), Nat.add_zero]

/-- Numbers with the same bits are the same, if they have no others. -/
theorem eq_of_bits_eq {count left right : Nat} (leftSmall : left < 2 ^ count)
    (rightSmall : right < 2 ^ count) (same : bits count left = bits count right) :
    left = right := by
  refine Nat.eq_of_testBit_eq fun place => ?_
  by_cases inside : place < count
  · exact List.map_inj_left.mp same place (List.mem_reverse.mpr (List.mem_range.mpr inside))
  · have high : 2 ^ count ≤ 2 ^ place := Nat.pow_le_pow_right (by decide) (Nat.le_of_not_lt inside)
    rw [Nat.testBit_lt_two_pow (Nat.lt_of_lt_of_le leftSmall high),
      Nat.testBit_lt_two_pow (Nat.lt_of_lt_of_le rightSmall high)]

/-- Three octets more are four digits more. -/
theorem IsLayout.cons {octets : Octets} {values : List Nat} {digits : Text} {zeros padding : Nat}
    (layout : IsLayout octets values digits zeros padding) (first second third : UInt8) :
    IsLayout (first :: second :: third :: octets)
      (first.toNat / 4 :: (first.toNat % 4 * 16 + second.toNat / 16)
        :: (second.toNat % 16 * 4 + third.toNat / 64) :: third.toNat % 64 :: values)
      (digit (first.toNat / 4) :: digit (first.toNat % 4 * 16 + second.toNat / 16)
        :: digit (second.toNat % 16 * 4 + third.toNat / 64) :: digit (third.toNat % 64) :: digits)
      zeros padding := by
  have firstBound := first.toNat_lt
  have secondBound := second.toNat_lt
  have thirdBound := third.toNat_lt
  refine ⟨?_, layout.zeros_lt, ?_, layout.padding_lt, ?_⟩
  · have left : bits 6 (first.toNat % 4 * 16 + second.toNat / 16) =
        bits 2 (first.toNat % 4) ++ bits 4 (second.toNat / 16) :=
      bits_append 2 4 _ _ (by omega)
    have right : bits 6 (second.toNat % 16 * 4 + third.toNat / 64) =
        bits 4 (second.toNat % 16) ++ bits 2 (third.toNat / 64) :=
      bits_append 4 2 _ _ (by omega)
    simp only [bitsOf, List.flatMap_cons, bits_first first, bits_second second,
      bits_third third, left, right, List.append_assoc]
    rw [layout.cut, bitsOf]
  · exact .cons (getElem?_alphabet (by omega)) (.cons (getElem?_alphabet (by omega))
      (.cons (getElem?_alphabet (by omega)) (.cons (getElem?_alphabet (by omega)) layout.shown)))
  · have groups := layout.groups
    simp only [List.length_cons]
    omega

/-- What octets are written as is their padded form. -/
theorem isPadded_encode (octets : Octets) : IsPadded octets (encode octets) := by
  fun_induction encode octets with
  | case1 => exact ⟨[], [], 0, 0, ⟨rfl, by decide, .nil, by decide, by decide⟩, rfl⟩
  | case2 first =>
      have bound := first.toNat_lt
      have filled : bits 6 (first.toNat % 4 * 16) =
          bits 2 (first.toNat % 4) ++ List.replicate 4 false :=
        bits_filled 2 4 _
      refine ⟨_, _, 4, 2, ⟨?_, by decide, .cons (getElem?_alphabet (by omega))
        (.cons (getElem?_alphabet (by omega)) .nil), by decide, by simp⟩, rfl⟩
      simp [bitsOf, bits_first first, filled]
  | case3 first second =>
      have firstBound := first.toNat_lt
      have secondBound := second.toNat_lt
      have middle : bits 6 (first.toNat % 4 * 16 + second.toNat / 16) =
          bits 2 (first.toNat % 4) ++ bits 4 (second.toNat / 16) :=
        bits_append 2 4 _ _ (by omega)
      have filled : bits 6 (second.toNat % 16 * 4) =
          bits 4 (second.toNat % 16) ++ List.replicate 2 false :=
        bits_filled 4 2 _
      refine ⟨_, _, 2, 1, ⟨?_, by decide, .cons (getElem?_alphabet (by omega))
        (.cons (getElem?_alphabet (by omega)) (.cons (getElem?_alphabet (by omega)) .nil)),
        by decide, by simp⟩, rfl⟩
      simp [bitsOf, bits_first first, bits_second second, middle, filled]
  | case4 first second third rest step =>
      rcases step with ⟨values, digits, zeros, padding, layout, written⟩
      exact ⟨_, _, zeros, padding, layout.cons first second third, by rw [written]; rfl⟩

theorem length_flatMap_bits (count : Nat) (values : List Nat) :
    (values.flatMap (bits count)).length = values.length * count := by
  induction values with
  | nil => exact (Nat.zero_mul count).symm
  | cons value rest step =>
      rw [List.flatMap_cons, List.length_append, length_bits, step, List.length_cons,
        Nat.succ_mul, Nat.add_comm]

/-- Small numbers, equally many, are told apart by their bits. -/
theorem eq_of_flatMap_bits_eq {count : Nat} {left right : List Nat}
    (leftSmall : ∀ value ∈ left, value < 2 ^ count)
    (rightSmall : ∀ value ∈ right, value < 2 ^ count) (sameLength : left.length = right.length)
    (same : left.flatMap (bits count) = right.flatMap (bits count)) : left = right := by
  induction left generalizing right with
  | nil => exact (List.length_eq_zero_iff.mp sameLength.symm).symm
  | cons value rest step =>
      cases right with
      | nil => cases sameLength
      | cons other others =>
          rcases List.forall_mem_cons.mp leftSmall with ⟨small, restSmall⟩
          rcases List.forall_mem_cons.mp rightSmall with ⟨otherSmall, othersSmall⟩
          have sameSize : (bits count value).length = (bits count other).length := by
            rw [length_bits, length_bits]
          rcases List.append_inj same sameSize with ⟨first, following⟩
          rw [eq_of_bits_eq small otherSmall first,
            step restSmall othersSmall (Nat.succ.inj sameLength) following]

/-- What a digit shows is below sixty-four. -/
theorem lt_of_shown {values : List Nat} {digits : Text}
    (shown : List.Forall₂ (alphabet[·]? = some ·) values digits) :
    ∀ value ∈ values, value < 64 := by
  induction shown with
  | nil => exact fun value member => absurd member List.not_mem_nil
  | cons first _ step =>
      exact List.forall_mem_cons.mpr ⟨(List.getElem?_eq_some_iff.mp first).1, step⟩

/-- Octets have one padded form only. -/
theorem IsPadded.unique {octets : Octets} {text other : Text} (isPadded : IsPadded octets text)
    (otherIsPadded : IsPadded octets other) : text = other := by
  rcases isPadded with ⟨values, digits, zeros, padding, layout, rfl⟩
  rcases otherIsPadded with ⟨others, otherDigits, otherZeros, otherPadding, otherLayout, rfl⟩
  have size := congrArg List.length layout.cut
  have otherSize := congrArg List.length otherLayout.cut
  rw [List.length_append, List.length_replicate, length_flatMap_bits] at size otherSize
  have few := layout.zeros_lt
  have otherFew := otherLayout.zeros_lt
  have sameZeros : zeros = otherZeros := by omega
  have sameLength : values.length = others.length := by omega
  have sameValues : values = others :=
    eq_of_flatMap_bits_eq (lt_of_shown layout.shown) (lt_of_shown otherLayout.shown) sameLength
      (by rw [layout.cut, otherLayout.cut, sameZeros])
  have sameDigits : digits = otherDigits := by
    have shown := layout.shown
    rw [sameValues] at shown
    refine List.right_unique_forall₂' ?_ shown otherLayout.shown
    intro value first second isFirst isSecond
    exact Option.some.inj (isFirst.symm.trans isSecond)
  have samePadding : padding = otherPadding := by
    have groups := layout.groups
    have otherGroups := otherLayout.groups
    have short := layout.padding_lt
    have otherShort := otherLayout.padding_lt
    rw [sameDigits] at groups
    omega
  rw [sameDigits, samePadding]

/-- The base64 text of some octets is their padded form. -/
theorem encode_eq_iff {octets : Octets} {text : Text} :
    encode octets = text ↔ IsPadded octets text :=
  ⟨fun written => written ▸ isPadded_encode octets, (isPadded_encode octets).unique⟩

end ZoneServices.Base64
