import Mathlib.Algebra.Group.Nat.Defs
import Mathlib.Data.List.Induction
import ZoneServices.Proofs.Text.Word
import ZoneServices.Text.Numeral

/-!
# Numerals that are read back

A number written in decimal or in hexadecimal reads back as that number, and as the value of
every field that is wide enough for it.  Zeros and a plus sign in front are the only other spellings
of a number.  The digits of a numeral are never blank, so a numeral is a word of a line.
-/

namespace ZoneServices.Numeral

open ZoneServices.Text

/-! ## Digits -/

theorem digit?_digitChar {digit : Nat} (small : digit < 10) :
    digit? digit.digitChar = some digit := by
  have checked : (List.range 10).all fun digit => digit? digit.digitChar == some digit := by decide
  exact beq_iff_eq.mp (List.all_eq_true.mp checked digit (List.mem_range.mpr small))

theorem hexDigit?_digitChar {digit : Nat} (small : digit < 16) :
    hexDigit? digit.digitChar = some digit := by
  have checked : (List.range 16).all fun digit => hexDigit? digit.digitChar == some digit := by
    decide
  exact beq_iff_eq.mp (List.all_eq_true.mp checked digit (List.mem_range.mpr small))

theorem hexDigit?_hexDigit {digit : Nat} (small : digit < 16) :
    hexDigit? (hexDigit digit) = some digit := by
  have checked : ∀ digit < 16, hexDigit? (hexDigit digit) = some digit := by decide
  exact checked digit small

/-- What holds of the digits of a base holds of every character of a numeral in that base. -/
theorem of_mem_toDigits {base : Nat} (two_le : 2 ≤ base) {property : Char → Prop}
    (digits : ∀ digit < base, property digit.digitChar) (value : Nat) :
    ∀ character ∈ Nat.toDigits base value, property character := by
  induction value using Nat.strongRecOn with
  | ind value step =>
      by_cases small : value < base
      · rw [Nat.toDigits_of_lt_base small]
        intro character member
        rw [List.mem_singleton.mp member]
        exact digits value small
      · have positive : 0 < value := by omega
        rw [Nat.toDigits_of_base_le (by omega) (by omega)]
        intro character member
        rcases List.mem_append.mp member with member | member
        · exact step (value / base) (Nat.div_lt_self positive (by omega)) character member
        · rw [List.mem_singleton.mp member]
          exact digits _ (Nat.mod_lt _ (by omega))

/-- The digits of a number give its value back, digit by digit. -/
theorem foldlM_toDigits {base : Nat} (two_le : 2 ≤ base) {value? : Char → Option Nat}
    (digits : ∀ digit < base, value? digit.digitChar = some digit) (value : Nat) :
    (Nat.toDigits base value).foldlM
        (fun total character => (value? character).map (total * base + ·)) 0 = some value := by
  induction value using Nat.strongRecOn with
  | ind value step =>
      by_cases small : value < base
      · rw [Nat.toDigits_of_lt_base small]
        simp [digits value small]
      · have positive : 0 < value := by omega
        have last := digits (value % base) (Nat.mod_lt _ (by omega))
        rw [Nat.toDigits_of_base_le (by omega) (by omega), List.foldlM_append,
          step (value / base) (Nat.div_lt_self positive (by omega))]
        simp [last, Nat.div_add_mod']

/-! ## Decimal numerals -/

theorem decimal_ne_nil (value : Nat) : decimal value ≠ [] :=
  Nat.toDigits_ne_nil

theorem isDigit_of_mem_decimal {value : Nat} {character : Char}
    (member : character ∈ decimal value) : character.isDigit = true :=
  Nat.isDigit_of_mem_toDigits (by omega) (by omega) member

theorem isSolid_decimal (value : Nat) : IsSolid (decimal value) :=
  of_mem_toDigits (by omega) (by decide) value

theorem withoutPlus_decimal (value : Nat) : withoutPlus (decimal value) = decimal value := by
  unfold withoutPlus
  split
  · rename_i rest starts
    have member : '+' ∈ decimal value := by rw [starts]; exact List.mem_cons_self
    have digit := isDigit_of_mem_decimal member
    cases digit
  · rfl

/-- A number is read back from its decimal digits. -/
theorem natural?_decimal (value : Nat) : natural? (decimal value) = some value := by
  rw [natural?, if_neg (by simp [decimal_ne_nil])]
  exact foldlM_toDigits (by omega) (fun digit small => digit?_digitChar small) value

/-- A bounded number is one below the bound, after at most one plus sign. -/
theorem unsigned?_eq_some_iff_natural? {limit value : Nat} {text : Text} :
    unsigned? limit text = some value ↔
      value < limit ∧ natural? (withoutPlus text) = some value := by
  rw [unsigned?]
  cases natural? (withoutPlus text) with
  | none => simp
  | some found =>
      dsimp only
      constructor
      · intro accepted
        split at accepted
        · rename_i fits
          cases accepted
          exact ⟨fits, rfl⟩
        · cases accepted
      · rintro ⟨fits, same⟩
        cases same
        exact if_pos fits

/-- A number below the bound is read back from its decimal digits. -/
theorem unsigned?_decimal {limit value : Nat} (fits : value < limit) :
    unsigned? limit (decimal value) = some value := by
  rw [unsigned?_eq_some_iff_natural?, withoutPlus_decimal]
  exact ⟨fits, natural?_decimal value⟩

theorem lt_of_unsigned? {limit value : Nat} {text : Text}
    (read : unsigned? limit text = some value) :
    value < limit :=
  (unsigned?_eq_some_iff_natural?.mp read).1

theorem word16?_decimal (value : UInt16) : word16? (decimal value.toNat) = some value := by
  rw [word16?, unsigned?_decimal value.toNat_lt]
  simp

theorem word32?_decimal (value : UInt32) : word32? (decimal value.toNat) = some value := by
  rw [word32?, unsigned?_decimal value.toNat_lt]
  simp

/-- A number below a power of ten has at most as many digits as the power. -/
theorem length_decimal {value width : Nat} (positive : 0 < width) (fits : value < 10 ^ width) :
    (decimal value).length ≤ width :=
  (Nat.length_toDigits_le_iff (by omega) positive).mpr fits

/-! ## Padded numerals -/

theorem padded_ne_nil (width value : Nat) : padded width value ≠ [] :=
  List.append_ne_nil_of_right_ne_nil _ (decimal_ne_nil value)

theorem isDigit_of_mem_padded {width value : Nat} {character : Char}
    (member : character ∈ padded width value) : character.isDigit = true := by
  rcases List.mem_append.mp member with zero | digit
  · rw [(List.mem_replicate.mp zero).2]
    rfl
  · exact isDigit_of_mem_decimal digit

/-- A padded number fills its width exactly. -/
theorem length_padded {width value : Nat} (positive : 0 < width) (fits : value < 10 ^ width) :
    (padded width value).length = width := by
  have shorter := length_decimal positive fits
  rw [padded, List.length_append, List.length_replicate]
  omega

/-- Zeros in front of a numeral do not change its value. -/
theorem natural?_zeros (count value : Nat) :
    natural? (List.replicate count '0' ++ decimal value) = some value := by
  have skipped : (List.replicate count '0' ++ decimal value).foldlM
      (fun total character => (digit? character).map (total * 10 + ·)) 0 = some value := by
    induction count with
    | zero => exact foldlM_toDigits (by omega) (fun digit small => digit?_digitChar small) value
    | succ count step => exact step
  rw [natural?, if_neg (by simp [decimal_ne_nil])]
  exact skipped

/-- The zeros in front do not change the number read. -/
theorem natural?_padded (width value : Nat) : natural? (padded width value) = some value :=
  natural?_zeros _ value

/-! ## Spellings of a number -/

/-- A digit that is read is the one written for its value. -/
theorem of_digit?_eq_some {character : Char} {digit : Nat} (found : digit? character = some digit) :
    digit < 10 ∧ character = digit.digitChar := by
  have bounds : ('0'.val.toNat, '9'.val.toNat) = (48, 57) := rfl
  have same : character.toNat = character.val.toNat := rfl
  simp only [digit?, Char.le_def, UInt32.le_iff_toNat_le] at found
  simp only [Prod.mk.injEq] at bounds
  split at found
  · rename_i inRange
    have small : character.toNat - '0'.toNat < 10 := by
      have zero : '0'.toNat = 48 := rfl
      omega
    cases found
    refine ⟨small, Char.toNat_inj.mp ?_⟩
    rw [Nat.toNat_digitChar_of_lt_ten small]
    have zero : '0'.toNat = 48 := rfl
    omega
  · cases found

/-- The digits of a value are the decimal numeral of that value with zeros in front. -/
theorem exists_zeros_of_foldlM {text : Text} {value : Nat} (nonempty : text ≠ [])
    (counted : text.foldlM
      (fun total character => (digit? character).map (total * 10 + ·)) 0 = some value) :
    ∃ count, text = List.replicate count '0' ++ decimal value := by
  induction text using List.reverseRecOn generalizing value with
  | nil => exact absurd rfl nonempty
  | append_singleton front last step =>
      rw [List.foldlM_append] at counted
      rcases Option.bind_eq_some_iff.mp counted with ⟨total, countedFront, countedLast⟩
      simp only [List.foldlM_cons, List.foldlM_nil, bind_pure] at countedLast
      rcases Option.map_eq_some_iff.mp countedLast with ⟨digit, isDigit, rfl⟩
      rcases of_digit?_eq_some isDigit with ⟨small, rfl⟩
      by_cases empty : front = []
      · subst empty
        cases countedFront
        exact ⟨0, by simp [decimal, Nat.toDigits_of_lt_base small]⟩
      · rcases step empty countedFront with ⟨count, rfl⟩
        -- In front of the last digit a value of zero is one zero more that does not count.
        by_cases zero : total = 0
        · subst zero
          refine ⟨count + 1, ?_⟩
          simp [decimal, Nat.toDigits_of_lt_base small, List.replicate_succ']
        · refine ⟨count, ?_⟩
          have longer : decimal (total * 10 + digit) = decimal total ++ [digit.digitChar] := by
            rw [decimal, Nat.toDigits_of_base_le (by omega) (by omega)]
            have quotient : (total * 10 + digit) / 10 = total := by omega
            have remainder : (total * 10 + digit) % 10 = digit := by omega
            rw [quotient, remainder, decimal]
          rw [longer, List.append_assoc]

/-- The texts that read as a number are its decimal digits behind any count of zeros. -/
theorem natural?_eq_some_iff {text : Text} {value : Nat} :
    natural? text = some value ↔ ∃ count, text = List.replicate count '0' ++ decimal value := by
  constructor
  · intro counted
    rw [natural?] at counted
    split at counted
    · cases counted
    · rename_i nonempty
      exact exists_zeros_of_foldlM (by simpa using nonempty) counted
  · rintro ⟨count, rfl⟩
    exact natural?_zeros count value

/-- A numeral of a number: its digits, maybe with zeros and before these a plus sign in front. -/
def IsNumeral (value : Nat) (text : Text) : Prop :=
  ∃ count, text = List.replicate count '0' ++ decimal value
    ∨ text = '+' :: (List.replicate count '0' ++ decimal value)

theorem isNumeral_decimal (value : Nat) : IsNumeral value (decimal value) :=
  ⟨0, .inl rfl⟩

/-- The numerals of the numbers below the limit are read, and nothing else is. -/
theorem unsigned?_eq_some_iff {limit value : Nat} {text : Text} :
    unsigned? limit text = some value ↔ value < limit ∧ IsNumeral value text := by
  rw [unsigned?_eq_some_iff_natural?, natural?_eq_some_iff]
  refine and_congr_right fun _ => ?_
  constructor
  · rintro ⟨count, without⟩
    rw [withoutPlus.eq_def] at without
    split at without
    · exact ⟨count, .inr (congrArg ('+' :: ·) without)⟩
    · exact ⟨count, .inl without⟩
  · rintro ⟨count, rfl | rfl⟩
    · cases count with
      | zero => exact ⟨0, withoutPlus_decimal value⟩
      | succ count => exact ⟨count + 1, rfl⟩
    · exact ⟨count, rfl⟩

/-! ## Hexadecimal numerals -/

theorem hexadecimal_ne_nil (value : Nat) : hexadecimal value ≠ [] :=
  Nat.toDigits_ne_nil

/-- A number is read back from its hexadecimal digits. -/
theorem hexNatural?_hexadecimal (value : Nat) : hexNatural? (hexadecimal value) = some value := by
  rw [hexNatural?, if_neg (by simp [hexadecimal_ne_nil])]
  exact foldlM_toDigits (by omega) (fun digit small => hexDigit?_digitChar small) value

/-- A number of sixteen bits has at most four hexadecimal digits. -/
theorem length_hexadecimal {value : Nat} (fits : value < 0x10000) :
    (hexadecimal value).length ≤ 4 :=
  (Nat.length_toDigits_le_iff (by omega) (by omega)).mpr fits

/-- No digit of a hexadecimal numeral is a colon or a dot. -/
theorem not_mem_hexadecimal {separator : Char} (isSeparator : separator = ':' ∨ separator = '.')
    (value : Nat) : separator ∉ hexadecimal value := by
  have others : ∀ character ∈ hexadecimal value, character ≠ ':' ∧ character ≠ '.' :=
    of_mem_toDigits (by omega) (by decide) value
  intro member
  have other := others separator member
  rcases isSeparator with rfl | rfl
  · exact other.1 rfl
  · exact other.2 rfl

/-- No digit of a decimal numeral is a colon or a dot. -/
theorem not_mem_decimal {separator : Char} (isSeparator : separator = ':' ∨ separator = '.')
    (value : Nat) : separator ∉ decimal value := by
  intro member
  have digit := isDigit_of_mem_decimal member
  rcases isSeparator with rfl | rfl <;> cases digit

end ZoneServices.Numeral
