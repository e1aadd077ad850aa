import ZoneServices.Proofs.Text.Digits
import ZoneServices.Timestamp

/-!
# Timestamps that are read back

Every moment is read back from its written form.  Numbers are padded to a fixed width, and only a
year outside of the usual ones has more digits and a sign.  The written form names universal time,
so the moment is not moved.
-/

namespace ZoneServices.Timestamp

open ZoneServices.Text
open ZoneServices.Calendar

/-! ## Numbers and marks -/

theorem isBlank_of_isDigit {character : Char} (digit : character.isDigit = true) :
    isBlank character = false := by
  simp only [Char.isDigit, ge_iff_le, Bool.and_eq_true, decide_eq_true_eq, UInt32.le_iff_toNat_le]
    at digit
  have low : 48 ≤ character.toNat := digit.1
  have high : character.toNat ≤ 57 := digit.2
  simp [isBlank]
  omega

theorem skipBlanks_cons {character : Char} (visible : isBlank character = false) (text : Text) :
    skipBlanks (character :: text) = character :: text :=
  List.dropWhile_cons_of_neg (by simp [visible])

theorem exists_padded (width value : Nat) :
    ∃ first others, Numeral.padded width value = first :: others ∧ first.isDigit = true := by
  cases written : Numeral.padded width value with
  | nil => exact absurd written (Numeral.padded_ne_nil width value)
  | cons first others =>
      have member : first ∈ Numeral.padded width value := by
        rw [written]
        exact List.mem_cons_self
      exact ⟨first, others, rfl, Numeral.isDigit_of_mem_padded member⟩

theorem skipBlanks_padded (width value : Nat) (rest : Text) :
    skipBlanks (Numeral.padded width value ++ rest) = Numeral.padded width value ++ rest := by
  rcases exists_padded width value with ⟨first, others, written, digit⟩
  rw [written]
  exact skipBlanks_cons (isBlank_of_isDigit digit) _

theorem takeWhile_padded (width value : Nat) {rest : Text}
    (stops : ∀ character ∈ rest.head?, character.isDigit = false) :
    (Numeral.padded width value ++ rest).takeWhile Char.isDigit = Numeral.padded width value := by
  rw [List.takeWhile_append_of_pos fun character member =>
    Numeral.isDigit_of_mem_padded member]
  cases rest with
  | nil => simp
  | cons first others => simp [stops first rfl]

theorem readDigits?_padded {width value : Nat} (positive : 0 < width) (fits : value < 10 ^ width)
    (rest : Text) :
    readDigits? width (Numeral.padded width value ++ rest) = some (value, rest) := by
  have length := Numeral.length_padded positive fits
  have front : (Numeral.padded width value ++ rest).take width = Numeral.padded width value := by
    rw [List.take_append_of_le_length (by omega), List.take_of_length_le (by omega)]
  have digits : (Numeral.padded width value).takeWhile Char.isDigit =
      Numeral.padded width value :=
    List.takeWhile_eq_self_iff.mpr fun character member => Numeral.isDigit_of_mem_padded member
  rw [readDigits?, front, digits, Numeral.natural?_padded, Option.map_some, List.drop_left]

theorem readPair?_padded {value : Nat} (fits : value < 100) (rest : Text) :
    readPair? (Numeral.padded 2 value ++ rest) = some (value, rest) := by
  rw [readPair?, skipBlanks_padded, readDigits?_padded (by omega) fits]

theorem skipMark?_cons {mark : Char} (visible : isBlank mark = false) (rest : Text) :
    skipMark? mark (mark :: rest) = some rest := by
  rw [skipMark?, skipBlanks_cons visible]
  exact if_pos rfl

/-! ## Years -/

/-- All digits of a number are read if there is no limit to how many. -/
theorem readDigits?_all (width value : Nat) {rest : Text}
    (stops : ∀ character ∈ rest.head?, character.isDigit = false) :
    readDigits? (Numeral.padded width value ++ rest).length (Numeral.padded width value ++ rest) =
      some (value, rest) := by
  rw [readDigits?, List.take_length, takeWhile_padded width value stops, Numeral.natural?_padded,
    Option.map_some, List.drop_left]

/-- A year without a sign is read from four digits. -/
theorem readYear?_of_isDigit {first : Char} (digit : first.isDigit = true) (others : Text) :
    readYear? (first :: others) =
      (readDigits? 4 (first :: others)).map fun read => ((read.1 : Int), read.2) := by
  rw [readYear?, skipBlanks_cons (isBlank_of_isDigit digit)]
  split
  · rename_i start
    rw [(List.cons.inj start).1] at digit
    cases digit
  · rename_i start
    rw [(List.cons.inj start).1] at digit
    cases digit
  · rfl

/-- A year behind a minus sign is read from all digits that follow. -/
theorem readYear?_minus (rest : Text) :
    readYear? ('-' :: rest) =
      (readDigits? rest.length rest).map fun read => (-(read.1 : Int), read.2) := by
  rw [readYear?, skipBlanks_cons rfl]
  rfl

theorem readYear?_plus (rest : Text) :
    readYear? ('+' :: rest) =
      (readDigits? rest.length rest).map fun read => ((read.1 : Int), read.2) := by
  rw [readYear?, skipBlanks_cons rfl]
  rfl

/-- Every year is read back from its written form. -/
theorem readYear?_writeYear (year : Int) {rest : Text}
    (stops : ∀ character ∈ rest.head?, character.isDigit = false) :
    readYear? (writeYear year ++ rest) = some (year, rest) := by
  rw [writeYear]
  by_cases usual : 0 ≤ year ∧ year ≤ 9999
  · have fits : year.toNat < 10 ^ 4 := by omega
    have back : (year.toNat : Int) = year := Int.toNat_of_nonneg usual.1
    have digits := readDigits?_padded (by omega) fits rest
    rw [if_pos usual]
    rcases exists_padded 4 year.toNat with ⟨first, others, written, digit⟩
    rw [written] at digits ⊢
    rw [List.cons_append, readYear?_of_isDigit digit, ← List.cons_append, digits, Option.map_some,
      back]
  · rw [if_neg usual]
    have digits := readDigits?_all 4 year.natAbs stops
    by_cases negative : year < 0
    · have back : -(year.natAbs : Int) = year := by omega
      rw [if_pos negative, List.cons_append, readYear?_minus, digits, Option.map_some, back]
    · have back : (year.natAbs : Int) = year := by omega
      rw [if_neg negative, List.cons_append, readYear?_plus, digits, Option.map_some, back]

theorem daysIn_le (year : Int) (month : Nat) : daysIn year month ≤ 31 := by
  rw [daysIn]
  split
  · split <;> omega
  · split <;> omega

/-- Every date of the calendar is read back from its written form. -/
theorem readDate?_write {date : Date} (dateExists : date.Exists) (rest : Text) :
    readDate? (writeYear date.year ++ '-' :: (Numeral.padded 2 date.month
      ++ '-' :: (Numeral.padded 2 date.day ++ rest))) = some (date, rest) := by
  rcases dateExists with ⟨_, _, _, month, _, day⟩
  have fits : date.day < 100 := by
    have bound := daysIn_le date.year date.month
    omega
  have year : readYear? (writeYear date.year ++ '-' :: (Numeral.padded 2 date.month
      ++ '-' :: (Numeral.padded 2 date.day ++ rest))) =
        some (date.year, '-' :: (Numeral.padded 2 date.month
          ++ '-' :: (Numeral.padded 2 date.day ++ rest))) :=
    readYear?_writeYear date.year (by simp)
  have hyphen : ∀ text, skipMark? '-' ('-' :: text) = some text := skipMark?_cons rfl
  simp only [readDate?, year, hyphen, readPair?_padded fits,
    readPair?_padded (Nat.lt_of_le_of_lt month (by decide)), Option.bind_eq_bind, Option.bind_some]
  rfl

/-! ## Times of day -/

/-- Decimals of a second count as many nanoseconds as their number makes with nine decimals. -/
theorem readFraction?_padded {width value : Nat} (positive : 0 < width) (most : width ≤ 9)
    (fits : value < 10 ^ width) {rest : Text}
    (stops : ∀ character ∈ rest.head?, character.isDigit = false) :
    readFraction? ('.' :: (Numeral.padded width value ++ rest)) =
      some (value * Nat.pow 10 (9 - width), rest) := by
  have length := Numeral.length_padded positive fits
  rw [readFraction?, takeWhile_padded width value stops, List.take_of_length_le (by omega),
    Numeral.natural?_padded, Option.map_some, List.drop_left, length]

/-- Parts of a second are read back, whatever number of decimals they take. -/
theorem readFraction?_writeFraction {nanosecond : Nat} (fits : nanosecond < 1000000000) :
    readFraction? (writeFraction nanosecond ++ ['Z']) = some (nanosecond, ['Z']) := by
  rw [writeFraction]
  by_cases none : nanosecond = 0
  · rw [if_pos none, none]
    rfl
  · rw [if_neg none]
    by_cases milli : nanosecond % 1000000 = 0
    · have back : nanosecond / 1000000 * Nat.pow 10 (9 - 3) = nanosecond :=
        Nat.div_mul_cancel (Nat.dvd_of_mod_eq_zero milli)
      rw [if_pos milli, List.cons_append, readFraction?_padded (by omega) (by omega) (by omega)
        (by simp), back]
    · rw [if_neg milli]
      by_cases micro : nanosecond % 1000 = 0
      · have back : nanosecond / 1000 * Nat.pow 10 (9 - 6) = nanosecond :=
          Nat.div_mul_cancel (Nat.dvd_of_mod_eq_zero micro)
        rw [if_pos micro, List.cons_append, readFraction?_padded (by omega) (by omega) (by omega)
          (by simp), back]
      · have back : nanosecond * Nat.pow 10 (9 - 9) = nanosecond := Nat.mul_one _
        rw [if_neg micro, List.cons_append, readFraction?_padded (by omega) (by omega) (by omega)
          (by simp), back]

/-- Every time of day is read back from its written form. -/
theorem readClock?_write {clock : Clock} (clockExists : clock.Exists) :
    readClock? (Numeral.padded 2 clock.hour ++ ':' :: (Numeral.padded 2 clock.minute
      ++ ':' :: (Numeral.padded 2 clock.second ++ (writeFraction clock.nanosecond ++ ['Z'])))) =
        some (clock, ['Z']) := by
  rcases clockExists with ⟨hour, minute, second, nanosecond⟩
  have colon : ∀ text, skipMark? ':' (':' :: text) = some text := skipMark?_cons rfl
  simp only [readClock?, colon, readPair?_padded (Nat.lt_trans hour (by decide)),
    readPair?_padded (Nat.lt_trans minute (by decide)),
    readPair?_padded (Nat.lt_of_le_of_lt second (by decide)),
    readFraction?_writeFraction nanosecond, Option.bind_eq_bind, Option.bind_some]
  rfl

/-! ## Moments -/

/-- A moment at a place that is not ahead of universal time is that moment. -/
theorem ofLocal?_zero (moment : Timestamp) :
    ofLocal? moment.date moment.clock 0 = some moment := by
  rcases moment with ⟨date, clock, dateExists, clockExists⟩
  have here : ofParts? date clock = some ⟨date, clock, dateExists, clockExists⟩ := by
    rw [ofParts?, dif_pos dateExists, dif_pos clockExists]
  rcases clockExists with ⟨hour, minute, second, nanosecond⟩
  have whole : ((clock.hour : Int) * 60 + clock.minute - 0) % 1440 =
      ((clock.hour * 60 + clock.minute : Nat) : Int) := by omega
  have hours : (clock.hour * 60 + clock.minute) / 60 = clock.hour := by omega
  have minutes : (clock.hour * 60 + clock.minute) % 60 = clock.minute := by omega
  simp only [ofLocal?, here, Option.bind_eq_bind, Option.bind_some, whole, Int.toNat_natCast, hours,
    minutes]
  rw [if_neg (by omega), if_pos (by omega), here]

/-- Every moment is read back from its written form. -/
theorem read?_write (moment : Timestamp) : read? moment.write = some moment := by
  have date := readDate?_write moment.date_exists ('T' :: (Numeral.padded 2 moment.clock.hour
    ++ ':' :: (Numeral.padded 2 moment.clock.minute ++ ':' :: (Numeral.padded 2 moment.clock.second
      ++ (writeFraction moment.clock.nanosecond ++ ['Z'])))))
  have clock := readClock?_write moment.clock_exists
  have offset : readOffset? (skipBlanks ['Z']) = some (0, []) := rfl
  have nothing : (skipBlanks []).isEmpty = true := rfl
  rw [read?, write]
  simp only [List.append_assoc, List.cons_append] at date clock ⊢
  simp only [date, clock, offset, nothing, Option.bind_eq_bind, Option.bind_some]
  rw [if_pos (.inl trivial), if_pos trivial]
  exact ofLocal?_zero moment

end ZoneServices.Timestamp
