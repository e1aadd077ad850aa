import ZoneServices.Text.Number

/-!
# Letter case

Names are compared up to the case of ASCII letters.  This module says what that comparison
preserves: the number of characters and octets, and every class of characters that does not tell
one letter from another.

It also describes the cutting of a text at an octet, which is how the end of a name is compared
with the origin of its zone.
-/

namespace ZoneServices.Text

/-! ## Single letters -/

/-- Code points of the ASCII letters. -/
def letterPoints : List Nat :=
  List.range' 65 26 ++ List.range' 97 26

theorem isUpper_iff {character : Char} :
    character.isUpper = true ↔ 65 ≤ character.toNat ∧ character.toNat ≤ 90 := by
  change decide ('A'.val ≤ character.val ∧ character.val ≤ 'Z'.val) = true ↔ _
  rw [decide_eq_true_eq, UInt32.le_iff_toNat_le, UInt32.le_iff_toNat_le]
  rfl

theorem isLower_iff {character : Char} :
    character.isLower = true ↔ 97 ≤ character.toNat ∧ character.toNat ≤ 122 := by
  change (decide ('a'.val ≤ character.val) && decide (character.val ≤ 'z'.val)) = true ↔ _
  rw [Bool.and_eq_true, decide_eq_true_eq, decide_eq_true_eq, UInt32.le_iff_toNat_le,
    UInt32.le_iff_toNat_le]
  rfl

theorem isAlpha_iff {character : Char} :
    character.isAlpha = true ↔ character.isUpper = true ∨ character.isLower = true :=
  Bool.or_eq_true_iff

theorem toNat_mem_letterPoints {character : Char} (letter : character.isAlpha = true) :
    character.toNat ∈ letterPoints := by
  rw [letterPoints, List.mem_append, List.mem_range'_1, List.mem_range'_1]
  rw [isAlpha_iff, isUpper_iff, isLower_iff] at letter
  omega

/-- What holds of every letter is settled by looking at all of them. -/
theorem of_isAlpha (property : Char → Bool)
    (checked : letterPoints.all fun point => property (Char.ofNat point))
    {character : Char} (letter : character.isAlpha = true) :
    property character = true := by
  have found := List.all_eq_true.mp checked _ (toNat_mem_letterPoints letter)
  rwa [Char.ofNat_toNat] at found

theorem isAlpha_of_isUpper {character : Char} (upper : character.isUpper = true) :
    character.isAlpha = true :=
  isAlpha_iff.mpr (.inl upper)

theorem toLower_of_not_isUpper {character : Char} (notUpper : character.isUpper = false) :
    character.toLower = character := by
  unfold Char.toLower
  rw [dif_neg]
  intro inRange
  have upper : character.isUpper = true := isUpper_iff.mpr
    ⟨UInt32.le_iff_toNat_le.mp inRange.1, UInt32.le_iff_toNat_le.mp inRange.2⟩
  cases notUpper.symm.trans upper

theorem isAlpha_toLower (character : Char) :
    character.toLower.isAlpha = character.isAlpha := by
  cases upper : character.isUpper with
  | false => rw [toLower_of_not_isUpper upper]
  | true =>
      rw [isAlpha_of_isUpper upper]
      exact of_isAlpha (fun letter => letter.toLower.isAlpha) (by decide)
        (isAlpha_of_isUpper upper)

theorem toLower_toLower (character : Char) :
    character.toLower.toLower = character.toLower := by
  cases upper : character.isUpper with
  | false => rw [toLower_of_not_isUpper upper, toLower_of_not_isUpper upper]
  | true =>
      have same := of_isAlpha (fun letter => letter.toLower.toLower == letter.toLower) (by decide)
        (isAlpha_of_isUpper upper)
      exact beq_iff_eq.mp same

theorem toLower_of_not_isAlpha {character : Char} (notLetter : character.isAlpha = false) :
    character.toLower = character := by
  apply toLower_of_not_isUpper
  cases upper : character.isUpper with
  | false => rfl
  | true => rw [isAlpha_of_isUpper upper] at notLetter; cases notLetter

theorem toUpper_toLower (character : Char) : character.toLower.toUpper = character.toUpper := by
  cases letter : character.isAlpha with
  | false => rw [toLower_of_not_isAlpha letter]
  | true =>
      have checked := of_isAlpha
        (fun letter => letter.toLower.toUpper == letter.toUpper) (by decide) letter
      exact beq_iff_eq.mp checked

/-- Two characters that differ in their case alone are the same or both letters. -/
theorem eq_or_isAlpha_of_toLower_eq {left right : Char}
    (same : left.toLower = right.toLower) :
    left = right ∨ left.isAlpha = true ∧ right.isAlpha = true := by
  have letters : left.isAlpha = right.isAlpha := by
    rw [← isAlpha_toLower left, same, isAlpha_toLower]
  cases leftLetter : left.isAlpha with
  | true => exact .inr ⟨rfl, letters ▸ leftLetter⟩
  | false =>
      left
      rw [toLower_of_not_isAlpha leftLetter,
        toLower_of_not_isAlpha (letters ▸ leftLetter)] at same
      exact same

/-- A function that does not tell one letter from another does not see letter case. -/
theorem eq_of_toLower_eq {Value : Type} [DecidableEq Value] {reading : Char → Value}
    (onLetters : Value)
    (checked : letterPoints.all fun point => reading (Char.ofNat point) == onLetters)
    {left right : Char} (same : left.toLower = right.toLower) :
    reading left = reading right := by
  rcases eq_or_isAlpha_of_toLower_eq same with rfl | ⟨leftLetter, rightLetter⟩
  · rfl
  · have found := @of_isAlpha (fun letter => reading letter == onLetters) checked
    rw [beq_iff_eq.mp (found leftLetter), beq_iff_eq.mp (found rightLetter)]

/-- Blanks are told without regard to letter case, as are the classes that follow. -/
theorem isBlank_eq_of_toLower_eq {left right : Char} (same : left.toLower = right.toLower) :
    isBlank left = isBlank right :=
  eq_of_toLower_eq false (by decide) same

theorem isControl_eq_of_toLower_eq {left right : Char} (same : left.toLower = right.toLower) :
    isControl left = isControl right :=
  eq_of_toLower_eq false (by decide) same

theorem isNumber_eq_of_toLower_eq {left right : Char} (same : left.toLower = right.toLower) :
    isNumber left = isNumber right :=
  eq_of_toLower_eq false (by decide +kernel) same

theorem digit?_eq_of_toLower_eq {left right : Char} (same : left.toLower = right.toLower) :
    digit? left = digit? right :=
  eq_of_toLower_eq none (by decide) same

/-- The two cases of a letter take equally many octets. -/
theorem utf8Size_eq_of_toLower_eq {left right : Char} (same : left.toLower = right.toLower) :
    left.utf8Size = right.utf8Size :=
  eq_of_toLower_eq 1 (by decide) same

/-- Letter case does not matter where a character is compared with one that is no letter. -/
theorem eq_iff_of_toLower_eq {left right : Char} (other : Char)
    (notLetter : other.isAlpha = false) (same : left.toLower = right.toLower) :
    left = other ↔ right = other := by
  rcases eq_or_isAlpha_of_toLower_eq same with rfl | ⟨leftLetter, rightLetter⟩
  · rfl
  · constructor
    · rintro rfl
      rw [notLetter] at leftLetter
      cases leftLetter
    · rintro rfl
      rw [notLetter] at rightLetter
      cases rightLetter

/-! ## Texts -/

@[simp]
theorem fold_nil : fold [] = [] := rfl

@[simp]
theorem fold_cons (character : Char) (text : Text) :
    fold (character :: text) = character.toLower :: fold text := rfl

@[simp]
theorem fold_append (left right : Text) : fold (left ++ right) = fold left ++ fold right :=
  List.map_append

@[simp]
theorem length_fold (text : Text) : (fold text).length = text.length :=
  List.length_map ..

@[simp]
theorem fold_fold (text : Text) : fold (fold text) = fold text := by
  rw [fold, fold, List.map_map]
  exact List.map_congr_left fun character _ => toLower_toLower character

theorem upper_fold (text : Text) : upper (fold text) = upper text := by
  rw [upper, fold, List.map_map]
  exact List.map_congr_left fun character _ => toUpper_toLower character

/-- Texts are compared by their folded forms. -/
@[simp]
theorem sameFolded_iff {left right : Text} :
    sameFolded left right = true ↔ fold left = fold right :=
  beq_iff_eq

theorem sameFolded_eq_false_iff {left right : Text} :
    sameFolded left right = false ↔ fold left ≠ fold right := by
  rw [Ne, ← sameFolded_iff, Bool.not_eq_true]

theorem length_eq_of_fold_eq {left right : Text} (same : fold left = fold right) :
    left.length = right.length := by
  rw [← length_fold left, same, length_fold]

theorem fold_eq_nil_iff {text : Text} : fold text = [] ↔ text = [] :=
  List.map_eq_nil_iff

/-- A character that is no letter is in a text exactly when it is in the folded text. -/
theorem mem_fold_iff {character : Char} (notLetter : character.isAlpha = false) {text : Text} :
    character ∈ fold text ↔ character ∈ text := by
  simp only [fold, List.mem_map]
  constructor
  · rintro ⟨other, member, same⟩
    have equal := (eq_iff_of_toLower_eq character notLetter (toLower_toLower other)).mp same
    exact equal ▸ member
  · intro member
    exact ⟨character, member, toLower_of_not_isAlpha notLetter⟩

/-- Texts equal up to letter case share all characters but letters. -/
theorem mem_iff_of_fold_eq {character : Char} (notLetter : character.isAlpha = false)
    {left right : Text} (same : fold left = fold right) :
    character ∈ left ↔ character ∈ right := by
  rw [← mem_fold_iff notLetter, same, mem_fold_iff notLetter]

/-- A class blind to letter case holds of both texts or of neither. -/
theorem all_eq_of_fold_eq {ofClass : Char → Bool}
    (blind : ∀ {left right : Char}, left.toLower = right.toLower → ofClass left = ofClass right)
    {left right : Text} (same : fold left = fold right) :
    left.all ofClass = right.all ofClass := by
  induction left generalizing right with
  | nil => rw [fold_eq_nil_iff.mp same.symm]
  | cons character rest step =>
      cases right with
      | nil => cases same
      | cons other others =>
          simp only [fold_cons, List.cons.injEq] at same
          rw [List.all_cons, List.all_cons, blind same.1, step same.2]

/-! ## Sizes in octets -/

@[simp]
theorem octetSize_append (left right : Text) :
    octetSize (left ++ right) = octetSize left + octetSize right := by
  induction left with
  | nil => simp [octetSize]
  | cons character rest step => simp [octetSize, step, Nat.add_assoc]

/-- Folding keeps the size in octets. -/
theorem octetSize_eq_of_fold_eq {left right : Text} (same : fold left = fold right) :
    octetSize left = octetSize right := by
  induction left generalizing right with
  | nil => rw [fold_eq_nil_iff.mp same.symm]
  | cons character rest step =>
      cases right with
      | nil => cases same
      | cons other others =>
          simp only [fold_cons, List.cons.injEq] at same
          rw [octetSize, octetSize, utf8Size_eq_of_toLower_eq same.1, step same.2]

/-- Only the empty text takes no octet. -/
theorem octetSize_eq_zero_iff {text : Text} : octetSize text = 0 ↔ text = [] := by
  cases text with
  | nil => simp [octetSize]
  | cons character rest =>
      have := character.utf8Size_pos
      simp only [octetSize, reduceCtorEq, iff_false]
      omega

/-- A text is cut at an offset into the head of that size and the tail after it. -/
theorem splitAtOctet?_eq_some_iff {text head tail : Text} {offset : Nat} :
    splitAtOctet? text offset = some (head, tail) ↔
      text = head ++ tail ∧ octetSize head = offset := by
  induction text generalizing offset head with
  | nil =>
      cases offset with
      | zero =>
          simp only [splitAtOctet?, Option.some.injEq, Prod.mk.injEq, octetSize_eq_zero_iff,
            List.nil_eq, List.append_eq_nil_iff]
          constructor
          · rintro ⟨rfl, rfl⟩
            exact ⟨⟨rfl, rfl⟩, rfl⟩
          · rintro ⟨⟨rfl, rfl⟩, _⟩
            exact ⟨rfl, rfl⟩
      | succ offset =>
          simp only [splitAtOctet?, reduceCtorEq, List.nil_eq, List.append_eq_nil_iff, false_iff]
          rintro ⟨⟨rfl, rfl⟩, size⟩
          simp [octetSize] at size
  | cons character rest step =>
      have positive := character.utf8Size_pos
      cases offset with
      | zero =>
          simp only [splitAtOctet?, Option.some.injEq, Prod.mk.injEq, octetSize_eq_zero_iff]
          constructor
          · rintro ⟨rfl, rfl⟩
            exact ⟨rfl, rfl⟩
          · rintro ⟨cut, rfl⟩
            exact ⟨rfl, cut⟩
      | succ offset =>
          rw [splitAtOctet?]
          constructor
          · intro found
            split at found
            · rcases Option.map_eq_some_iff.mp found with ⟨halves, cut, equal⟩
              cases equal
              rcases step.mp cut with ⟨split, size⟩
              simp only [octetSize, List.cons_append, List.cons.injEq, true_and]
              exact ⟨split, by omega⟩
            · cases found
          · rintro ⟨split, size⟩
            cases head with
            | nil => simp [octetSize] at size
            | cons first others =>
                simp only [List.cons_append, List.cons.injEq] at split
                rcases split with ⟨rfl, split⟩
                simp only [octetSize] at size
                have behind : splitAtOctet? rest (offset + 1 - character.utf8Size)
                    = some (others, tail) := step.mpr ⟨split, by omega⟩
                rw [if_pos (by omega), behind]
                rfl

/-- A text in lower case is cut where the text is. -/
theorem splitAtOctet?_fold (text : Text) (offset : Nat) :
    splitAtOctet? (fold text) offset =
      (splitAtOctet? text offset).map fun halves => (fold halves.1, fold halves.2) := by
  induction text generalizing offset with
  | nil => cases offset <;> rfl
  | cons character rest step =>
      cases offset with
      | zero => rfl
      | succ offset =>
          have size := utf8Size_eq_of_toLower_eq (toLower_toLower character)
          rw [fold_cons, splitAtOctet?, splitAtOctet?, size, step]
          split
          · rw [Option.map_map, Option.map_map]
            rfl
          · rfl

end ZoneServices.Text
