import ZoneServices.Proofs.Json.RoundTrip
import ZoneServices.Proofs.Text.Lines

/-!
# Values over lines

The text of a value over lines has no carriage return: strings escape it, and a number is read to
its end, where a carriage return would stop the reader.  The text of an object ends with its
brace.  So the lines of the text, printed one by one, make it again.
-/

namespace ZoneServices.Json

open Text (IsLined)

/-! ## Numbers -/

theorem return_mem_digitsOf {text : Text} (member : '\r' ∈ text) : '\r' ∈ (digitsOf text).2 := by
  rw [← List.takeWhile_append_dropWhile (p := Char.isDigit) (l := text)] at member
  rcases List.mem_append.mp member with digits | rest
  · cases List.mem_takeWhile_imp digits
  · exact rest

theorem return_mem_tail {first : Char} {others : Text} (other : first ≠ '\r')
    (member : '\r' ∈ first :: others) : '\r' ∈ others :=
  (List.mem_cons.mp member).resolve_left other.symm

theorem return_mem_numberSign {text : Text} (member : '\r' ∈ text) :
    '\r' ∈ (numberSign text).2 := by
  cases text with
  | nil => cases member
  | cons first others =>
      rw [numberSign, List.head?_cons, List.tail_cons]
      split
      · rename_i minus
        cases minus
        exact return_mem_tail (by decide) member
      · exact member

theorem return_mem_exponentSign {text : Text} (member : '\r' ∈ text) :
    '\r' ∈ (exponentSign text).2 := by
  cases text with
  | nil => cases member
  | cons first others =>
      rw [exponentSign, List.head?_cons, List.tail_cons]
      split
      · rename_i minus
        cases minus
        exact return_mem_tail (by decide) member
      · split
        · rename_i plus
          cases plus
          exact return_mem_tail (by decide) member
        · exact member

theorem return_mem_readWhole? {text whole left : Text}
    (read : readWhole? text = some (whole, left)) (member : '\r' ∈ text) : '\r' ∈ left := by
  cases text with
  | nil => cases member
  | cons first others =>
      rw [readWhole?, List.head?_cons, List.tail_cons] at read
      split at read
      · rename_i zero
        cases zero
        cases read
        exact return_mem_tail (by decide) member
      · split at read
        · cases read
        · have digits := return_mem_digitsOf member
          rwa [Option.some.inj read] at digits

theorem return_mem_readFraction? {text fraction left : Text}
    (read : readFraction? text = some (fraction, left)) (member : '\r' ∈ text) : '\r' ∈ left := by
  cases text with
  | nil => cases member
  | cons first others =>
      by_cases point : first = '.'
      · subst point
        rw [readFraction?] at read
        split at read
        · cases read
        · have digits := return_mem_digitsOf (return_mem_tail (by decide) member)
          rwa [Option.some.inj read] at digits
      · rw [readFraction?_of_ne point] at read
        cases read
        exact member

theorem return_mem_readExponent? {text left : Text} {exponent : Option (Bool × Text)}
    (read : readExponent? text = some (exponent, left)) (member : '\r' ∈ text) :
    '\r' ∈ left := by
  cases text with
  | nil => cases member
  | cons first others =>
      rw [readExponent?_cons] at read
      split at read
      · rename_i mark
        have other : first ≠ '\r' := by
          rintro rfl
          revert mark
          decide
        split at read
        · cases read
        · cases read
          exact return_mem_digitsOf (return_mem_exponentSign (return_mem_tail other member))
      · cases read
        exact member

/-- A carriage return in a text is left behind the number at its front. -/
theorem return_mem_readNumber? {text left : Text} {parts : NumberParts}
    (read : readNumber? text = some (parts, left)) (member : '\r' ∈ text) : '\r' ∈ left := by
  rw [readNumber?_eq] at read
  rcases Option.bind_eq_some_iff.mp read with ⟨whole, wholeRead, read⟩
  rcases Option.bind_eq_some_iff.mp read with ⟨fraction, fractionRead, read⟩
  rcases Option.bind_eq_some_iff.mp read with ⟨exponent, exponentRead, read⟩
  cases read
  have behindSign := return_mem_numberSign member
  have behindWhole := return_mem_readWhole? wholeRead behindSign
  have behindFraction := return_mem_readFraction? fractionRead behindWhole
  exact return_mem_readExponent? exponentRead behindFraction

/-- No carriage return is part of a number, because it would not be read back. -/
theorem Number.IsPlain.not_mem_return {number : Number} (plain : number.IsPlain) :
    '\r' ∉ writeNumber number := by
  rcases plain with ⟨parts, read, _⟩
  intro member
  cases return_mem_readNumber? read member

/-! ## Strings -/

theorem hexDigit_ne_return {value : Nat} (small : value < 16) : Text.hexDigit value ≠ '\r' := by
  have checked : ∀ value < 16, Text.hexDigit value ≠ '\r' := by decide
  exact checked value small

theorem not_mem_return_writeCharacter (character : Char) : '\r' ∉ writeCharacter character := by
  fun_cases writeCharacter character
  case case8 control _ _ _ _ _ _ _ =>
    have high : '\r' ≠ Text.hexDigit (character.toNat / 16) :=
      (hexDigit_ne_return (by omega)).symm
    have low : '\r' ≠ Text.hexDigit (character.toNat % 16) :=
      (hexDigit_ne_return (by omega)).symm
    rw [if_pos control]
    simp [high, low]
  case case9 printable _ _ _ _ _ other _ =>
    rw [if_neg printable]
    exact fun member => other (List.mem_singleton.mp member).symm
  all_goals decide

/-- No written string has a carriage return. -/
theorem not_mem_return_writeString (text : Text) : '\r' ∉ writeString text := by
  intro member
  rw [writeString] at member
  rcases List.mem_append.mp member with front | quote
  · have inside := return_mem_tail (by decide) front
    rcases List.mem_flatMap.mp inside with ⟨character, _, written⟩
    exact not_mem_return_writeCharacter character written
  · cases List.mem_singleton.mp quote

/-! ## Arrays and objects -/

theorem not_mem_return_lineStart (level : Nat) : '\r' ∉ lineStart level := by
  intro member
  cases List.eq_of_mem_replicate (return_mem_tail (by decide) member)

/-- Elements bring no carriage return into the lines of their array. -/
theorem not_mem_return_writeElementLines {level : Nat} {elements : List Json}
    (each : ∀ element ∈ elements, '\r' ∉ writeLines level element) :
    '\r' ∉ writeElementLines level elements := by
  induction elements with
  | nil => exact List.not_mem_nil
  | cons element rest step =>
      rcases List.forall_mem_cons.mp each with ⟨first, others⟩
      simp [writeElementLines, not_mem_return_lineStart, first, step others]

/-- Members bring no carriage return into the lines of their object. -/
theorem not_mem_return_writeMemberLines {level : Nat} {members : List (Text × Json)}
    (each : ∀ member ∈ members, '\r' ∉ writeLines level member.2) :
    '\r' ∉ writeMemberLines level members := by
  induction members with
  | nil => exact List.not_mem_nil
  | cons member rest step =>
      rcases member with ⟨key, value⟩
      rcases List.forall_mem_cons.mp each with ⟨first, others⟩
      simp [writeMemberLines, not_mem_return_lineStart, not_mem_return_writeString, first,
        step others]

/-- A plain value is written over lines without a carriage return. -/
theorem IsPlain.not_mem_return {value : Json} (plain : value.IsPlain) (level : Nat) :
    '\r' ∉ writeLines level value := by
  induction plain generalizing level with
  | null =>
      rw [writeLines]
      decide
  | bool value =>
      rw [writeLines]
      cases value with
      | false => decide
      | true => decide
  | number plain =>
      rw [writeLines]
      exact plain.not_mem_return
  | string text =>
      rw [writeLines]
      exact not_mem_return_writeString text
  | @array elements each step =>
      cases elements with
      | nil =>
          rw [writeLines]
          decide
      | cons element rest =>
          rcases List.forall_mem_cons.mp step with ⟨first, others⟩
          have written := not_mem_return_writeElementLines fun element member =>
            others element member (level + 1)
          simp [writeLines, not_mem_return_lineStart, first, written]
  | @object members each step =>
      cases members with
      | nil =>
          rw [writeLines]
          decide
      | cons member rest =>
          rcases member with ⟨key, value⟩
          rcases List.forall_mem_cons.mp step with ⟨first, others⟩
          have written := not_mem_return_writeMemberLines fun member isMember =>
            others member isMember (level + 1)
          simp [writeLines, not_mem_return_lineStart, not_mem_return_writeString, first, written]

/-- The lines of an object end with its bracket. -/
theorem getLast?_pretty_object (members : List (Text × Json)) :
    (pretty (.object members)).getLast? = some '\x7d' := by
  cases members with
  | nil => rfl
  | cons member rest =>
      rcases member with ⟨key, value⟩
      rw [pretty, writeLines]
      exact List.getLast?_concat

/-- The text of a plain object is its lines. -/
theorem isLined_pretty {members : List (Text × Json)} (plain : IsPlain (.object members)) :
    IsLined (pretty (.object members)) where
  free := plain.not_mem_return 0
  ends := ⟨'\x7d', by decide, getLast?_pretty_object members⟩

end ZoneServices.Json
