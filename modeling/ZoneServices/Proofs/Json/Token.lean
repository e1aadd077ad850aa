import Mathlib.Data.List.Forall2
import ZoneServices.Json.Token
import ZoneServices.Json.Writer
import ZoneServices.Proofs.Text.Digits

/-!
# Tokens of a written text

A written string is cut off as that string, whatever follows it, and a number is cut off as that
number unless a character follows that could continue it.
-/

namespace ZoneServices.Json

/-! ## Strings -/

/-- Whether a piece of a string stands for a character; an escape by number does for a control. -/
inductive Piece.StandsFor : Piece → Char → Prop
  | character (value : Char) : Piece.StandsFor (.character value) value
  | unit {value : Char} (control : value.toNat < 0x20) : Piece.StandsFor (.unit value.toNat) value

/-- A control character is read back from its escape of four digits. -/
theorem unit?_hexDigit {value : Nat} (small : value < 0x20) :
    unit? '0' '0' (Text.hexDigit (value / 16)) (Text.hexDigit (value % 16)) = some value := by
  have zero : Text.hexDigit? '0' = some 0 := rfl
  rw [unit?, zero, Numeral.hexDigit?_hexDigit (by omega),
    Numeral.hexDigit?_hexDigit (Nat.mod_lt _ (by omega))]
  simp only [Option.some.injEq]
  omega

theorem readPieces_cons {character : Char} (notQuote : character ≠ '"')
    (notBackslash : character ≠ '\\') (visible : ¬ character.toNat < 0x20) (rest : Text) :
    readPieces (character :: rest) = piecesAfter (.character character) (readPieces rest) := by
  rw [readPieces]
  · rw [if_neg]
    simp [visible, notBackslash]
  · exact notQuote
  · intro first second third fourth following start
    exact absurd start notBackslash
  · intro escape following start
    exact absurd start notBackslash

/-- A written character is read as one piece that stands for it. -/
theorem readPieces_writeCharacter (character : Char) (rest : Text) :
    ∃ piece : Piece, piece.StandsFor character
      ∧ readPieces (writeCharacter character ++ rest) = piecesAfter piece (readPieces rest) := by
  fun_cases writeCharacter character with
  | case8 _ control =>
      refine ⟨.unit character.toNat, .unit control, ?_⟩
      rw [if_pos control]
      simp only [List.cons_append, List.nil_append, readPieces, unit?_hexDigit control]
  | case9 _ visible notQuote notBackslash =>
      refine ⟨.character character, .character character, ?_⟩
      rw [if_neg visible]
      exact readPieces_cons notQuote notBackslash visible rest
  | _ => exact ⟨_, .character _, rfl⟩

/-- A written string is read, up to its quote, as pieces that stand for its characters. -/
theorem readPieces_flatMap (text rest : Text) :
    ∃ pieces, List.Forall₂ Piece.StandsFor pieces text
      ∧ readPieces (text.flatMap writeCharacter ++ '"' :: rest) = some (pieces, rest) := by
  induction text with
  | nil => exact ⟨[], .nil, rfl⟩
  | cons character others step =>
      rcases step with ⟨pieces, stand, read⟩
      rcases readPieces_writeCharacter character (others.flatMap writeCharacter ++ '"' :: rest) with
        ⟨piece, stands, first⟩
      refine ⟨piece :: pieces, .cons stands stand, ?_⟩
      rw [List.flatMap_cons, List.append_assoc, first, read]
      rfl

/-- An escape by number gives a character, unless its number is that of a surrogate. -/
theorem textOfPieces_unit {value : Char} (control : value.toNat < 0x20) (pieces : List Piece) :
    textOfPieces (.unit value.toNat :: pieces) = (textOfPieces pieces).map (value :: ·) := by
  have high : isHighSurrogate value.toNat = false := by
    simp [isHighSurrogate]
    omega
  have low : isLowSurrogate value.toNat = false := by
    simp [isLowSurrogate]
    omega
  have given : Char.ofNat value.toNat = value := Char.ofNat_toNat value
  cases pieces with
  | nil => simp [textOfPieces, high, low, given]
  | cons piece others =>
      cases piece with
      | character other => simp [textOfPieces, high, low, given]
      | unit other => simp [textOfPieces, high, low, given]

/-- Pieces that stand for characters give the text of these characters. -/
theorem textOfPieces_eq {pieces : List Piece} {text : Text}
    (stand : List.Forall₂ Piece.StandsFor pieces text) : textOfPieces pieces = some text := by
  induction stand with
  | nil => rfl
  | cons stands _ step =>
      cases stands with
      | character value => rw [textOfPieces, step, Option.map_some]
      | unit control => rw [textOfPieces_unit control, step, Option.map_some]

/-! ## Numbers -/

/-- Whether a number goes on with a character instead of ending before it. -/
def continuesNumber (character : Char) : Bool :=
  character.isDigit || character == '.' || character == 'e' || character == 'E'

/-- Whether a text cannot continue a number. -/
def Ends (text : Text) : Prop :=
  ∀ character ∈ text.head?, continuesNumber character = false

theorem ends_cons {character : Char} (other : continuesNumber character = false) (text : Text) :
    Ends (character :: text) := by
  intro first isFirst
  rw [← Option.mem_some.mp isFirst]
  exact other

/-- Digits are taken off in front of a text where no digits follow. -/
theorem digitsOf_append {rest : Text} (ends : Ends rest) (text : Text) :
    digitsOf (text ++ rest) = ((digitsOf text).1, (digitsOf text).2 ++ rest) := by
  induction text with
  | nil =>
      cases rest with
      | nil => rfl
      | cons first following =>
          have other : first.isDigit = false := by
            have closed := ends first rfl
            simp only [continuesNumber, Bool.or_eq_false_iff] at closed
            exact closed.1.1.1
          simp [digitsOf, other]
  | cons character others step =>
      simp only [digitsOf, Prod.mk.injEq] at step
      by_cases digit : character.isDigit = true
      · simp [digitsOf, digit, step.1, step.2]
      · simp [digitsOf, digit]

theorem readFraction?_of_ne {character : Char} (other : character ≠ '.') (text : Text) :
    readFraction? (character :: text) = some ([], character :: text) := by
  rw [readFraction?]
  intro digits start
  exact other (List.cons.inj start).1

theorem readFraction?_append {rest text fraction left : Text} (ends : Ends rest)
    (read : readFraction? text = some (fraction, left)) :
    readFraction? (text ++ rest) = some (fraction, left ++ rest) := by
  cases text with
  | nil =>
      cases read
      cases rest with
      | nil => rfl
      | cons first following =>
          apply readFraction?_of_ne
          rintro rfl
          cases ends '.' rfl
  | cons first others =>
      rw [List.cons_append]
      by_cases point : first = '.'
      · subst point
        rw [readFraction?] at read ⊢
        rw [digitsOf_append ends]
        by_cases none : (digitsOf others).1.isEmpty = true
        · rw [if_pos none] at read
          cases read
        · rw [if_neg none] at read ⊢
          rw [Option.some.inj read]
      · rw [readFraction?_of_ne point] at read ⊢
        cases read
        rfl

/-- Whether an exponent has a minus sign, and the text after its sign. -/
def exponentSign (text : Text) : Bool × Text :=
  if text.head? = some '-' then (true, text.tail)
  else if text.head? = some '+' then (false, text.tail)
  else (false, text)

theorem readExponent?_cons (mark : Char) (text : Text) :
    readExponent? (mark :: text) =
      if mark = 'e' ∨ mark = 'E' then
        if (digitsOf (exponentSign text).2).1.isEmpty then none
        else some (some ((exponentSign text).1, (digitsOf (exponentSign text).2).1),
          (digitsOf (exponentSign text).2).2)
      else
        some (none, mark :: text) := by
  cases text with
  | nil => rfl
  | cons first others =>
      by_cases minus : first = '-'
      · subst minus
        rfl
      · by_cases plus : first = '+'
        · subst plus
          rfl
        · have unsigned : exponentSign (first :: others) = (false, first :: others) := by
            rw [exponentSign, List.head?_cons, if_neg (mt Option.some.inj minus),
              if_neg (mt Option.some.inj plus)]
          rw [unsigned, readExponent?]
          · intro digits start
            exact minus (List.cons.inj start).1
          · intro digits start
            exact plus (List.cons.inj start).1

theorem exponentSign_append {text : Text} (nonempty : text ≠ []) (rest : Text) :
    exponentSign (text ++ rest) = ((exponentSign text).1, (exponentSign text).2 ++ rest) := by
  cases text with
  | nil => exact absurd rfl nonempty
  | cons first others =>
      rw [exponentSign, exponentSign, List.cons_append, List.head?_cons, List.tail_cons,
        List.head?_cons, List.tail_cons]
      split
      · rfl
      · split
        · rfl
        · rfl

theorem readExponent?_append {rest text left : Text} {exponent : Option (Bool × Text)}
    (ends : Ends rest) (read : readExponent? text = some (exponent, left)) :
    readExponent? (text ++ rest) = some (exponent, left ++ rest) := by
  cases text with
  | nil =>
      cases read
      cases rest with
      | nil => rfl
      | cons first following =>
          rw [List.nil_append, readExponent?_cons, if_neg]
          rintro (rfl | rfl)
          · cases ends 'e' rfl
          · cases ends 'E' rfl
  | cons first others =>
      rw [List.cons_append]
      rw [readExponent?_cons] at read ⊢
      by_cases mark : first = 'e' ∨ first = 'E'
      · rw [if_pos mark] at read ⊢
        have nonempty : others ≠ [] := by
          rintro rfl
          cases read
        rw [exponentSign_append nonempty, digitsOf_append ends]
        by_cases none : (digitsOf (exponentSign others).2).1.isEmpty = true
        · rw [if_pos none] at read
          cases read
        · rw [if_neg none] at read ⊢
          cases read
          rfl
      · rw [if_neg mark] at read ⊢
        cases read
        rfl

/-- Whether a number has a minus sign, and the text after it. -/
def numberSign (text : Text) : Bool × Text :=
  if text.head? = some '-' then (true, text.tail) else (false, text)

/-- The digits of a number before its point and the text after them. -/
def readWhole? (text : Text) : Option (Text × Text) :=
  if text.head? = some '0' then some (['0'], text.tail)
  else if (digitsOf text).1.isEmpty then none
  else some (digitsOf text)

/-- A number is read part by part: its sign, whole part, decimals and exponent. -/
theorem readNumber?_eq (text : Text) :
    readNumber? text = (readWhole? (numberSign text).2).bind fun whole =>
      (readFraction? whole.2).bind fun fraction =>
        (readExponent? fraction.2).bind fun exponent =>
          some (⟨(numberSign text).1, whole.1, fraction.1, exponent.1⟩, exponent.2) := by
  rw [readNumber?.eq_def]
  split
  rename_i isNegative digits signed
  have sign : numberSign text = (isNegative, digits) := by
    rw [← signed]
    cases text with
    | nil => rfl
    | cons first others =>
        rw [numberSign, List.head?_cons, List.tail_cons]
        by_cases minus : first = '-'
        · subst minus
          rfl
        · rw [if_neg (mt Option.some.inj minus)]
          split
          · rename_i start
            exact absurd (List.cons.inj start).1 minus
          · rfl
  rw [sign]
  dsimp only
  cases digits with
  | nil => rfl
  | cons first others =>
      rw [readWhole?, List.head?_cons, List.tail_cons]
      by_cases zero : first = '0'
      · subst zero
        rw [if_pos rfl]
        rfl
      · rw [if_neg (mt Option.some.inj zero)]
        split
        · rename_i start
          exact absurd (List.cons.inj start).1 zero
        · split
          · rfl
          · rfl

/-- A whole part is read alike in front of a text where the number ends. -/
theorem readWhole?_append {rest text whole left : Text} (ends : Ends rest)
    (read : readWhole? text = some (whole, left)) :
    readWhole? (text ++ rest) = some (whole, left ++ rest) := by
  cases text with
  | nil => cases read
  | cons first others =>
      rw [readWhole?, List.head?_cons, List.tail_cons] at read
      rw [readWhole?, digitsOf_append ends, List.cons_append, List.head?_cons, List.tail_cons]
      by_cases zero : some first = some '0'
      · rw [if_pos zero] at read ⊢
        cases read
        rfl
      · rw [if_neg zero] at read ⊢
        by_cases none : (digitsOf (first :: others)).1.isEmpty = true
        · rw [if_pos none] at read
          cases read
        · rw [if_neg none] at read ⊢
          rw [Option.some.inj read]

theorem numberSign_append {text : Text} (nonempty : text ≠ []) (rest : Text) :
    numberSign (text ++ rest) = ((numberSign text).1, (numberSign text).2 ++ rest) := by
  cases text with
  | nil => exact absurd rfl nonempty
  | cons first others =>
      rw [numberSign, numberSign, List.cons_append, List.head?_cons, List.tail_cons,
        List.head?_cons, List.tail_cons]
      split
      · rfl
      · rfl

/-- A number is cut off the same whatever follows it, if that cannot continue it. -/
theorem readNumber?_append {rest text left : Text} {parts : NumberParts} (ends : Ends rest)
    (read : readNumber? text = some (parts, left)) :
    readNumber? (text ++ rest) = some (parts, left ++ rest) := by
  have nonempty : text ≠ [] := by
    rintro rfl
    cases read
  rw [readNumber?_eq] at read
  rcases Option.bind_eq_some_iff.mp read with ⟨whole, wholeRead, read⟩
  rcases Option.bind_eq_some_iff.mp read with ⟨fraction, fractionRead, read⟩
  rcases Option.bind_eq_some_iff.mp read with ⟨exponent, exponentRead, read⟩
  cases read
  rw [readNumber?_eq, numberSign_append nonempty, readWhole?_append ends wholeRead,
    Option.bind_some, readFraction?_append ends fractionRead, Option.bind_some,
    readExponent?_append ends exponentRead, Option.bind_some]

theorem starts_of_readNumber? {first : Char} {others left : Text} {parts : NumberParts}
    (read : readNumber? (first :: others) = some (parts, left)) :
    first = '-' ∨ first.isDigit = true := by
  by_cases minus : first = '-'
  · exact .inl minus
  · right
    have sign : numberSign (first :: others) = (false, first :: others) := by
      rw [numberSign, List.head?_cons, if_neg (mt Option.some.inj minus)]
    rw [readNumber?_eq, sign] at read
    rcases Option.bind_eq_some_iff.mp read with ⟨whole, wholeRead, _⟩
    rw [readWhole?, List.head?_cons] at wholeRead
    by_cases zero : first = '0'
    · rw [zero]
      rfl
    · rw [if_neg (mt Option.some.inj zero)] at wholeRead
      by_contra other
      rw [digitsOf, List.takeWhile_cons_of_neg other] at wholeRead
      cases wholeRead

/-- Whether a number is what is read of its written form. -/
def Number.IsPlain (number : Number) : Prop :=
  ∃ parts, readNumber? (writeNumber number) = some (parts, [])
    ∧ parts.value (writeNumber number) = .number number

/-- Only the numeral of zero starts with a zero. -/
theorem eq_zero_of_head?_decimal {value : Nat} (starts : (Numeral.decimal value).head? = some '0') :
    value = 0 := by
  induction value using Nat.strongRecOn with
  | ind value step =>
      by_cases small : value < 10
      · have checked : ∀ value < 10, (Numeral.decimal value).head? = some '0' → value = 0 := by
          decide
        exact checked value small starts
      · have shorter : value / 10 = 0 := by
          apply step (value / 10) (by omega)
          rw [Numeral.decimal, Nat.toDigits_of_base_le (by omega) (by omega)] at starts
          rw [List.head?_append_of_ne_nil _ Nat.toDigits_ne_nil] at starts
          exact starts
        omega

theorem readWhole?_decimal (value : Nat) :
    readWhole? (Numeral.decimal value) = some (Numeral.decimal value, []) := by
  have digits : digitsOf (Numeral.decimal value) = (Numeral.decimal value, []) := by
    have all : ∀ character ∈ Numeral.decimal value, character.isDigit = true :=
      fun character member => Numeral.isDigit_of_mem_decimal member
    rw [digitsOf, List.takeWhile_eq_self_iff.mpr all, List.dropWhile_eq_nil_iff.mpr all]
  by_cases zero : (Numeral.decimal value).head? = some '0'
  · rw [eq_zero_of_head?_decimal zero]
    rfl
  · rw [readWhole?, if_neg zero, digits, if_neg]
    simp [Numeral.decimal_ne_nil]

theorem numberSign_decimal (value : Nat) :
    numberSign (Numeral.decimal value) = (false, Numeral.decimal value) := by
  rw [numberSign, if_neg]
  intro minus
  have digit := Numeral.isDigit_of_mem_decimal (List.mem_of_head? minus)
  cases digit

/-- Whole numbers of 64 bits are read as they are written. -/
theorem isPlain_whole {value : Int} (fits : fitsWord value = true) :
    (Number.whole value).IsPlain := by
  cases value with
  | ofNat value =>
      refine ⟨⟨false, Numeral.decimal value, [], none⟩, ?_, ?_⟩
      · rw [writeNumber, Numeral.signed, readNumber?_eq, numberSign_decimal, readWhole?_decimal]
        rfl
      · have fitsToo : fitsWord (value : Int) = true := fits
        simp [NumberParts.value, Numeral.natural?_decimal, fitsToo]
  | negSucc value =>
      refine ⟨⟨true, Numeral.decimal (value + 1), [], none⟩, ?_, ?_⟩
      · have sign : numberSign ('-' :: Numeral.decimal (value + 1)) =
            (true, Numeral.decimal (value + 1)) := rfl
        rw [writeNumber, Numeral.signed, readNumber?_eq, sign, readWhole?_decimal]
        rfl
      · have fitsToo : fitsWord (-((value + 1 : Nat) : Int)) = true := fits
        simp only [NumberParts.value, Numeral.natural?_decimal, Option.getD_some, if_true, fitsToo]
        simp only [Int.negSucc_eq]
        rw [if_pos]
        · rfl
        · simp
          omega

/-! ## Cutting -/

/-- A number at the front of a text is the first token. -/
theorem readToken_of_readNumber? {first : Char} {others left : Text} {parts : NumberParts}
    (starts : first = '-' ∨ first.isDigit = true)
    (read : readNumber? (first :: others) = some (parts, left))
    (shorter : left.length ≤ others.length) :
    readToken first others = some (.scalar (parts.value
      ((first :: others).take (others.length + 1 - left.length))), left) := by
  rw [readToken]
  · rw [read]
    dsimp only
    rw [if_pos shorter]
  all_goals
    rintro rfl
    revert starts
    decide

theorem isSpace_of_isDigit {character : Char} (digit : character.isDigit = true) :
    isSpace character = false := by
  by_contra space
  simp only [isSpace, Bool.not_eq_false, Bool.or_eq_true, decide_eq_true_eq] at space
  rcases space with ((rfl | rfl) | rfl) | rfl
  all_goals cases digit

theorem tokens?_of_isSpace {character : Char} (space : isSpace character = true) (text : Text) :
    tokens? (character :: text) = tokens? text := by
  rw [tokens?, if_pos space]

/-- Tokens are read one after the other. -/
theorem tokens?_of_readToken {character : Char} {text rest : Text} {token : Token}
    (solid : isSpace character = false)
    (read : readToken character text = some (token, rest)) :
    tokens? (character :: text) = (tokens? rest).map (token :: ·) := by
  rw [tokens?, if_neg (by simp [solid])]
  split
  · rename_i failed
    rw [read] at failed
    cases failed
  · rename_i found
    rw [read] at found
    cases found
    rfl

theorem tokens?_string (text rest : Text) :
    tokens? (writeString text ++ rest) = (tokens? rest).map (.string (some text) :: ·) := by
  rcases readPieces_flatMap text rest with ⟨pieces, stand, read⟩
  rw [writeString, List.cons_append, List.cons_append, List.append_assoc]
  apply tokens?_of_readToken rfl
  rw [readToken, List.cons_append, List.nil_append, read, Option.map_some, textOfPieces_eq stand]

/-- A written number is cut off as one token where it ends. -/
theorem tokens?_number {number : Number} (plain : number.IsPlain) {rest : Text}
    (ends : Ends rest) :
    tokens? (writeNumber number ++ rest) = (tokens? rest).map (.scalar (.number number) :: ·) := by
  rcases plain with ⟨parts, read, value⟩
  cases written : writeNumber number with
  | nil =>
      rw [written] at read
      cases read
  | cons first others =>
      rw [written] at read value
      have starts := starts_of_readNumber? read
      have further := readNumber?_append ends read
      rw [List.nil_append, List.cons_append] at further
      have solid : isSpace first = false := by
        rcases starts with rfl | digit
        · rfl
        · exact isSpace_of_isDigit digit
      rw [List.cons_append]
      apply tokens?_of_readToken solid
      have size : (others ++ rest).length + 1 - rest.length = (first :: others).length := by
        simp only [List.length_append, List.length_cons]
        omega
      rw [readToken_of_readNumber? starts further (by simp), size, ← List.cons_append,
        List.take_left, value]

end ZoneServices.Json
