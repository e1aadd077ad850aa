import ZoneServices.CharacterString
import ZoneServices.Proofs.Text.Digits
import ZoneServices.Proofs.Text.Octets

/-!
# Character-strings that are read back

The canonical form of a list of character-strings is read back as that list, whatever octets they
hold.  Inside quotes every written piece stands for its own octets, and no octet is lost between
the pieces, so a string is read back up to the quote that closes it; the strings of a list follow
by induction.

A text is cut into strings that fit their limit and make the text again when they are put
together.
-/

namespace ZoneServices.CharacterString

open ZoneServices.Text

/-! ## Reading inside quotes -/

@[simp]
theorem after_nil (reading : Except Fault (Octets × Text)) : after [] reading = reading := by
  cases reading <;> rfl

/-- Octets that were read in two steps were read at once. -/
theorem after_after (first second : Octets) (reading : Except Fault (Octets × Text)) :
    after first (after second reading) = after (first ++ second) reading := by
  cases reading with
  | error fault => rfl
  | ok result => simp [after]

/-- Three digits are enough for every octet. -/
theorem padded_three (octet : UInt8) :
    Numeral.padded 3 octet.toNat =
      [(octet.toNat / 100).digitChar, (octet.toNat / 10 % 10).digitChar,
        (octet.toNat % 10).digitChar] := by
  have checked : (List.range 256).all fun value =>
      Numeral.padded 3 value ==
        [(value / 100).digitChar, (value / 10 % 10).digitChar, (value % 10).digitChar] := by
    decide +kernel
  exact beq_iff_eq.mp (List.all_eq_true.mp checked octet.toNat
    (List.mem_range.mpr octet.toNat_lt))

/-- An octet is read back from its escape. -/
theorem readString_writeOctet (octet : UInt8) (rest : Text) :
    readString true (writeOctet octet ++ rest) = after [octet] (readString true rest) := by
  have bound := octet.toNat_lt
  have whole : (octet.toNat / 100 * 10 + octet.toNat / 10 % 10) * 10 + octet.toNat % 10 =
      octet.toNat := by omega
  rw [writeOctet, padded_three, List.cons_append, List.cons_append, List.cons_append,
    List.cons_append, List.nil_append, readString, if_neg (by decide), if_pos rfl]
  dsimp only
  rw [Numeral.digit?_digitChar (by omega)]
  dsimp only
  rw [Numeral.digit?_digitChar (by omega), Numeral.digit?_digitChar (by omega)]
  dsimp only
  rw [whole, if_pos bound, UInt8.ofNat_toNat]

theorem readString_writeOctets (octets : Octets) (rest : Text) :
    readString true (octets.flatMap writeOctet ++ rest) = after octets (readString true rest) := by
  induction octets with
  | nil => rw [List.flatMap_nil, List.nil_append, after_nil]
  | cons octet others step =>
      rw [List.flatMap_cons, List.append_assoc, readString_writeOctet, step, after_after]
      rfl

/-- A written character stands for its own octets. -/
theorem readString_writeCharacter (character : Char) (rest : Text) :
    readString true (writeCharacter character ++ rest) =
      after (String.utf8EncodeChar character) (readString true rest) := by
  rw [writeCharacter]
  split
  · rename_i special
    have noDigit : digit? character = none := by
      rcases special with rfl | rfl <;> decide
    rw [List.cons_append, List.cons_append, List.nil_append, readString, if_neg (by decide),
      if_pos rfl, noDigit]
  · rename_i ordinary
    split
    · exact readString_writeOctets _ rest
    · rw [List.singleton_append, readString.eq_def]
      dsimp only
      rw [if_neg (fun same => ordinary (.inl same)), if_neg (fun same => ordinary (.inr same))]
      rfl

theorem readString_writePiece (piece : Utf8.Piece) (rest : Text) :
    readString true (writePiece piece ++ rest) = after piece.octets (readString true rest) := by
  cases piece with
  | character value => exact readString_writeCharacter value rest
  | broken octets => exact readString_writeOctets octets rest

theorem readString_writePieces (pieces : List Utf8.Piece) (rest : Text) :
    readString true (pieces.flatMap writePiece ++ rest) =
      after (pieces.flatMap Utf8.Piece.octets) (readString true rest) := by
  induction pieces with
  | nil => rw [List.flatMap_nil, List.nil_append, List.flatMap_nil, after_nil]
  | cons piece others step =>
      rw [List.flatMap_cons, List.append_assoc, readString_writePiece, step, after_after,
        List.flatMap_cons]

/-- A quoted string is read back up to the quote that closes it. -/
theorem readString_pieces (octets : Octets) (rest : Text) :
    readString true ((Utf8.pieces octets).flatMap writePiece ++ '"' :: rest) =
      .ok (octets, rest) := by
  have closed : readString true ('"' :: rest) = .ok ([], rest) := by
    rw [readString.eq_def]
    rfl
  rw [readString_writePieces, Utf8.flatMap_pieces, closed, after, List.append_nil]

/-! ## Reading lists of strings -/

theorem readAll_blank {blank : Char} (isBlank_blank : isBlank blank = true) (text : Text) :
    readAll (blank :: text) = readAll text := by
  rw [readAll]
  simp [isBlank_blank]

/-- A string is read back from its written form, whatever strings follow. -/
theorem readAll_write_append {octets : Octets} (fits : octets.length ≤ sizeLimit)
    {following : Text} {others : List Octets} (read : readAll following = .ok others) :
    readAll (write octets ++ following) = .ok (octets :: others) := by
  have notBlank : ¬ isBlank '"' = true := by decide
  have front : readFrom '"' ((Utf8.pieces octets).flatMap writePiece ++ '"' :: following) =
      .ok (octets, following) := by
    rw [readFrom, if_pos rfl, readString_pieces]
  rw [write, List.append_assoc, List.cons_append, List.singleton_append, readAll, dif_neg notBlank]
  split
  · rename_i failed
    rw [front] at failed
    cases failed
  · rename_i found
    rw [front] at found
    cases found
    rw [if_pos fits, read]

theorem writeAll_cons_cons (first second : Octets) (others : List Octets) :
    writeAll (first :: second :: others) = write first ++ ' ' :: writeAll (second :: others) := by
  rw [writeAll, List.map_cons, List.map_cons, joined, List.intercalate_cons_cons,
    List.append_assoc]
  rfl

theorem writeAll_singleton (octets : Octets) : writeAll [octets] = write octets := by
  rw [writeAll, List.map_singleton, joined, List.intercalate_singleton]

/-- Strings within their limit are read back from their canonical form. -/
theorem readAll_writeAll {strings : List Octets}
    (fit : ∀ octets ∈ strings, octets.length ≤ sizeLimit) :
    readAll (writeAll strings) = .ok strings := by
  induction strings with
  | nil => rw [writeAll, List.map_nil, joined, List.intercalate_nil, readAll]
  | cons first others step =>
      rcases List.forall_mem_cons.mp fit with ⟨fits, othersFit⟩
      cases others with
      | nil =>
          have nothing : readAll [] = .ok [] := by rw [readAll]
          have alone := readAll_write_append fits nothing
          rwa [List.append_nil, ← writeAll_singleton] at alone
      | cons second others =>
          rw [writeAll_cons_cons]
          apply readAll_write_append fits
          rw [readAll_blank (by decide)]
          exact step othersFit

/-- Strings that are read keep to their limit. -/
theorem length_of_readAll {text : Text} {strings : List Octets}
    (read : readAll text = .ok strings) :
    ∀ octets ∈ strings, octets.length ≤ sizeLimit := by
  fun_induction readAll text generalizing strings with
  | case1 =>
      cases read
      intro octets member
      exact absurd member List.not_mem_nil
  | case2 character rest blank step => exact step read
  | case3 => cases read
  | case4 => cases read
  | case5 character rest blank octets following found shorter fits others readOthers step =>
      cases read
      exact List.forall_mem_cons.mpr ⟨fits, step readOthers⟩
  | case6 => cases read

/-- A text that is not blank has a string. -/
theorem readAll_ne_nil {text : Text} {character : Char} (member : character ∈ text)
    (solid : isBlank character = false) : readAll text ≠ .ok [] := by
  fun_induction readAll text with
  | case1 => cases member
  | case2 other rest blank step =>
      apply step
      rcases List.mem_cons.mp member with rfl | member
      · rw [solid] at blank
        cases blank
      · exact member
  | case3 => simp
  | case4 => simp
  | case5 => simp
  | case6 => simp

/-- Strings that were read are read back from their written forms. -/
theorem readAll_writeAll_of_read {text : Text} {strings : List Octets}
    (read : readAll text = .ok strings) : readAll (writeAll strings) = .ok strings :=
  readAll_writeAll (length_of_readAll read)

/-- The canonical form of some strings starts and ends with a quote. -/
theorem exists_writeAll {strings : List Octets} (nonempty : strings ≠ []) :
    ∃ inner, writeAll strings = '"' :: inner ++ ['"'] := by
  induction strings with
  | nil => exact absurd rfl nonempty
  | cons first others step =>
      cases others with
      | nil => exact ⟨_, writeAll_singleton first⟩
      | cons second others =>
          rcases step (by simp) with ⟨inner, written⟩
          rw [writeAll_cons_cons, written, write]
          exact ⟨(Utf8.pieces first).flatMap writePiece ++ ['"'] ++ ' ' :: '"' :: inner, by simp⟩

theorem isTrimmed_writeAll {strings : List Octets} (nonempty : strings ≠ []) :
    IsTrimmed (writeAll strings) := by
  rcases exists_writeAll nonempty with ⟨inner, written⟩
  rw [written]
  constructor
  · intro character first
    cases first
    decide
  · intro character last
    rw [List.getLast?_append] at last
    cases last
    decide

/-! ## Characters of the canonical form -/

theorem isControl_of_mem_writeOctet {octet : UInt8} {character : Char}
    (member : character ∈ writeOctet octet) : isControl character = false := by
  have ofDigits : ∀ digit ∈ Numeral.decimal octet.toNat, isControl digit = false :=
    Numeral.of_mem_toDigits (by omega) (by decide) octet.toNat
  rcases List.mem_cons.mp member with rfl | digit
  · decide
  · rcases List.mem_append.mp digit with zero | digit
    · rw [(List.mem_replicate.mp zero).2]
      decide
    · exact ofDigits character digit

/-- No control characters are left in a written piece. -/
theorem isControl_of_mem_writePiece {piece : Utf8.Piece} {character : Char}
    (member : character ∈ writePiece piece) : isControl character = false := by
  have ofOctets : ∀ octets : Octets, character ∈ octets.flatMap writeOctet →
      isControl character = false := by
    intro octets inOctets
    rcases List.mem_flatMap.mp inOctets with ⟨octet, _, written⟩
    exact isControl_of_mem_writeOctet written
  cases piece with
  | broken octets => exact ofOctets octets member
  | character value =>
      rw [writePiece, writeCharacter] at member
      split at member
      · rename_i special
        rcases special with rfl | rfl
        all_goals
          simp only [List.mem_cons, List.not_mem_nil, or_false] at member
          rcases member with rfl | rfl <;> decide
      · split at member
        · exact ofOctets _ member
        · rename_i plain
          rw [List.mem_singleton.mp member]
          exact Bool.eq_false_iff.mpr plain

/-- The canonical form of some strings has no control characters, whatever octets they hold. -/
theorem isControl_of_mem_writeAll {strings : List Octets} {character : Char}
    (member : character ∈ writeAll strings) : isControl character = false := by
  have ofQuote : ∀ other ∈ ['"'], isControl other = false :=
    List.forall_mem_singleton.mpr (by decide)
  have ofSpace : ∀ other ∈ [' '], isControl other = false :=
    List.forall_mem_singleton.mpr (by decide)
  refine forall_mem_joined ofSpace ?_ character member
  intro written isWritten other inWritten
  rcases List.mem_map.mp isWritten with ⟨octets, _, rfl⟩
  rcases List.mem_append.mp inWritten with inFront | inQuote
  · rcases List.mem_cons.mp inFront with rfl | inPieces
    · decide
    · rcases List.mem_flatMap.mp inPieces with ⟨piece, _, inPiece⟩
      exact isControl_of_mem_writePiece inPiece
  · exact ofQuote other inQuote

/-! ## Cutting a text into strings -/

/-- A text is cut in two without a loss. -/
theorem splitToFit_append (room : Nat) (text : Text) :
    (splitToFit room text).1 ++ (splitToFit room text).2 = text := by
  induction text generalizing room with
  | nil => rfl
  | cons character rest step =>
      rw [splitToFit]
      split
      · exact congrArg (character :: ·) (step _)
      · rfl

/-- The first part of a cut text fits the room. -/
theorem octetSize_splitToFit (room : Nat) (text : Text) :
    octetSize (splitToFit room text).1 ≤ room := by
  induction text generalizing room with
  | nil => exact Nat.zero_le room
  | cons character rest step =>
      rw [splitToFit]
      split
      · have := step (room - character.utf8Size)
        simp only [octetSize]
        omega
      · exact Nat.zero_le room

/-- If something is left of a text, the next character would not have fitted. -/
theorem lt_octetSize_splitToFit {room : Nat} {text : Text} (left : (splitToFit room text).2 ≠ []) :
    room < octetSize (splitToFit room text).1 + 4 := by
  induction text generalizing room with
  | nil => exact absurd rfl left
  | cons character rest step =>
      by_cases fits : character.utf8Size ≤ room
      · simp only [splitToFit, if_pos fits] at left ⊢
        have others := step left
        rw [octetSize]
        omega
      · have small := character.utf8Size_le_four
        simp only [splitToFit, if_neg fits, octetSize]
        omega

theorem cut_ne_nil {text : Text} (nonempty : text ≠ []) : cut text ≠ [] := by
  cases text with
  | nil => exact absurd rfl nonempty
  | cons character rest =>
      rw [cut]
      exact List.cons_ne_nil _ _

/-- A text that is cut into pieces is the text of these pieces. -/
theorem flatten_cut (text : Text) : (cut text).flatten = text := by
  fun_induction cut text with
  | case1 => rfl
  | case2 character rest halves step =>
      rw [List.flatten_cons, step, List.cons_append, splitToFit_append]

/-- Each piece of a text fits a string. -/
theorem octetSize_of_mem_cut {text piece : Text} (member : piece ∈ cut text) :
    octetSize piece ≤ sizeLimit := by
  fun_induction cut text with
  | case1 => cases member
  | case2 character rest halves step =>
      rcases List.mem_cons.mp member with rfl | member
      · have fits : octetSize halves.1 ≤ sizeLimit - character.utf8Size :=
          octetSize_splitToFit (sizeLimit - character.utf8Size) rest
        have small := character.utf8Size_le_four
        have limit : sizeLimit = 255 := rfl
        rw [octetSize]
        omega
      · exact step member

/-- All pieces but the last are as long as a character of four octets lets them be. -/
theorem lt_octetSize_of_mem_dropLast_cut {text piece : Text}
    (member : piece ∈ (cut text).dropLast) : 251 < octetSize piece := by
  fun_induction cut text with
  | case1 => cases member
  | case2 character rest halves step =>
      by_cases left : halves.2 = []
      · rw [left, cut] at member
        cases member
      · rw [List.dropLast_cons_of_ne_nil (cut_ne_nil left)] at member
        rcases List.mem_cons.mp member with rfl | member
        · have long : sizeLimit - character.utf8Size < octetSize halves.1 + 4 :=
            lt_octetSize_splitToFit left
          have limit : sizeLimit = 255 := rfl
          rw [octetSize]
          omega
        · exact step member

theorem flatten_ofText (text : Text) : (ofText text).flatten = text := by
  rw [ofText]
  split
  · rename_i empty
    rw [List.isEmpty_iff.mp empty]
    rfl
  · exact flatten_cut text

theorem octetSize_of_mem_ofText {text piece : Text} (member : piece ∈ ofText text) :
    octetSize piece ≤ sizeLimit := by
  rw [ofText] at member
  split at member
  · rw [List.mem_singleton.mp member]
    exact Nat.zero_le sizeLimit
  · exact octetSize_of_mem_cut member

/-- All strings of a text but the last are nearly full, as the pieces are. -/
theorem lt_octetSize_of_mem_dropLast_ofText {text piece : Text}
    (member : piece ∈ (ofText text).dropLast) : 251 < octetSize piece := by
  rw [ofText] at member
  split at member
  · cases member
  · exact lt_octetSize_of_mem_dropLast_cut member

-- A character of two octets does not fit behind 254 others.
example : (ofText (List.replicate 254 'a' ++ ['é', 'b'])).map octetSize = [254, 3] := by
  decide +kernel

theorem ofText_ne_nil (text : Text) : ofText text ≠ [] := by
  rw [ofText]
  split
  · exact List.cons_ne_nil _ _
  · rename_i nonempty
    exact cut_ne_nil (by simpa using nonempty)

/-- The place of the cut is the only one at which the first part fits and no character more does. -/
theorem splitToFit_eq {head tail : Text} {room : Nat} (fits : octetSize head ≤ room)
    (full : ∀ character ∈ tail.head?, room < octetSize head + character.utf8Size) :
    splitToFit room (head ++ tail) = (head, tail) := by
  induction head generalizing room with
  | nil =>
      cases tail with
      | nil => rfl
      | cons character rest =>
          have large := full character rfl
          rw [octetSize, Nat.zero_add] at large
          rw [List.nil_append, splitToFit, if_neg (Nat.not_le.mpr large)]
  | cons first others step =>
      rw [octetSize] at fits
      have behind : splitToFit (room - first.utf8Size) (others ++ tail) = (others, tail) := by
        apply step
        · omega
        · intro character found
          have large := full character found
          rw [octetSize] at large
          omega
      rw [List.cons_append, splitToFit, if_pos (by omega), behind]

/-- A piece ends where the text does or where the next character does not fit anymore. -/
theorem cut_append {piece rest : Text} (nonempty : piece ≠ []) (fits : octetSize piece ≤ sizeLimit)
    (full : ∀ character ∈ rest.head?, sizeLimit < octetSize piece + character.utf8Size) :
    cut (piece ++ rest) = piece :: cut rest := by
  rcases List.exists_cons_of_ne_nil nonempty with ⟨first, others, rfl⟩
  rw [octetSize] at fits full
  have halves : splitToFit (sizeLimit - first.utf8Size) (others ++ rest) = (others, rest) := by
    apply splitToFit_eq
    · omega
    · intro character found
      have large := full character found
      omega
  rw [List.cons_append, cut, halves]

/-- A text with a full piece in front has that piece for its first string. -/
theorem ofText_append {piece : Text} {character : Char} (nonempty : piece ≠ [])
    (fits : octetSize piece ≤ sizeLimit)
    (full : sizeLimit < octetSize piece + character.utf8Size) (rest : Text) :
    ofText (piece ++ character :: rest) = piece :: ofText (character :: rest) := by
  have more : ∀ next ∈ (character :: rest).head?, sizeLimit < octetSize piece + next.utf8Size := by
    rintro next found
    cases found
    exact full
  simp [ofText, nonempty, cut_append nonempty fits more]

theorem ofText_of_fits {piece : Text} (fits : octetSize piece ≤ sizeLimit) :
    ofText piece = [piece] := by
  by_cases empty : piece = []
  · subst empty
    rfl
  · have one : cut (piece ++ []) = piece :: cut [] := cut_append empty fits (by simp)
    rw [List.append_nil, cut] at one
    simp [ofText, empty, one]

/-- The payload that carries a text is read back as the strings of the text. -/
theorem readAll_writeText (text : Text) :
    readAll (writeText text) = .ok ((ofText text).map Utf8.encode) := by
  apply readAll_writeAll
  intro octets member
  rcases List.mem_map.mp member with ⟨piece, inText, rfl⟩
  rw [Utf8.length_encode]
  exact octetSize_of_mem_ofText inText

theorem isTrimmed_writeText (text : Text) : IsTrimmed (writeText text) :=
  isTrimmed_writeAll (by simp [ofText_ne_nil])

/-- The strings of a text are its pieces again. -/
theorem map_decodeLossy_encode (text : Text) :
    ((ofText text).map Utf8.encode).map Utf8.decodeLossy = ofText text := by
  simp [Function.comp_def, Utf8.decodeLossy_encode]

end ZoneServices.CharacterString
