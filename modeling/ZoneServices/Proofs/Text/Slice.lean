import ZoneServices.Proofs.Text.Letter
import ZoneServices.Proofs.Text.Octets

/-!
# Slices of a text

A slice is taken of the octets of a text, between two offsets.  It exists only if the offsets lie
within the text in this order and neither of them stands inside a character, which is told by the
octet behind the offset alone: an octet that continues a sequence is never the first octet of one.

Here this is tied to the characters of the text.  An offset is a boundary exactly if it is the size
of a head of the text, and what stands between two such heads can be taken as a slice.
-/

namespace ZoneServices.Text

/-- Whether an octet continues a sequence that has begun before it. -/
def continues (octet : UInt8) : Bool :=
  0x80 ≤ octet && octet < 0xC0

/-- Whether an offset stands before a character of a text or at its end. -/
def isBoundary (text : Text) (offset : Nat) : Bool :=
  offset == 0
    || match (Utf8.encode text)[offset]? with
       | some octet => !continues octet
       | none => offset == (Utf8.encode text).length

/-- The slice of a text from one offset up to another one, if there is one. -/
def slice? (text : Text) (start stop : Nat) : Option Text :=
  if start ≤ stop && isBoundary text start && isBoundary text stop then
    some (Utf8.decodeLossy (((Utf8.encode text).drop start).take (stop - start)))
  else
    none

/-! ## First octets and octets that follow -/

theorem continues_iff {octet : UInt8} :
    continues octet = true ↔ 0x80 ≤ octet.toNat ∧ octet.toNat < 0xC0 := by
  simp [continues, UInt8.le_iff_toNat_le, UInt8.lt_iff_toNat_lt]

theorem not_continues_of_lead? {octet : UInt8} {lead : Utf8.Lead}
    (asked : Utf8.lead? octet = some lead) : continues octet = false := by
  have bounds := Utf8.lead?_eq_some asked
  rw [Bool.eq_false_iff, Ne, continues_iff]
  omega

theorem continues_of_follows {octet : UInt8} {lead : Utf8.Lead} {following : Octets}
    (asked : Utf8.lead? octet = some lead) (follows : Utf8.Follows lead following) :
    ∀ next ∈ following, continues next = true := by
  have bounds := Utf8.lead?_eq_some asked
  rcases follows with ⟨length, first, others⟩
  simp only [UInt8.le_iff_toNat_le] at first others
  have low : (0x80 : UInt8).toNat = 0x80 := rfl
  have high : (0xBF : UInt8).toNat = 0xBF := rfl
  cases following with
  | nil => exact fun next member => absurd member List.not_mem_nil
  | cons second more =>
      have inRange := first second rfl
      rw [List.length_cons] at length
      refine List.forall_mem_cons.mpr ⟨continues_iff.mpr (by omega), fun next member => ?_⟩
      have range := others next member
      exact continues_iff.mpr (by omega)

/-- The octets of a character: the first one begins it, the others continue it. -/
theorem exists_octets (character : Char) :
    ∃ octet following, String.utf8EncodeChar character = octet :: following
      ∧ continues octet = false ∧ ∀ next ∈ following, continues next = true := by
  rcases Utf8.exists_isSequence character with ⟨octet, following, written, lead, asked, follows, _⟩
  exact ⟨octet, following, written, not_continues_of_lead? asked,
    continues_of_follows asked follows⟩

/-! ## Boundaries -/

theorem encode_cons (character : Char) (rest : Text) :
    Utf8.encode (character :: rest) = String.utf8EncodeChar character ++ Utf8.encode rest :=
  rfl

theorem encode_append (head tail : Text) :
    Utf8.encode (head ++ tail) = Utf8.encode head ++ Utf8.encode tail :=
  List.flatMap_append

theorem isBoundary_octetSize_append (head tail : Text) :
    isBoundary (head ++ tail) (octetSize head) = true := by
  have behind : (Utf8.encode (head ++ tail))[octetSize head]? = (Utf8.encode tail)[0]? := by
    rw [encode_append, ← Utf8.length_encode, List.getElem?_append_right (Nat.le_refl _),
      Nat.sub_self]
  rw [isBoundary, behind]
  cases tail with
  | nil => simp [Utf8.encode, ← Utf8.length_encode]
  | cons character rest =>
      rcases exists_octets character with ⟨octet, following, written, begins, _⟩
      simp [encode_cons, written, begins]

/-- An offset inside of the first character is no boundary. -/
theorem not_isBoundary_of_lt {character : Char} {rest : Text} {offset : Nat}
    (positive : offset ≠ 0) (inside : offset < character.utf8Size) :
    isBoundary (character :: rest) offset = false := by
  rcases exists_octets character with ⟨octet, following, written, _, continued⟩
  have length := congrArg List.length written
  rw [String.length_utf8EncodeChar, List.length_cons] at length
  rcases Nat.exists_eq_succ_of_ne_zero positive with ⟨before, rfl⟩
  have short : before < following.length := by omega
  have found : (Utf8.encode (character :: rest))[before + 1]? = some following[before] := by
    rw [encode_cons, written, List.cons_append, List.getElem?_cons_succ,
      List.getElem?_append_left short, List.getElem?_eq_getElem short]
  rw [isBoundary, found]
  simp [continued _ (List.getElem_mem short)]

/-- An offset behind the first character is a boundary if it is one of the rest. -/
theorem isBoundary_cons {character : Char} {rest : Text} {offset : Nat}
    (behind : character.utf8Size < offset) :
    isBoundary (character :: rest) offset = isBoundary rest (offset - character.utf8Size) := by
  have positive := character.utf8Size_pos
  have size := String.length_utf8EncodeChar character
  have found : (Utf8.encode (character :: rest))[offset]? =
      (Utf8.encode rest)[offset - character.utf8Size]? := by
    rw [encode_cons, List.getElem?_append_right (by omega), size]
  have first : (offset == 0) = false := beq_eq_false_iff_ne.mpr (by omega)
  have second : (offset - character.utf8Size == 0) = false := beq_eq_false_iff_ne.mpr (by omega)
  rw [isBoundary, isBoundary, found, first, second]
  split
  · rfl
  · rw [encode_cons, List.length_append, size, Bool.eq_iff_iff]
    simp only [Bool.false_or, beq_iff_eq]
    omega

/-- The boundaries of a text are the sizes of its heads. -/
theorem isBoundary_iff {text : Text} {offset : Nat} :
    isBoundary text offset = true ↔ ∃ head tail, text = head ++ tail ∧ octetSize head = offset := by
  constructor
  · intro boundary
    induction text generalizing offset with
    | nil =>
        rw [isBoundary] at boundary
        simp only [Utf8.encode, List.flatMap_nil, List.getElem?_nil, List.length_nil, Bool.or_self,
          beq_iff_eq] at boundary
        exact ⟨[], [], rfl, boundary.symm⟩
    | cons character rest step =>
        by_cases first : offset = 0
        · exact ⟨[], character :: rest, rfl, first.symm⟩
        · rcases Nat.lt_trichotomy offset character.utf8Size with inside | atEnd | behind
          · rw [not_isBoundary_of_lt first inside] at boundary
            cases boundary
          · exact ⟨[character], rest, rfl, atEnd.symm⟩
          · rw [isBoundary_cons behind] at boundary
            rcases step boundary with ⟨head, tail, cut, size⟩
            refine ⟨character :: head, tail, congrArg (character :: ·) cut, ?_⟩
            rw [octetSize, size]
            omega
  · rintro ⟨head, tail, rfl, rfl⟩
    exact isBoundary_octetSize_append head tail

/-- No character of two octets can be cut. -/
example : isBoundary "é".toList 1 = false := by decide

/-- An offset is a boundary exactly if the text can be cut there. -/
theorem isBoundary_eq_isSome (text : Text) (offset : Nat) :
    isBoundary text offset = (splitAtOctet? text offset).isSome := by
  rw [Bool.eq_iff_iff, isBoundary_iff, Option.isSome_iff_exists]
  constructor
  · rintro ⟨head, tail, cut⟩
    exact ⟨(head, tail), splitAtOctet?_eq_some_iff.mpr cut⟩
  · rintro ⟨⟨head, tail⟩, cut⟩
    exact ⟨head, tail, splitAtOctet?_eq_some_iff.mp cut⟩

/-! ## Slices -/

/-- What stands between two heads of a text can be taken as a slice. -/
theorem slice?_append (before piece behind : Text) :
    slice? (before ++ piece ++ behind) (octetSize before) (octetSize before + octetSize piece) =
      some piece := by
  have start : isBoundary (before ++ piece ++ behind) (octetSize before) = true := by
    rw [List.append_assoc]
    exact isBoundary_octetSize_append before (piece ++ behind)
  have stop :
      isBoundary (before ++ piece ++ behind) (octetSize before + octetSize piece) = true := by
    rw [← octetSize_append]
    exact isBoundary_octetSize_append (before ++ piece) behind
  have octets : ((Utf8.encode (before ++ piece ++ behind)).drop (octetSize before)).take
      (octetSize piece) = Utf8.encode piece := by
    rw [List.append_assoc, encode_append, encode_append,
      List.drop_left' (Utf8.length_encode before), List.take_left' (Utf8.length_encode piece)]
  rw [slice?, start, stop, Nat.add_sub_cancel_left, octets, Utf8.decodeLossy_encode]
  simp

theorem slice?_head (head tail : Text) : slice? (head ++ tail) 0 (octetSize head) = some head := by
  have sliced := slice?_append [] head tail
  rwa [octetSize, Nat.zero_add] at sliced

theorem slice?_tail (head tail : Text) :
    slice? (head ++ tail) (octetSize head) (octetSize (head ++ tail)) = some tail := by
  have sliced := slice?_append head tail []
  rwa [List.append_nil, ← octetSize_append] at sliced

end ZoneServices.Text
