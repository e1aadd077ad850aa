import ZoneServices.Text.Utf8

/-!
# Octets of a text

The octets of a text are cut into exactly the characters of the text, and the pieces of any list
of octets put together are that list again.  Both follow from one look at a sequence: a first
octet and the octets that it asks for are the octets of the character that they are assembled to,
and every character is assembled from its own octets.
-/

namespace ZoneServices.Utf8

/-! ## One sequence -/

/-- The octets after a first octet that asks for them. -/
structure Follows (lead : Lead) (following : Octets) : Prop where
  length : following.length = lead.following
  first : ∀ octet ∈ following.head?, lead.low ≤ octet ∧ octet ≤ lead.high
  others : ∀ octet ∈ following.tail, 0x80 ≤ octet ∧ octet ≤ 0xBF

/-- The octets of a sequence after the first are all those that can follow. -/
theorem continuation_append {count : Nat} {low high : UInt8} {following : Octets}
    (length : following.length = count)
    (first : ∀ octet ∈ following.head?, low ≤ octet ∧ octet ≤ high)
    (others : ∀ octet ∈ following.tail, 0x80 ≤ octet ∧ octet ≤ 0xBF) (rest : Octets) :
    continuation count low high (following ++ rest) = following := by
  induction following generalizing count low high with
  | nil =>
      subst length
      rfl
  | cons octet more step =>
      subst length
      rw [List.cons_append, List.length_cons, continuation, if_pos (first octet rfl),
        step rfl (fun next found => others next (List.mem_of_head? found))
          (fun next member => others next (List.mem_of_mem_tail member))]

/-- The continuation is a front of the octets it is taken from. -/
theorem continuation_prefix (count : Nat) (low high : UInt8) (octets : Octets) :
    octets.take (continuation count low high octets).length =
      continuation count low high octets := by
  fun_induction continuation count low high octets with
  | case1 => rfl
  | case2 => rfl
  | case3 count low high octet rest inRange step => simp [step]
  | case4 => rfl

/-- The first octet of a continuation lies in the range that its lead allows. -/
theorem head?_continuation {count : Nat} {low high : UInt8} {octets : Octets} {octet : UInt8}
    (found : octet ∈ (continuation count low high octets).head?) : low ≤ octet ∧ octet ≤ high := by
  cases count with
  | zero => cases found
  | succ count =>
      cases octets with
      | nil => cases found
      | cons first rest =>
          rw [continuation] at found
          split at found
          · rename_i inRange
            cases found
            exact inRange
          · cases found

/-- The later octets of a continuation lie in the common range. -/
theorem tail_continuation {count : Nat} {low high : UInt8} {octets : Octets} {octet : UInt8}
    (member : octet ∈ (continuation count low high octets).tail) :
    0x80 ≤ octet ∧ octet ≤ 0xBF := by
  fun_induction continuation count low high octets with
  | case1 => cases member
  | case2 => cases member
  | case3 count low high first rest inRange step =>
      rw [List.tail_cons] at member
      cases next : continuation count 0x80 0xBF rest with
      | nil =>
          rw [next] at member
          cases member
      | cons second more =>
          rw [next] at member
          rcases List.mem_cons.mp member with rfl | member
          · have first : octet ∈ (continuation count 0x80 0xBF rest).head? := by simp [next]
            exact head?_continuation first
          · exact step (by simpa [next] using member)
  | case4 => cases member

/-- A continuation of full length follows its lead. -/
theorem follows_continuation {lead : Lead} {octets : Octets}
    (length : (continuation lead.following lead.low lead.high octets).length = lead.following) :
    Follows lead (continuation lead.following lead.low lead.high octets) where
  length := length
  first _ found := head?_continuation found
  others _ member := tail_continuation member

/-- What a first octet asks for, by its number. -/
theorem lead?_eq (octet : UInt8) :
    lead? octet =
      if octet.toNat < 0x80 then some ⟨0, 0x80, 0xBF⟩
      else if octet.toNat < 0xC2 then none
      else if octet.toNat < 0xE0 then some ⟨1, 0x80, 0xBF⟩
      else if octet.toNat = 0xE0 then some ⟨2, 0xA0, 0xBF⟩
      else if octet.toNat = 0xED then some ⟨2, 0x80, 0x9F⟩
      else if octet.toNat < 0xF0 then some ⟨2, 0x80, 0xBF⟩
      else if octet.toNat = 0xF0 then some ⟨3, 0x90, 0xBF⟩
      else if octet.toNat < 0xF4 then some ⟨3, 0x80, 0xBF⟩
      else if octet.toNat = 0xF4 then some ⟨3, 0x80, 0x8F⟩
      else none := by
  simp only [lead?, UInt8.lt_iff_toNat_lt, ← UInt8.toNat_inj]
  rfl

theorem toNat_ofNat_of_valid {point : Nat} (valid : point.isValidChar) :
    (Char.ofNat point).toNat = point := by
  rw [Char.ofNat, dif_pos valid]
  rfl

/-- The octets of a character by its code point, as the library computes them. -/
theorem utf8EncodeChar_of_toNat {character : Char} {point : Nat} (same : character.toNat = point) :
    String.utf8EncodeChar character =
      if point ≤ 0x7F then [UInt8.ofNat point]
      else if point ≤ 0x7FF then
        [UInt8.ofNat (point / 64 % 32 + 0xC0), UInt8.ofNat (point % 64 + 0x80)]
      else if point ≤ 0xFFFF then
        [UInt8.ofNat (point / 4096 % 16 + 0xE0), UInt8.ofNat (point / 64 % 64 + 0x80),
          UInt8.ofNat (point % 64 + 0x80)]
      else
        [UInt8.ofNat (point / 262144 % 8 + 0xF0), UInt8.ofNat (point / 4096 % 64 + 0x80),
          UInt8.ofNat (point / 64 % 64 + 0x80), UInt8.ofNat (point % 64 + 0x80)] := by
  subst same
  rfl

/-- What a first octet asks for, by how many octets follow it. -/
theorem lead?_eq_some {octet : UInt8} {lead : Lead} (asked : lead? octet = some lead) :
    lead.following = 0 ∧ octet.toNat < 0x80
      ∨ lead.following = 1 ∧ 0xC2 ≤ octet.toNat ∧ octet.toNat < 0xE0
        ∧ lead.low.toNat = 0x80 ∧ lead.high.toNat = 0xBF
      ∨ lead.following = 2 ∧ 0xE0 ≤ octet.toNat ∧ octet.toNat < 0xF0
        ∧ (octet.toNat = 0xE0 ∧ lead.low.toNat = 0xA0
          ∨ octet.toNat ≠ 0xE0 ∧ lead.low.toNat = 0x80)
        ∧ (octet.toNat = 0xED ∧ lead.high.toNat = 0x9F
          ∨ octet.toNat ≠ 0xED ∧ lead.high.toNat = 0xBF)
      ∨ lead.following = 3 ∧ 0xF0 ≤ octet.toNat ∧ octet.toNat ≤ 0xF4
        ∧ (octet.toNat = 0xF0 ∧ lead.low.toNat = 0x90
          ∨ octet.toNat ≠ 0xF0 ∧ lead.low.toNat = 0x80)
        ∧ (octet.toNat = 0xF4 ∧ lead.high.toNat = 0x8F
          ∨ octet.toNat ≠ 0xF4 ∧ lead.high.toNat = 0xBF) := by
  rw [lead?_eq] at asked
  repeat' split at asked
  all_goals cases asked
  all_goals simp
  all_goals omega

theorem eq_ofNat_iff {octet : UInt8} {value : Nat} (small : value < 256) :
    UInt8.ofNat value = octet ↔ value = octet.toNat := by
  rw [← UInt8.toNat_inj, UInt8.toNat_ofNat', Nat.mod_eq_of_lt small]

theorem utf8EncodeChar_assemble_one {octet second : UInt8}
    (lead : 0xC2 ≤ octet.toNat ∧ octet.toNat < 0xE0)
    (follows : 0x80 ≤ second.toNat ∧ second.toNat ≤ 0xBF) :
    String.utf8EncodeChar (assemble octet [second]) = [octet, second] := by
  have point : assemble octet [second] =
      Char.ofNat (octet.toNat % 32 * 64 + second.toNat % 64) := rfl
  have valid : (octet.toNat % 32 * 64 + second.toNat % 64).isValidChar := .inl (by omega)
  rw [point, utf8EncodeChar_of_toNat (toNat_ofNat_of_valid valid), if_neg (by omega),
    if_pos (by omega)]
  simp only [List.cons.injEq, and_true]
  constructor
  all_goals
    rw [eq_ofNat_iff (by omega)]
    omega

theorem utf8EncodeChar_assemble_two {octet second third : UInt8}
    (lead : 0xE0 ≤ octet.toNat ∧ octet.toNat < 0xF0)
    (notLong : octet.toNat = 0xE0 → 0xA0 ≤ second.toNat)
    (notSurrogate : octet.toNat = 0xED → second.toNat ≤ 0x9F)
    (follows : 0x80 ≤ second.toNat ∧ second.toNat ≤ 0xBF)
    (last : 0x80 ≤ third.toNat ∧ third.toNat ≤ 0xBF) :
    String.utf8EncodeChar (assemble octet [second, third]) = [octet, second, third] := by
  have point : assemble octet [second, third] =
      Char.ofNat ((octet.toNat % 16 * 64 + second.toNat % 64) * 64 + third.toNat % 64) := rfl
  have valid :
      ((octet.toNat % 16 * 64 + second.toNat % 64) * 64 + third.toNat % 64).isValidChar := by
    unfold Nat.isValidChar
    omega
  rw [point, utf8EncodeChar_of_toNat (toNat_ofNat_of_valid valid), if_neg (by omega),
    if_neg (by omega), if_pos (by omega)]
  simp only [List.cons.injEq, and_true]
  refine ⟨?_, ?_, ?_⟩
  all_goals
    rw [eq_ofNat_iff (by omega)]
    omega

theorem utf8EncodeChar_assemble_three {octet second third fourth : UInt8}
    (lead : 0xF0 ≤ octet.toNat ∧ octet.toNat ≤ 0xF4)
    (notLong : octet.toNat = 0xF0 → 0x90 ≤ second.toNat)
    (notBeyond : octet.toNat = 0xF4 → second.toNat ≤ 0x8F)
    (follows : 0x80 ≤ second.toNat ∧ second.toNat ≤ 0xBF)
    (next : 0x80 ≤ third.toNat ∧ third.toNat ≤ 0xBF)
    (last : 0x80 ≤ fourth.toNat ∧ fourth.toNat ≤ 0xBF) :
    String.utf8EncodeChar (assemble octet [second, third, fourth]) =
      [octet, second, third, fourth] := by
  have point : assemble octet [second, third, fourth] =
      Char.ofNat (((octet.toNat % 8 * 64 + second.toNat % 64) * 64 + third.toNat % 64) * 64
        + fourth.toNat % 64) := rfl
  have valid :
      (((octet.toNat % 8 * 64 + second.toNat % 64) * 64 + third.toNat % 64) * 64
        + fourth.toNat % 64).isValidChar := by
    unfold Nat.isValidChar
    omega
  rw [point, utf8EncodeChar_of_toNat (toNat_ofNat_of_valid valid), if_neg (by omega),
    if_neg (by omega), if_neg (by omega)]
  simp only [List.cons.injEq, and_true]
  refine ⟨?_, ?_, ?_, ?_⟩
  all_goals
    rw [eq_ofNat_iff (by omega)]
    omega

/-- The character of a sequence has the octets of the sequence. -/
theorem utf8EncodeChar_assemble {octet : UInt8} {lead : Lead} {following : Octets}
    (asked : lead? octet = some lead) (follows : Follows lead following) :
    String.utf8EncodeChar (assemble octet following) = octet :: following := by
  rcases follows with ⟨length, first, others⟩
  simp only [UInt8.le_iff_toNat_le] at first others
  have low : (0x80 : UInt8).toNat = 0x80 := rfl
  have high : (0xBF : UInt8).toNat = 0xBF := rfl
  rcases lead?_eq_some asked with ⟨none, bound⟩ | ⟨one, bound⟩ | ⟨two, bound⟩ | ⟨three, bound⟩
  · rw [none, List.length_eq_zero_iff] at length
    subst length
    have point : assemble octet [] = Char.ofNat octet.toNat := rfl
    have valid : octet.toNat.isValidChar := .inl (by omega)
    rw [point, utf8EncodeChar_of_toNat (toNat_ofNat_of_valid valid), if_pos (by omega)]
    simp
  · rcases List.length_eq_one_iff.mp (length.trans one) with ⟨second, rfl⟩
    have inRange := first second rfl
    apply utf8EncodeChar_assemble_one
    all_goals omega
  · obtain ⟨second, third, rfl⟩ : ∃ second third, following = [second, third] := by
      match following, length.trans two with
      | [second, third], _ => exact ⟨second, third, rfl⟩
    have inRange := first second rfl
    have nextRange := others third (by simp)
    apply utf8EncodeChar_assemble_two
    all_goals omega
  · obtain ⟨second, third, fourth, rfl⟩ : ∃ second third fourth,
        following = [second, third, fourth] := by
      match following, length.trans three with
      | [second, third, fourth], _ => exact ⟨second, third, fourth, rfl⟩
    have inRange := first second rfl
    have nextRange := others third (by simp)
    have lastRange := others fourth (by simp)
    apply utf8EncodeChar_assemble_three
    all_goals omega

theorem isSome_lead? (octet : UInt8)
    (bound : octet.toNat < 0x80 ∨ 0xC2 ≤ octet.toNat ∧ octet.toNat ≤ 0xF4) :
    ∃ lead, lead? octet = some lead := by
  rw [lead?_eq]
  repeat' split
  all_goals first | exact ⟨_, rfl⟩ | omega

/-! ## The octets of one character -/

/-- Some octets are a well-formed sequence for a character. -/
def IsSequence (octet : UInt8) (following : Octets) (character : Char) : Prop :=
  ∃ lead, lead? octet = some lead ∧ Follows lead following
    ∧ assemble octet following = character

theorem isSequence_one {octet : UInt8} {point : Nat} (first : octet.toNat = point)
    (range : point < 0x80) : IsSequence octet [] (Char.ofNat point) := by
  rcases isSome_lead? octet (by omega) with ⟨lead, asked⟩
  have bounds := lead?_eq_some asked
  refine ⟨lead, asked, ⟨?_, by simp, by simp⟩, ?_⟩
  · rw [List.length_nil]
    omega
  · rw [← first]
    rfl

theorem isSequence_two {octet next : UInt8} {point : Nat}
    (first : octet.toNat = point / 64 + 0xC0) (second : next.toNat = point % 64 + 0x80)
    (range : 0x80 ≤ point ∧ point < 0x800) : IsSequence octet [next] (Char.ofNat point) := by
  rcases isSome_lead? octet (by omega) with ⟨lead, asked⟩
  have bounds := lead?_eq_some asked
  refine ⟨lead, asked, ⟨?_, ?_, by simp⟩, ?_⟩
  · rw [List.length_singleton]
    omega
  · simp only [List.head?_cons, Option.mem_def, Option.some.injEq, forall_eq',
      UInt8.le_iff_toNat_le]
    omega
  · have assembled : octet.toNat % 32 * 64 + next.toNat % 64 = point := by omega
    rw [← assembled]
    rfl

theorem isSequence_three {octet next last : UInt8} {point : Nat}
    (first : octet.toNat = point / 4096 + 0xE0) (second : next.toNat = point / 64 % 64 + 0x80)
    (third : last.toNat = point % 64 + 0x80) (range : 0x800 ≤ point ∧ point < 0x10000)
    (valid : point.isValidChar) : IsSequence octet [next, last] (Char.ofNat point) := by
  have low : (0x80 : UInt8).toNat = 0x80 := rfl
  have high : (0xBF : UInt8).toNat = 0xBF := rfl
  rcases isSome_lead? octet (by omega) with ⟨lead, asked⟩
  have bounds := lead?_eq_some asked
  unfold Nat.isValidChar at valid
  refine ⟨lead, asked, ⟨?_, ?_, ?_⟩, ?_⟩
  · simp only [List.length_cons, List.length_nil]
    omega
  · simp only [List.head?_cons, Option.mem_def, Option.some.injEq, forall_eq',
      UInt8.le_iff_toNat_le]
    omega
  · simp only [List.tail_cons, List.mem_singleton, forall_eq, UInt8.le_iff_toNat_le, low, high]
    omega
  · have assembled :
        (octet.toNat % 16 * 64 + next.toNat % 64) * 64 + last.toNat % 64 = point := by omega
    rw [← assembled]
    rfl

theorem isSequence_four {octet next following last : UInt8} {point : Nat}
    (first : octet.toNat = point / 262144 + 0xF0)
    (second : next.toNat = point / 4096 % 64 + 0x80)
    (third : following.toNat = point / 64 % 64 + 0x80) (fourth : last.toNat = point % 64 + 0x80)
    (range : 0x10000 ≤ point ∧ point < 0x110000) :
    IsSequence octet [next, following, last] (Char.ofNat point) := by
  have low : (0x80 : UInt8).toNat = 0x80 := rfl
  have high : (0xBF : UInt8).toNat = 0xBF := rfl
  rcases isSome_lead? octet (by omega) with ⟨lead, asked⟩
  have bounds := lead?_eq_some asked
  refine ⟨lead, asked, ⟨?_, ?_, ?_⟩, ?_⟩
  · simp only [List.length_cons, List.length_nil]
    omega
  · simp only [List.head?_cons, Option.mem_def, Option.some.injEq, forall_eq',
      UInt8.le_iff_toNat_le]
    omega
  · simp only [List.tail_cons, List.forall_mem_cons, List.not_mem_nil, false_implies,
      implies_true, and_true, UInt8.le_iff_toNat_le, low, high]
    omega
  · have assembled :
        ((octet.toNat % 8 * 64 + next.toNat % 64) * 64 + following.toNat % 64) * 64
          + last.toNat % 64 = point := by omega
    rw [← assembled]
    rfl

/-- Every character is assembled from its own octets. -/
theorem exists_isSequence (character : Char) :
    ∃ octet following, String.utf8EncodeChar character = octet :: following
      ∧ IsSequence octet following character := by
  have valid : character.toNat.isValidChar := character.valid
  have limit : character.toNat < 0x110000 := by
    unfold Nat.isValidChar at valid
    omega
  have shown := Char.ofNat_toNat character
  generalize same : character.toNat = point at valid limit shown
  rw [utf8EncodeChar_of_toNat same, ← shown]
  split
  · refine ⟨_, _, rfl, isSequence_one ?_ (by omega)⟩
    rw [UInt8.toNat_ofNat']
    omega
  · split
    · refine ⟨_, _, rfl, isSequence_two ?_ ?_ (by omega)⟩
      all_goals
        rw [UInt8.toNat_ofNat']
        omega
    · split
      · refine ⟨_, _, rfl, isSequence_three ?_ ?_ ?_ (by omega) valid⟩
        all_goals
          rw [UInt8.toNat_ofNat']
          omega
      · refine ⟨_, _, rfl, isSequence_four ?_ ?_ ?_ ?_ (by omega)⟩
        all_goals
          rw [UInt8.toNat_ofNat']
          omega

/-! ## All pieces -/

/-- The octets of a piece. -/
def Piece.octets : Piece → Octets
  | .character value => String.utf8EncodeChar value
  | .broken octets => octets

/-- The piece at the front holds the octets that are taken for it. -/
theorem octets_front (octet : UInt8) (rest : Octets) :
    (front octet rest).1.octets = octet :: rest.take (front octet rest).2 := by
  unfold front
  split
  · simp [Piece.octets]
  · rename_i lead asked
    dsimp only
    split
    · rename_i complete
      rw [Piece.octets, continuation_prefix,
        utf8EncodeChar_assemble asked (follows_continuation complete)]
    · rw [Piece.octets, continuation_prefix]

/-- No octet is lost between the pieces. -/
theorem flatMap_pieces (octets : Octets) : (pieces octets).flatMap Piece.octets = octets := by
  fun_induction pieces octets with
  | case1 => rfl
  | case2 octet rest piece step =>
      rw [List.flatMap_cons, step, octets_front, List.cons_append, List.take_append_drop]

/-- A sequence in front is taken as its character, whatever comes after it. -/
theorem front_of_isSequence {octet : UInt8} {following : Octets} {character : Char}
    (sequence : IsSequence octet following character) (rest : Octets) :
    front octet (following ++ rest) = (.character character, following.length) := by
  rcases sequence with ⟨lead, asked, follows, assembled⟩
  rw [front, asked]
  dsimp only
  rw [continuation_append follows.length follows.first follows.others, if_pos follows.length,
    assembled]

/-- A text is cut into its characters. -/
theorem pieces_encode (text : Text) : pieces (encode text) = text.map .character := by
  induction text with
  | nil =>
      rw [encode, List.flatMap_nil, pieces, List.map_nil]
  | cons character rest step =>
      rcases exists_isSequence character with ⟨octet, following, written, sequence⟩
      rw [encode, List.flatMap_cons, written, List.cons_append, pieces,
        front_of_isSequence sequence, List.drop_left, ← encode, step, List.map_cons]

theorem decodeLossy_encode (text : Text) : decodeLossy (encode text) = text := by
  simp [decodeLossy, pieces_encode, Function.comp_def]

theorem decode?_encode (text : Text) : decode? (encode text) = some text := by
  rw [decode?, pieces_encode]
  induction text with
  | nil => rfl
  | cons character rest step =>
      rw [List.map_cons, List.mapM_cons, step]
      rfl

theorem length_encode (text : Text) : (encode text).length = Text.octetSize text := by
  induction text with
  | nil => rfl
  | cons character rest step =>
      rw [encode, List.flatMap_cons, List.length_append, String.length_utf8EncodeChar, ← encode,
        step, Text.octetSize]

end ZoneServices.Utf8
