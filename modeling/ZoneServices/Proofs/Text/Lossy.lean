import ZoneServices.Proofs.Text.Octets

/-!
# What a lossy reading keeps

A lossy reading puts a character of three octets in the place of every broken piece, and a broken
piece has three octets at the most.  So the octets of the text that is read are never fewer than
those it was read from.  This holds for each of some lists of octets alone, and therefore the texts
of all have the same octets as the lists only if each list is well-formed by itself: what is lost in
one cannot be made up for in the next.
-/

namespace ZoneServices.Utf8

/-! ## Sizes -/

theorem following_le_of_lead? {octet : UInt8} {lead : Lead} (asked : lead? octet = some lead) :
    lead.following ≤ 3 := by
  unfold lead? at asked
  repeat' split at asked
  all_goals cases asked
  all_goals decide

theorem length_continuation_le (count : Nat) (low high : UInt8) (octets : Octets) :
    (continuation count low high octets).length ≤ count := by
  fun_induction continuation count low high octets with
  | case1 => exact Nat.le_refl 0
  | case2 => exact Nat.zero_le _
  | case3 count low high octet rest inRange step => exact Nat.succ_le_succ step
  | case4 => exact Nat.zero_le _

/-- The character that a piece is read as. -/
def Piece.shown : Piece → Char
  | .character value => value
  | .broken _ => '\uFFFD'

theorem length_octets_front_le (octet : UInt8) (rest : Octets) :
    (front octet rest).1.octets.length ≤
      (String.utf8EncodeChar (front octet rest).1.shown).length := by
  have three : (String.utf8EncodeChar '\uFFFD').length = 3 := by decide
  unfold front
  split
  · exact Nat.le_trans (by decide : 1 ≤ 3) (Nat.le_of_eq three.symm)
  · rename_i lead asked
    have most := following_le_of_lead? asked
    have taken := length_continuation_le lead.following lead.low lead.high rest
    dsimp only
    split
    · exact Nat.le_refl _
    · rename_i unfinished
      rw [Piece.shown, three, Piece.octets, List.length_cons]
      omega

/-- A lossy reading has no fewer octets than what it is read from. -/
theorem length_le_length_encode_decodeLossy (octets : Octets) :
    octets.length ≤ (encode (decodeLossy octets)).length := by
  fun_induction pieces octets with
  | case1 => exact Nat.zero_le _
  | case2 octet rest piece step =>
      have read : decodeLossy (octet :: rest) =
          (front octet rest).1.shown :: decodeLossy (rest.drop (front octet rest).2) := by
        rw [decodeLossy, pieces, List.map_cons]
        rfl
      have cut := congrArg List.length (octets_front octet rest)
      have first := length_octets_front_le octet rest
      have whole := congrArg List.length (List.take_append_drop (front octet rest).2 rest)
      rw [read, encode, List.flatMap_cons, List.length_append, ← encode]
      rw [List.length_cons] at cut ⊢
      rw [List.length_append] at whole
      have behind : (rest.drop (front octet rest).2).length ≤
          (encode (decodeLossy (rest.drop (front octet rest).2))).length := step
      omega

/-! ## Well-formed octets -/

theorem eq_encode_of_decode? {octets : Octets} {text : Text} (read : decode? octets = some text) :
    octets = encode text := by
  have cut : pieces octets = text.map .character := by
    rw [decode?] at read
    generalize pieces octets = found at read ⊢
    induction found generalizing text with
    | nil =>
        cases read
        rfl
    | cons piece rest step =>
        rw [List.mapM_cons] at read
        rcases Option.bind_eq_some_iff.mp read with ⟨character, first, read⟩
        rcases Option.bind_eq_some_iff.mp read with ⟨others, behind, read⟩
        cases read
        rw [step behind, List.map_cons]
        cases piece with
        | character value =>
            cases first
            rfl
        | broken octets => cases first
  rw [← flatMap_pieces octets, cut, List.flatMap_map]
  rfl

/-- Octets are kept by a lossy reading exactly if they are well-formed. -/
theorem encode_decodeLossy_eq_iff {octets : Octets} :
    encode (decodeLossy octets) = octets ↔ (decode? octets).isSome = true := by
  constructor
  · intro same
    rw [← same, decode?_encode]
    rfl
  · intro read
    rcases Option.isSome_iff_exists.mp read with ⟨text, found⟩
    rw [eq_encode_of_decode? found, decodeLossy_encode]

section

variable {Value : Type} {change : List Value → List Value}
  (longer : ∀ list, list.length ≤ (change list).length)

include longer

theorem length_flatten_le (lists : List (List Value)) :
    lists.flatten.length ≤ (lists.map change).flatten.length := by
  induction lists with
  | nil => exact Nat.le_refl 0
  | cons first rest step =>
      rw [List.map_cons, List.flatten_cons, List.flatten_cons, List.length_append,
        List.length_append]
      exact Nat.add_le_add (longer first) step

/-- If none of some lists becomes shorter and together they stay the same, each does. -/
theorem eq_of_flatten_map_eq {lists : List (List Value)}
    (same : (lists.map change).flatten = lists.flatten) : ∀ list ∈ lists, change list = list := by
  induction lists with
  | nil => exact fun list member => absurd member List.not_mem_nil
  | cons first rest step =>
      rw [List.map_cons, List.flatten_cons, List.flatten_cons] at same
      have sizes := congrArg List.length same
      rw [List.length_append, List.length_append] at sizes
      have front := longer first
      have behind := length_flatten_le longer rest
      rcases List.append_inj same (by omega) with ⟨kept, others⟩
      exact List.forall_mem_cons.mpr ⟨kept, step others⟩

end

theorem encode_flatten (texts : List Text) : encode texts.flatten = (texts.map encode).flatten := by
  induction texts with
  | nil => rfl
  | cons first rest step =>
      rw [List.flatten_cons, List.map_cons, List.flatten_cons, ← step]
      exact List.flatMap_append

/-- The texts of some lists of octets have the octets of the lists if each list is well-formed. -/
theorem flatten_encode_decodeLossy_eq_iff {lists : List Octets} :
    (lists.map fun octets => encode (decodeLossy octets)).flatten = lists.flatten ↔
      ∀ octets ∈ lists, (decode? octets).isSome = true := by
  constructor
  · intro same octets member
    exact encode_decodeLossy_eq_iff.mp
      (eq_of_flatten_map_eq length_le_length_encode_decodeLossy same octets member)
  · intro wellFormed
    rw [List.map_congr_left fun octets member =>
      encode_decodeLossy_eq_iff.mpr (wellFormed octets member), List.map_id']

end ZoneServices.Utf8
