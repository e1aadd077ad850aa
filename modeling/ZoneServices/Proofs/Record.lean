import ZoneServices.Proofs.Name.Owner
import ZoneServices.Proofs.Payload
import ZoneServices.Proofs.RecordType
import ZoneServices.Record.Reader

/-!
# Records that were read

The canonical text of a record that was read reads back as that record.  The one exception is the
type of number zero, which is read by its number only but shown by a mnemonic.

What was read can be told from the record itself (`Record.IsRead`), and it stays so when the letter
case of the owner or the time to live changes.
-/

namespace ZoneServices

open Text

namespace Record

/-! ## Words of a line -/

theorem exists_of_bind_eq_ok {Fault Value Result : Type} {first : Except Fault Value}
    {next : Value → Except Fault Result} {result : Result} (done : first >>= next = .ok result) :
    ∃ value, first = .ok value ∧ next value = .ok result := by
  cases first with
  | error fault => cases done
  | ok value => exact ⟨value, rfl, done⟩

theorem requireWord_eq_ok_iff {line text : Text} {field : RecordField} {found : Text × Text} :
    requireWord line field text = .ok found ↔ nextWord? text = some found := by
  rw [requireWord]
  cases nextWord? text with
  | none => exact iff_of_false (fun read => nomatch read) (fun read => nomatch read)
  | some other => simp

/-- The word for the type is the next word that is not the class, which may stand before it once. -/
inductive IsTypeWord (text word rest : Text) : Prop
  | plain (notClass : sameFolded word className = false)
      (found : nextWord? text = some (word, rest))
  | classed {named following : Text} (isClass : sameFolded named className = true)
      (first : nextWord? text = some (named, following))
      (found : nextWord? following = some (word, rest))

/-- What the words of a line are. -/
theorem Line.read_eq_ok_iff {text : Text} {words : Line} :
    Line.read text = .ok words ↔
      ∃ behindOwner behindTtl behindType, nextWord? text = some (words.owner, behindOwner)
        ∧ nextWord? behindOwner = some (words.ttl, behindTtl)
        ∧ IsTypeWord behindTtl words.type behindType ∧ trim behindType = words.payload := by
  rw [Line.read]
  constructor
  · intro read
    split at read
    · rename_i found owner
      rcases exists_of_bind_eq_ok read with ⟨_, same, read⟩
      cases same
      rcases exists_of_bind_eq_ok read with ⟨second, ttl, read⟩
      rcases exists_of_bind_eq_ok read with ⟨third, next, read⟩
      rw [requireWord_eq_ok_iff] at ttl next
      dsimp only at read
      split at read
      · rename_i isClass
        rcases exists_of_bind_eq_ok read with ⟨fourth, type, read⟩
        rw [requireWord_eq_ok_iff] at type
        cases read
        exact ⟨_, _, _, owner, ttl, .classed isClass next type, rfl⟩
      · rename_i notClass
        cases read
        exact ⟨_, _, _, owner, ttl, .plain (Bool.eq_false_iff.mpr notClass) next, rfl⟩
    · cases read
  · rintro ⟨behindOwner, behindTtl, behindType, owner, ttl, type, payload⟩
    have second : requireWord text .ttl behindOwner = .ok (words.ttl, behindTtl) :=
      requireWord_eq_ok_iff.mpr ttl
    rw [owner]
    simp only [bind, Except.bind, second]
    cases type with
    | plain notClass found =>
        have third : requireWord text .type behindTtl = .ok (words.type, behindType) :=
          requireWord_eq_ok_iff.mpr found
        simp only [third, notClass, Bool.false_eq_true, if_false, payload]
        rfl
    | classed isClass first found =>
        rename_i named following
        have third : requireWord text .type behindTtl = .ok (named, following) :=
          requireWord_eq_ok_iff.mpr first
        have fourth : requireWord text .type following = .ok (words.type, behindType) :=
          requireWord_eq_ok_iff.mpr found
        simp only [third, isClass, if_true, fourth, payload]
        rfl

/-! ## Lines -/

/-- The line of an owner, a time to live, the word for a type and a payload. -/
def line (owner : Text) (ttl : UInt32) (word payload : Text) : Text :=
  owner ++ ' ' :: Numeral.decimal ttl.toNat ++ ' ' :: className ++ ' ' :: word ++ ' ' :: payload

theorem nextWord?_space {word : Text} (solid : IsSolid word) (nonempty : word ≠ [])
    (rest : Text) :
    nextWord? (' ' :: (word ++ ' ' :: rest)) = some (word, ' ' :: rest) := by
  rw [nextWord?_of_isBlank (by decide), nextWord?_append solid nonempty (by decide)]

theorem trim_space {payload : Text} (trimmed : IsTrimmed payload) :
    trim (' ' :: payload) = payload :=
  trim_of_isTrimmed trimmed

/-- The words of a canonical line are its parts. -/
theorem read_words {owner word payload : Text} (ownerSolid : IsSolid owner) (named : owner ≠ [])
    (wordSolid : IsSolid word) (typed : word ≠ []) (trimmed : IsTrimmed payload) (ttl : UInt32) :
    Line.read (line owner ttl word payload) =
      .ok ⟨owner, Numeral.decimal ttl.toNat, word, payload⟩ := by
  have classSolid : IsSolid className := isSolid_iff_all.mpr (by decide)
  have blank : isBlank ' ' = true := by decide
  have first := nextWord?_append ownerSolid named blank
    (Numeral.decimal ttl.toNat ++ ' ' :: (className ++ ' ' :: (word ++ ' ' :: payload)))
  have second := nextWord?_space (Numeral.isSolid_decimal ttl.toNat)
    (Numeral.decimal_ne_nil ttl.toNat) (className ++ ' ' :: (word ++ ' ' :: payload))
  have third := nextWord?_space classSolid (by decide) (word ++ ' ' :: payload)
  have fourth := nextWord?_space wordSolid typed payload
  have shape : line owner ttl word payload =
      owner ++ ' ' :: (Numeral.decimal ttl.toNat
        ++ ' ' :: (className ++ ' ' :: (word ++ ' ' :: payload))) := by
    simp [line]
  have isClass : sameFolded className className = true := by decide
  rw [shape]
  exact Line.read_eq_ok_iff.mpr
    ⟨_, _, _, first, second, .classed isClass third fourth, trim_space trimmed⟩

/-- What is known of a record that was read. -/
structure IsRead (record : Record) : Prop where
  owner : checkOwner record.owner = .ok ()
  solid : IsSolid record.owner
  named : record.owner ≠ []
  trimmed : IsTrimmed record.payload
  nonempty : record.payload ≠ []
  canonical : Payload.normalize record.type record.payload = .ok record.payload

/-- The owner among the words of a line is a word, and the payload has no blanks around it. -/
theorem solid_of_readWords {text : Text} {words : Line} (read : Line.read text = .ok words) :
    IsSolid words.owner ∧ words.owner ≠ [] ∧ IsTrimmed words.payload := by
  rcases Line.read_eq_ok_iff.mp read with ⟨_, _, behindType, owner, _, _, payload⟩
  rcases isSolid_of_nextWord? owner with ⟨solid, nonempty⟩
  rw [← payload]
  exact ⟨solid, nonempty, isTrimmed_trim behindType⟩

/-- A line is read if its words are, and tells what they tell. -/
theorem read_eq_ok_iff {text : Text} {record : Record} :
    Record.read text = .ok record ↔
      ∃ words, Line.read text = .ok words ∧ words.owner = record.owner
        ∧ Numeral.word32? words.ttl = some record.ttl
        ∧ RecordType.read? words.type = some record.type ∧ checkOwner words.owner = .ok ()
        ∧ words.payload ≠ []
        ∧ Payload.normalize record.type words.payload = .ok record.payload := by
  rw [Record.read]
  constructor
  · intro read
    rcases exists_of_bind_eq_ok read with ⟨words, cut, read⟩
    dsimp only at read
    split at read
    · rename_i ttl counted
      rcases exists_of_bind_eq_ok read with ⟨_, same, read⟩
      cases same
      split at read
      · rename_i type known
        rcases exists_of_bind_eq_ok read with ⟨_, same, read⟩
        cases same
        rcases exists_of_bind_eq_ok read with ⟨_, owner, read⟩
        split at read
        · cases read
        · rename_i some
          split at read
          · rename_i payload normalized
            cases read
            exact ⟨words, cut, rfl, counted, known, owner, by simpa using some, normalized⟩
          · cases read
      · cases read
    · cases read
  · rintro ⟨words, cut, named, counted, known, owner, some, normalized⟩
    have filled : words.payload.isEmpty = false := by simpa using some
    rw [named] at owner
    rw [cut]
    simp only [bind, Except.bind, counted, known, named, owner, filled, normalized]
    rfl

/-- What was read has all that the reader asks for. -/
theorem isRead_of_read {text : Text} {record : Record} (read : Record.read text = .ok record) :
    IsRead record := by
  rcases read_eq_ok_iff.mp read with ⟨words, cut, named, _, _, owner, some, normalized⟩
  rcases solid_of_readWords cut with ⟨solid, nonempty, trimmed⟩
  rw [named] at owner solid nonempty
  rcases Payload.isTrimmed_normalize trimmed some normalized with ⟨canonicalTrimmed, filled⟩
  exact ⟨owner, solid, nonempty, canonicalTrimmed, filled, Payload.normalize_idempotent normalized⟩

/-- A record is read from each line that names its type in a way that is known. -/
theorem read_line {record : Record} (isRead : IsRead record) {word : Text} (solid : IsSolid word)
    (typed : word ≠ []) (known : RecordType.read? word = some record.type) :
    Record.read (line record.owner record.ttl word record.payload) = .ok record := by
  have words := read_words isRead.solid isRead.named solid typed isRead.trimmed record.ttl
  exact read_eq_ok_iff.mpr ⟨_, words, rfl, Numeral.word32?_decimal _, known, isRead.owner,
    isRead.nonempty, isRead.canonical⟩

theorem form_ne_nothing {record : Record} (isRead : IsRead record) :
    record.type.form ≠ .nothing :=
  Payload.form_ne_nothing isRead.canonical

/-- The canonical text of a record that was read is read as the same record. -/
theorem read_write {record : Record} (isRead : IsRead record) (other : record.type ≠ .zero) :
    Record.read record.write = .ok record :=
  read_line isRead (RecordType.isSolid_write _) (RecordType.write_ne_nil _)
    (RecordType.read?_write (form_ne_nothing isRead) other)

/-- The canonical text of a record of type zero is not read, because of its type. -/
theorem read_write_zero {record : Record} (isRead : IsRead record) (zero : record.type = .zero) :
    Record.read record.write =
      .error (.unknownType (trim record.write) "ZERO".toList) := by
  have word : record.type.write = "ZERO".toList := by
    rw [zero]
    decide
  have words := read_words isRead.solid isRead.named (RecordType.isSolid_write record.type)
    (RecordType.write_ne_nil _) isRead.trimmed record.ttl
  have unknown : RecordType.read? "ZERO".toList = none := by decide +kernel
  have shape : record.write =
      line record.owner record.ttl record.type.write record.payload := rfl
  rw [Record.read, shape, words, word]
  simp only [bind, Except.bind, Numeral.word32?_decimal, unknown]

/-- Being readable does not depend on the letter case of the owner, nor on the time to live. -/
theorem isRead_of_fold_eq {record : Record} (isRead : IsRead record) {owner : Text}
    (same : fold record.owner = fold owner) (ttl : UInt32) :
    IsRead { record with owner := owner, ttl := ttl } where
  owner := checkOwner_of_fold_eq same isRead.owner
  solid := isSolid_of_fold_eq same isRead.solid
  named := by
    rintro none
    dsimp only at none
    rw [none, fold_nil, fold_eq_nil_iff] at same
    exact isRead.named same
  trimmed := isRead.trimmed
  nonempty := isRead.nonempty
  canonical := isRead.canonical

end Record

end ZoneServices
