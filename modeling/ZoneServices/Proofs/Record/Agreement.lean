import ZoneServices.Proofs.Name.Escape
import ZoneServices.Proofs.Record.Canonical
import ZoneServices.Proofs.Record.Making

/-!
# Validation and reading

A record is valid if its payload is one of its type, and its canonical text is read by the same
rule.  So a record that is made for an owner that can be read should be valid exactly if its text is
a record, and then that record.

There are two ways out.  Validation asks of an empty payload what it asks of others, and the strings
of a text as well as what the signing of a zone carries may be none; no line does without a payload.
And the type of number zero has a word that is shown but not read.  Else the two agree.
-/

namespace ZoneServices

open Text

namespace Record

/-! ## Texts of made records -/

/-- What is known of a record that was made for an owner that can be read. -/
structure IsSettled (record : Record) : Prop where
  owner : checkOwner record.owner = .ok ()
  trimmed : IsTrimmed record.payload
  settled : ∀ canonical, Payload.normalize record.type record.payload = .ok canonical →
    canonical = record.payload

variable {name origin payload : Text} {type : RecordType} {record : Record}

/-- A made record with an accepted owner is settled. -/
theorem isSettled_make (accepted : checkOwner (Owner.resolve name origin) = .ok ()) (ttl : UInt32) :
    IsSettled (make name type ttl origin payload) where
  owner := accepted
  trimmed := (isTrimmed_settledPayload (isTrimmed_trim payload)).1
  settled := by
    intro canonical again
    rcases exists_normalize_settledPayload_iff.mp ⟨canonical, again⟩ with ⟨first, normalized⟩
    have kept : settledPayload type (trim payload) = first :=
      settledPayload_of_normalize normalized
    rw [make, kept] at again ⊢
    exact Except.ok.inj (again.symm.trans (Payload.normalize_idempotent normalized))

theorem ne_nil_of_checkOwner (accepted : checkOwner name = .ok ()) : name ≠ [] := by
  rintro rfl
  exact absurd accepted (by decide)

/-- The words that the text of a settled record is cut into. -/
theorem IsSettled.words_write (isSettled : IsSettled record) :
    Line.read record.write =
      .ok ⟨record.owner, Numeral.decimal record.ttl.toNat, record.type.write, record.payload⟩ :=
  read_words (isOwnerText_of_checkOwner isSettled.owner).solid
    (ne_nil_of_checkOwner isSettled.owner) (RecordType.isSolid_write _)
    (RecordType.write_ne_nil _) isSettled.trimmed record.ttl

/-- What the text of a settled record is read as. -/
theorem IsSettled.read_write_eq_ok_iff (isSettled : IsSettled record) {other : Record} :
    Record.read record.write = .ok other ↔
      other = record ∧ record.validate = .ok () ∧ record.payload ≠ [] ∧ record.type ≠ .zero := by
  rw [validate_eq_ok_iff]
  constructor
  · intro read
    rcases read_eq_ok_iff.mp read with ⟨words, cut, owner, ttl, type, _, filled, normalized⟩
    rw [isSettled.words_write] at cut
    cases cut
    have notZero : record.type ≠ .zero := by
      intro zero
      rw [zero, RecordType.read?_write_zero] at type
      cases type
    have sameType := RecordType.eq_of_read?_write type
    have sameTtl : record.ttl = other.ttl :=
      Option.some.inj ((Numeral.word32?_decimal _).symm.trans ttl)
    rw [sameType] at normalized
    have samePayload := isSettled.settled _ normalized
    refine ⟨?_, ⟨_, normalized⟩, filled, notZero⟩
    cases other
    dsimp only at owner sameType sameTtl samePayload
    rw [← owner, sameType, ← sameTtl, samePayload]
  · rintro ⟨rfl, ⟨canonical, normalized⟩, filled, notZero⟩
    have same := isSettled.settled canonical normalized
    rw [same] at normalized
    exact read_eq_ok_iff.mpr ⟨_, isSettled.words_write, rfl, Numeral.word32?_decimal _,
      RecordType.read?_write (Payload.form_ne_nothing normalized) notZero, isSettled.owner, filled,
      normalized⟩

/-! ## Agreement -/

/-- Validation and the reader of its text agree about a record. -/
structure Agrees (record : Record) : Prop where
  valid_iff : record.validate = .ok () ↔ ∃ other, Record.read record.write = .ok other
  same : ∀ other, Record.read record.write = .ok other → other = record

/-- A payload that is valid for a type although the text of a record with it is not read. -/
inductive IsUnreadable (type : RecordType) (payload : Text) : Prop
  | blank (empty : trim payload = []) (free : type = .txt ∨ type.isSigning = true)
  | zero (isZero : type = .zero) (cut : (Payload.tokens? (trim payload)).isSome = true)

/-- The type zero takes every payload that is cut into tokens. -/
theorem exists_normalize_zero_iff :
    (∃ canonical, Payload.normalize .zero payload = .ok canonical) ↔
      (Payload.tokens? payload).isSome = true := by
  have form : RecordType.zero.form = .anything := by decide
  rw [Payload.normalize, form, Option.isSome_iff_exists]
  dsimp only
  rw [Payload.exists_keepTokens_iff]
  exact exists_congr fun _ => and_iff_left rfl

/-- A made record is valid exactly if its payload, blanks around it aside, is one of its type. -/
theorem validate_make_iff {ttl : UInt32} :
    (make name type ttl origin payload).validate = .ok () ↔
      ∃ canonical, Payload.normalize type (trim payload) = .ok canonical := by
  rw [validate_eq_ok_iff]
  exact exists_normalize_settledPayload_iff

/-- These are the valid payloads that are empty or of the type that is not read. -/
theorem isUnreadable_iff (name origin : Text) (ttl : UInt32) :
    IsUnreadable type payload ↔
      (make name type ttl origin payload).validate = .ok ()
        ∧ ((make name type ttl origin payload).payload = [] ∨ type = .zero) := by
  have made : (make name type ttl origin payload).payload = [] ↔ trim payload = [] :=
    (isTrimmed_settledPayload (isTrimmed_trim payload)).2
  rw [validate_make_iff, made]
  constructor
  · intro isUnreadable
    cases isUnreadable with
    | blank empty free =>
        have accepted : type = .txt ∨ type.isSigning = true ∨ type = .zero :=
          free.imp_right Or.inl
        rw [empty]
        exact ⟨⟨[], Payload.normalize_nil_eq_ok_iff.mpr ⟨accepted, rfl⟩⟩, .inl rfl⟩
    | zero isZero cut =>
        subst isZero
        exact ⟨exists_normalize_zero_iff.mpr cut, .inr rfl⟩
  · rintro ⟨⟨canonical, normalized⟩, without⟩
    by_cases zero : type = .zero
    · subst zero
      exact .zero rfl (exists_normalize_zero_iff.mp ⟨canonical, normalized⟩)
    · have empty := without.resolve_right zero
      rw [empty] at normalized
      rcases (Payload.normalize_nil_eq_ok_iff.mp normalized).1 with text | signing | isZero
      · exact .blank empty (.inl text)
      · exact .blank empty (.inr signing)
      · exact absurd isZero zero

/--
Validation and the reader agree about a record that was made for an owner that can be read, unless
its payload is an unreadable one; the record is valid then although its text is none.  What the text
of a made record is read as is always that record, and the record is valid.
-/
theorem agrees_make_iff (accepted : checkOwner (Owner.resolve name origin) = .ok ())
    (type : RecordType) (ttl : UInt32) (payload : Text) :
    (Agrees (make name type ttl origin payload) ↔ ¬ IsUnreadable type payload)
      ∧ (IsUnreadable type payload → (make name type ttl origin payload).validate = .ok ())
      ∧ ∀ other, Record.read (make name type ttl origin payload).write = .ok other →
        other = make name type ttl origin payload
          ∧ (make name type ttl origin payload).validate = .ok () := by
  have isSettled : IsSettled (make name type ttl origin payload) := isSettled_make accepted ttl
  rw [isUnreadable_iff name origin ttl]
  refine ⟨⟨?_, ?_⟩, And.left, ?_⟩
  · rintro agrees ⟨valid, without⟩
    rcases agrees.valid_iff.mp valid with ⟨other, read⟩
    rcases isSettled.read_write_eq_ok_iff.mp read with ⟨_, _, filled, notZero⟩
    exact without.elim filled notZero
  · intro readable
    rw [not_and, not_or] at readable
    constructor
    · constructor
      · intro valid
        exact ⟨_, isSettled.read_write_eq_ok_iff.mpr ⟨rfl, valid, readable valid⟩⟩
      · rintro ⟨other, read⟩
        exact (isSettled.read_write_eq_ok_iff.mp read).2.1
    · intro other read
      exact (isSettled.read_write_eq_ok_iff.mp read).1
  · intro other read
    rcases isSettled.read_write_eq_ok_iff.mp read with ⟨same, valid, _⟩
    exact ⟨same, valid⟩

theorem agrees_of_loose_generic :
    checkOwner (Owner.resolve "www".toList "example.com.".toList) = .ok ()
      ∧ Agrees (make "www".toList ⟨99⟩ 300 "example.com.".toList " \\#\t2  0A 1b ".toList) := by
  have accepted : checkOwner (Owner.resolve "www".toList "example.com.".toList) = .ok () := by
    decide +kernel
  refine ⟨accepted, (agrees_make_iff accepted _ _ _).1.mpr ?_⟩
  rintro (⟨empty, _⟩ | ⟨isZero, _⟩)
  · exact absurd empty (by decide)
  · exact absurd isZero (by decide)

/-- A text record without any string. -/
def stringlessRecord : Record :=
  make "www".toList .txt 300 "example.com.".toList []

/-- A record may be valid although its text lacks a payload to the reader. -/
theorem not_agrees_of_stringlessRecord :
    checkOwner stringlessRecord.owner = .ok () ∧ stringlessRecord.validate = .ok ()
      ∧ Record.read stringlessRecord.write =
        .error (.missingField "www.example.com. 300 IN TXT".toList .payload)
      ∧ ¬ Agrees stringlessRecord := by
  have valid : stringlessRecord.validate = .ok () := by decide +kernel
  have refused : Record.read stringlessRecord.write =
      .error (.missingField "www.example.com. 300 IN TXT".toList .payload) := by
    decide +kernel
  refine ⟨by decide +kernel, valid, refused, ?_⟩
  intro agrees
  rcases agrees.valid_iff.mp valid with ⟨other, read⟩
  rw [refused] at read
  cases read

end Record

end ZoneServices
