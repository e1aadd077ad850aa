import ZoneServices.Proofs.Record

/-!
# Canonical texts of records

The canonical text of a record that was read tells the record from all others that can be read: the
text falls into the same words again, and the words tell owner, time to live, type and payload.
What identifies a service, the digest of this text, is therefore made of all that the record holds.

The text also reads back as the record, unless its type is the one of number zero.  The word for
that type is shown but not known to the reader.
-/

namespace ZoneServices

open Text

namespace Record

variable {record other : Record}

/-- The words that the canonical text of a record is cut into. -/
theorem IsRead.words_write (isRead : IsRead record) :
    Line.read record.write =
      .ok ⟨record.owner, Numeral.decimal record.ttl.toNat, record.type.write, record.payload⟩ :=
  read_words isRead.solid isRead.named (RecordType.isSolid_write _) (RecordType.write_ne_nil _)
    isRead.trimmed record.ttl

/-- Records that can be read have canonical texts of their own. -/
theorem eq_of_write_eq (isRead : IsRead record) (otherIsRead : IsRead other)
    (same : record.write = other.write) : record = other := by
  have words := isRead.words_write
  rw [same, otherIsRead.words_write] at words
  simp only [Except.ok.injEq, Line.mk.injEq] at words
  rcases words with ⟨owner, ttl, type, payload⟩
  have sameTtl : some other.ttl = some record.ttl := by
    rw [← Numeral.word32?_decimal, ttl, Numeral.word32?_decimal]
  have sameType : other.type = record.type :=
    RecordType.eq_of_write_eq (form_ne_nothing otherIsRead) (form_ne_nothing isRead) type
  cases record
  cases other
  simp only [Option.some.injEq] at sameTtl
  simp only [mk.injEq]
  exact ⟨owner.symm, sameType.symm, sameTtl.symm, payload.symm⟩

/--
The canonical text of a record that was read is read as that record exactly if its type is not that
of number zero, and it is not the text of any other record that can be read.
-/
theorem read_write_iff {text : Text} (read : Record.read text = .ok record) :
    (Record.read record.write = .ok record ↔ record.type ≠ .zero)
      ∧ ∀ {otherText : Text} {other : Record}, Record.read otherText = .ok other →
        other.write = record.write → other = record := by
  have isRead := isRead_of_read read
  constructor
  · constructor
    · intro again zero
      rw [read_write_zero isRead zero] at again
      cases again
    · exact read_write isRead
  · intro otherText other otherRead same
    exact eq_of_write_eq (isRead_of_read otherRead) isRead same

/-- A line with more blanks than it needs, a signed number and a generic word for its type. -/
def looseLine : Text :=
  "  A.\\.example.com.\t+0300 in  Type16\u00a0a\\065   \"b c\t\" ".toList

/-- A text with capital letters in its owner and a blank that only an escape can give. -/
def looseRecord : Record :=
  ⟨"A.\\.example.com.".toList, .txt, 300, "\"aA\" \"b c\\009\"".toList⟩

theorem read_write_of_looseRecord :
    Record.read looseLine = .ok looseRecord ∧ Record.read looseRecord.write = .ok looseRecord
      ∧ ∀ {text : Text} {other : Record}, Record.read text = .ok other →
        other.write = looseRecord.write → other = looseRecord := by
  have read : Record.read looseLine = .ok looseRecord := by decide +kernel
  rcases read_write_iff read with ⟨again, told⟩
  exact ⟨read, again.mpr (by decide), told⟩

/-- A record of the type of number zero, whose payload may be anything. -/
def zeroRecord : Record :=
  ⟨"example.com.".toList, .zero, 300, "x".toList⟩

/-- Not every record that was read is read again from its canonical text. -/
theorem not_read_write_of_zeroRecord :
    Record.read "example.com. 300 IN TYPE0 x".toList = .ok zeroRecord
      ∧ zeroRecord.write = "example.com. 300 IN ZERO x".toList
      ∧ Record.read zeroRecord.write ≠ .ok zeroRecord := by
  decide +kernel

end Record

end ZoneServices
