import ZoneServices.Kind.Orphan
import ZoneServices.Proofs.Name.Escape
import ZoneServices.Proofs.Record.Canonical

/-!
# Records that are kept as they are

An orphan is written by reading a line: the absolute form of its subdomain, its time to live, the
word for its type and its payload.  The line differs from the canonical text of the record that was
kept in the owner alone.

So the record is written again, letter case of the owner aside, unless its type is that of number
zero, whose word is not known to the reader, or its owner is clipped on the way through the form
relative to the origin.
-/

namespace ZoneServices

open Text

namespace Orphan

variable {record : Record} {origin : Text}

/-- The line that a kept record is read from again. -/
theorem records_ofRecord (record : Record) (subdomain : Text) (ttl : UInt32) (origin : Text) :
    (ofRecord record).records subdomain ttl origin =
      match Record.read ({ record with
        owner := Owner.resolve subdomain origin, ttl := ttl } : Record).write with
      | .ok record => .ok [record]
      | .error cause => .error (.unreadable cause) := rfl

/-- The kept record is read again only under the owner of the line and if its type can be read. -/
theorem eq_of_records_ofRecord (isRead : record.IsRead) (zone : IsSolid origin) {owner : Text}
    (written : (ofRecord record).records (Owner.relativeTo record.owner origin) record.ttl origin =
      .ok [{ record with owner := owner }]) :
    Owner.resolve (Owner.relativeTo record.owner origin) origin = owner
      ∧ record.type ≠ .zero := by
  rw [records_ofRecord] at written
  split at written
  · rename_i again read
    simp only [Except.ok.injEq, List.cons.injEq, and_true] at written
    subst written
    have solid := Owner.isSolid_resolve (Owner.isSolid_relativeTo isRead.solid origin) zone
    have named : Owner.resolve (Owner.relativeTo record.owner origin) origin ≠ [] := by
      intro empty
      have ends := Owner.endsWithDot_resolve (Owner.relativeTo record.owner origin) origin
      rw [empty] at ends
      cases ends
    have cut := Record.read_words solid named (RecordType.isSolid_write record.type)
      (RecordType.write_ne_nil _) isRead.trimmed record.ttl
    rcases Record.read_eq_ok_iff.mp read with ⟨words, found, same, _, known, _⟩
    cases cut.symm.trans found
    refine ⟨same, ?_⟩
    intro zero
    dsimp only at known
    rw [zero, RecordType.read?_write_zero] at known
    cases known
  · cases written

/--
A record that was read is written again from what was kept of it, letter case of the owner aside,
exactly if its type is not that of number zero and its owner is not clipped.
-/
theorem records_ofRecord_iff {text : Text} (read : Record.read text = .ok record)
    (zone : Record.checkOwner origin = .ok ()) :
    (∃ owner, (ofRecord record).records (Owner.relativeTo record.owner origin) record.ttl origin =
        .ok [{ record with owner := owner }] ∧ fold owner = fold record.owner)
      ↔ record.type ≠ .zero ∧ ¬ Owner.IsClipped origin record.owner := by
  have isRead := Record.isRead_of_read read
  have restored := fold_resolve_relativeTo_iff isRead.owner zone
  constructor
  · rintro ⟨owner, written, same⟩
    rcases eq_of_records_ofRecord isRead (isOwnerText_of_checkOwner zone).solid written with
      ⟨rfl, other⟩
    exact ⟨other, restored.mp same⟩
  · rintro ⟨other, whole⟩
    have same := restored.mpr whole
    have again := Record.read_write (Record.isRead_of_fold_eq isRead same.symm record.ttl) other
    refine ⟨_, ?_, same⟩
    rw [records_ofRecord, again]

/-- A record below a zone whose name is spelt otherwise, with dots inside its first label. -/
def dottedRecord : Record :=
  ⟨"A\\.\\.b.Example.com.".toList, ⟨99⟩, 300, "\\# 1 ff".toList⟩

theorem records_ofRecord_of_dottedRecord :
    Record.read "A\\.\\.b.Example.com. 300 TYPE99 \\# 01 F F".toList = .ok dottedRecord
      ∧ ∃ owner, (ofRecord dottedRecord).records
          (Owner.relativeTo dottedRecord.owner "example.COM.".toList) 300 "example.COM.".toList =
            .ok [{ dottedRecord with owner := owner }]
        ∧ fold owner = fold dottedRecord.owner := by
  have read : Record.read "A\\.\\.b.Example.com. 300 TYPE99 \\# 01 F F".toList =
      .ok dottedRecord := by
    decide +kernel
  have zone : Record.checkOwner "example.COM.".toList = .ok () := by decide +kernel
  refine ⟨read, (records_ofRecord_iff read zone).mpr ⟨by decide, ?_⟩⟩
  have apart : ¬ ['.', '.'] <:+: trimEndDots dottedRecord.owner := by decide +kernel
  intro clipped
  cases clipped with
  | last ends _ => exact absurd ends (by decide +kernel)
  | apex lacks => exact absurd lacks (by decide +kernel)
  | @inner head tail _ cut _ => exact apart ⟨head, tail, by rw [cut]; simp⟩

/-- A record below a zone whose first label ends in a dot. -/
def clippedRecord : Record :=
  ⟨"a\\..example.com.".toList, ⟨2⟩, 300, "ns.example.net.".toList⟩

/-- Not every record that was read is written again under its own name. -/
theorem not_records_ofRecord_of_clippedRecord :
    Record.read "a\\..example.com. 300 IN NS ns.example.net.".toList = .ok clippedRecord
      ∧ Record.checkOwner "example.com.".toList = .ok ()
      ∧ (ofRecord clippedRecord).records
          (Owner.relativeTo clippedRecord.owner "example.com.".toList) 300 "example.com.".toList =
        .ok [{ clippedRecord with owner := "a\\.example.com.".toList }]
      ∧ fold "a\\.example.com.".toList ≠ fold clippedRecord.owner := by
  decide +kernel

end Orphan

end ZoneServices
