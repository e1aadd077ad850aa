import ZoneServices.Proofs.Record

/-!
# Records that are made

A record that is made has its payload settled: the payload is in canonical form, or it has none and
is kept as it was given.  Settling changes neither whether a payload is one of its type nor whether
it is empty.  An empty payload is one of three sorts of types only, and is its own canonical form.
-/

namespace ZoneServices

open Text

/-! ## Empty payloads -/

namespace Payload

/-- Only the form that takes anything takes no tokens. -/
theorem acceptsTokens_nil_iff {form : PayloadForm} :
    acceptsTokens [] form = true ↔ form = .anything := by
  cases form <;> decide

/-- The types that the empty payload is one of. -/
theorem normalize_nil_eq_ok_iff {type : RecordType} {canonical : Text} :
    normalize type [] = .ok canonical ↔
      (type = .txt ∨ type.isSigning = true ∨ type = .zero) ∧ canonical = [] := by
  have strings : CharacterString.readAll [] = .ok [] := by rw [CharacterString.readAll]
  have written : CharacterString.writeAll [] = [] := rfl
  have generic : Generic.normalize [] = .error .noMark := rfl
  have tokens : tokens? [] = some [] := rfl
  have turned : canonical = [] ↔ [] = canonical := eq_comm
  rw [← RecordType.form_eq_strings_iff, ← RecordType.form_eq_anything_iff, RecordType.isSigning,
    beq_iff_eq, turned, normalize]
  cases type.form <;> simp [strings, written, generic, tokens, keepTokens, acceptsTokens_nil_iff]

end Payload

namespace Record

/-! ## Settled payloads -/

variable {type : RecordType} {payload canonical : Text}

theorem settledPayload_of_normalize (normalized : Payload.normalize type payload = .ok canonical) :
    settledPayload type payload = canonical := by
  rw [settledPayload, normalized]

/-- A payload without a canonical form of its own is never changed. -/
theorem settledPayload_of_form (notStrings : type.form ≠ .strings)
    (notGeneric : type.form ≠ .generic) (payload : Text) :
    settledPayload type payload = payload := by
  rw [settledPayload]
  cases normalized : Payload.normalize type payload with
  | error fault => rfl
  | ok canonical =>
      unfold Payload.normalize at normalized
      split at normalized
      · rename_i form
        exact absurd form notStrings
      · rename_i form
        exact absurd form notGeneric
      · cases normalized
        rfl
      · unfold Payload.keepTokens at normalized
        split at normalized
        · split at normalized
          · cases normalized
            rfl
          · cases normalized
        · cases normalized

theorem settledPayload_writeText (text : Text) :
    settledPayload .txt (CharacterString.writeText text) = CharacterString.writeText text :=
  settledPayload_of_normalize (Payload.normalize_writeText text)

/-- Settling keeps a payload what it is to its type. -/
theorem exists_normalize_settledPayload_iff :
    (∃ canonical, Payload.normalize type (settledPayload type payload) = .ok canonical) ↔
      ∃ canonical, Payload.normalize type payload = .ok canonical := by
  cases normalized : Payload.normalize type payload with
  | error fault =>
      have kept : settledPayload type payload = payload := by rw [settledPayload, normalized]
      rw [kept, normalized]
  | ok canonical =>
      rw [settledPayload_of_normalize normalized]
      exact iff_of_true ⟨canonical, Payload.normalize_idempotent normalized⟩ ⟨canonical, rfl⟩

/-- A settled payload has no blanks around it, and is empty only if it was given so. -/
theorem isTrimmed_settledPayload (trimmed : IsTrimmed payload) :
    IsTrimmed (settledPayload type payload)
      ∧ (settledPayload type payload = [] ↔ payload = []) := by
  rw [settledPayload]
  split
  · rename_i canonical normalized
    by_cases empty : payload = []
    · subst empty
      rw [(Payload.normalize_nil_eq_ok_iff.mp normalized).2]
      exact ⟨trimmed, Iff.rfl⟩
    · rcases Payload.isTrimmed_normalize trimmed empty normalized with ⟨canonicalTrimmed, filled⟩
      exact ⟨canonicalTrimmed, iff_of_false filled empty⟩
  · exact ⟨trimmed, Iff.rfl⟩

theorem make_eq {type : RecordType} {payload : Text} (trimmed : IsTrimmed payload)
    (settled : settledPayload type payload = payload) (name : Text) (ttl : UInt32)
    (origin : Text) :
    make name type ttl origin payload = ⟨Owner.resolve name origin, type, ttl, payload⟩ := by
  rw [make, trim_of_isTrimmed trimmed, settled]

/-- A record is valid exactly if its payload has a canonical form. -/
theorem validate_eq_ok_iff {record : Record} :
    record.validate = .ok () ↔
      ∃ canonical, Payload.normalize record.type record.payload = .ok canonical := by
  rw [validate]
  cases Payload.normalize record.type record.payload with
  | error fault => exact iff_of_false (fun valid => nomatch valid) (fun ⟨_, valid⟩ => nomatch valid)
  | ok canonical => exact iff_of_true rfl ⟨canonical, rfl⟩

end Record

end ZoneServices
