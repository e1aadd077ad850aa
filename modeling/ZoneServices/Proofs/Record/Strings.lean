import ZoneServices.Proofs.Record.Making

/-!
# Texts in records

The payload of a text record is a list of strings in writing.  Writing a list and reading it again
gives the list back, so the canonical form of a payload stands for the list that the payload is read
as, and is one for all payloads with that list.

A text goes into a record as a list of strings that are as long as they can be without a character
being cut, and comes out of it unchanged.
-/

namespace ZoneServices

open Text

/-! ## Canonical forms of strings -/

namespace Payload

variable {payload canonical : Text}

/-- The canonical form of a text payload is its own, and has the strings of the payload. -/
theorem normalize_txt_idempotent (normalized : normalize .txt payload = .ok canonical) :
    normalize .txt canonical = .ok canonical ∧
      CharacterString.readAll canonical = CharacterString.readAll payload := by
  rcases normalize_txt_eq_ok_iff.mp normalized with ⟨strings, read, rfl⟩
  have again := CharacterString.readAll_writeAll_of_read read
  exact ⟨normalize_txt_eq_ok_iff.mpr ⟨strings, again, rfl⟩, again.trans read.symm⟩

/-- Payloads have one canonical form exactly if they are read as one list of strings. -/
theorem normalize_txt_eq_iff {other otherCanonical : Text}
    (normalized : normalize .txt payload = .ok canonical)
    (otherNormalized : normalize .txt other = .ok otherCanonical) :
    canonical = otherCanonical ↔
      CharacterString.readAll payload = CharacterString.readAll other := by
  constructor
  · intro same
    calc
      CharacterString.readAll payload = CharacterString.readAll canonical :=
        (normalize_txt_idempotent normalized).2.symm
      _ = CharacterString.readAll otherCanonical := by rw [same]
      _ = CharacterString.readAll other := (normalize_txt_idempotent otherNormalized).2
  · intro same
    rcases normalize_txt_eq_ok_iff.mp normalized with ⟨strings, read, rfl⟩
    rcases normalize_txt_eq_ok_iff.mp otherNormalized with ⟨others, otherRead, rfl⟩
    rw [read, otherRead, Except.ok.injEq] at same
    rw [same]

/--
Strings of at most 255 octets are read back from their written forms with spaces in between, and
only such strings are ever read.  A text payload has a canonical form exactly if strings are read
from it, whose written forms it is.  So the canonical form is its own, has the strings of the
payload, and is the same for two payloads exactly if they have the same strings.
-/
theorem strings_codec :
    (∀ strings : List Octets, (∀ octets ∈ strings, octets.length ≤ 255) →
      CharacterString.readAll (joined [' '] (strings.map CharacterString.write)) = .ok strings)
    ∧ (∀ text strings, CharacterString.readAll text = .ok strings →
      ∀ octets ∈ strings, octets.length ≤ 255)
    ∧ (∀ payload canonical, normalize .txt payload = .ok canonical ↔
      ∃ strings, CharacterString.readAll payload = .ok strings
        ∧ joined [' '] (strings.map CharacterString.write) = canonical)
    ∧ (∀ payload canonical, normalize .txt payload = .ok canonical →
      normalize .txt canonical = .ok canonical ∧
        CharacterString.readAll canonical = CharacterString.readAll payload)
    ∧ ∀ payload other canonical otherCanonical, normalize .txt payload = .ok canonical →
      normalize .txt other = .ok otherCanonical →
      (canonical = otherCanonical ↔
        CharacterString.readAll payload = CharacterString.readAll other) :=
  ⟨fun _ => CharacterString.readAll_writeAll, fun _ _ => CharacterString.length_of_readAll,
    fun _ _ => normalize_txt_eq_ok_iff, fun _ _ => normalize_txt_idempotent,
    fun _ _ _ _ => normalize_txt_eq_iff⟩

end Payload

/-! ## Records of texts -/

namespace Record

/-- A record of a text has the written strings of the text for its payload. -/
theorem ofText_eq (name : Text) (ttl : UInt32) (origin text : Text) :
    ofText name ttl origin text =
      ⟨Owner.resolve name origin, .txt, ttl, CharacterString.writeText text⟩ := by
  rw [ofText, make_eq (CharacterString.isTrimmed_writeText _) (settledPayload_writeText _)]

theorem strings?_writeText (owner : Text) (ttl : UInt32) (text : Text) :
    (⟨owner, .txt, ttl, CharacterString.writeText text⟩ : Record).strings? =
      some ((CharacterString.ofText text).map Utf8.encode) := by
  rw [strings?, if_pos rfl, CharacterString.readAll_writeText]

/-- The strings of a written text are read back as texts. -/
theorem texts_writeText (owner : Text) (ttl : UInt32) (text : Text) :
    (⟨owner, .txt, ttl, CharacterString.writeText text⟩ : Record).texts =
      CharacterString.ofText text := by
  rw [texts, strings?_writeText, Option.getD_some, CharacterString.map_decodeLossy_encode]

/-- A text is read back from its strings. -/
theorem joinedText_writeText (owner : Text) (ttl : UInt32) (text : Text) :
    (⟨owner, .txt, ttl, CharacterString.writeText text⟩ : Record).joinedText = text := by
  rw [joinedText, texts_writeText, CharacterString.flatten_ofText]

/--
A record that is made of a text is valid and holds the text in at least one string.  Each string has
at most 255 octets and each but the last has more than 251, and together they are the text.
-/
theorem ofText_keeps_text (name : Text) (ttl : UInt32) (origin text : Text) :
    (ofText name ttl origin text).validate = .ok ()
      ∧ (ofText name ttl origin text).texts ≠ []
      ∧ (∀ piece ∈ (ofText name ttl origin text).texts, (Utf8.encode piece).length ≤ 255)
      ∧ (∀ piece ∈ (ofText name ttl origin text).texts.dropLast,
        251 < (Utf8.encode piece).length)
      ∧ (ofText name ttl origin text).joinedText = text := by
  have valid : (⟨Owner.resolve name origin, .txt, ttl, CharacterString.writeText text⟩ :
      Record).validate = .ok () :=
    validate_eq_ok_iff.mpr ⟨_, Payload.normalize_writeText text⟩
  rw [ofText_eq, texts_writeText]
  refine ⟨valid, CharacterString.ofText_ne_nil text, ?_, ?_, joinedText_writeText _ _ _⟩
  · intro piece member
    rw [Utf8.length_encode]
    exact CharacterString.octetSize_of_mem_ofText member
  · intro piece member
    rw [Utf8.length_encode]
    exact CharacterString.lt_octetSize_of_mem_dropLast_ofText member

end Record

end ZoneServices
