import ZoneServices.Proofs.Json.Fields
import ZoneServices.Proofs.Text.Base64
import ZoneServices.Service.Id

/-!
# Texts of identifiers

The identifier of a service is looked up by its text, so the text must be told by the identifier and
the identifier by its text.  Twenty octets are not a whole number of groups of three: the last group
has padding and two bits that no octet takes.  Only one way of filling them is read, so every
identifier has exactly one text.
-/

namespace ZoneServices

theorem Json.text?_eq_some_iff {value : Json} {text : Text} :
    value.text? = some text ↔ value = .string text := by
  cases value <;> simp [text?]

namespace ServiceId

/-- Every identifier is read back from its shown form. -/
theorem read_write (id : ServiceId) : read id.write = .ok id := by
  rcases id with ⟨⟨octets, size⟩⟩
  rw [read, write, Base64.decode?_encode]
  exact dif_pos size

/-- An identifier is read only from its shown form. -/
theorem write_of_read {text : Text} {id : ServiceId} (accepted : read text = .ok id) :
    id.write = text := by
  rw [read] at accepted
  split at accepted
  · cases accepted
  · rename_i octets decoded
    split at accepted
    · cases accepted
      exact Base64.encode_of_decode? decoded
    · cases accepted

theorem read_eq_ok_iff {text : Text} {id : ServiceId} : read text = .ok id ↔ id.write = text :=
  ⟨write_of_read, fun written => written ▸ read_write id⟩

/-- The JSON form of an identifier is the only one that it is decoded from. -/
theorem decode?_eq_some_iff {value : Json} {id : ServiceId} :
    decode? value = some id ↔ value = id.encode := by
  rw [decode?, encode, Option.bind_eq_some_iff]
  constructor
  · rintro ⟨text, held, accepted⟩
    rw [Json.text?_eq_some_iff] at held
    cases read : ServiceId.read text with
    | error error =>
        rw [read] at accepted
        cases accepted
    | ok found =>
        rw [read] at accepted
        cases accepted
        rw [held, write_of_read read]
  · rintro rfl
    exact ⟨id.write, Json.text?_string _, by rw [read_write]; rfl⟩

/-- The octets of an identifier are as many as an identifier has. -/
theorem exists_write_iff {text : Text} :
    (∃ id : ServiceId, id.write = text) ↔
      ∃ octets : Octets, octets.length = 20 ∧ Base64.IsPadded octets text := by
  constructor
  · rintro ⟨id, rfl⟩
    exact ⟨id.octets.toList, id.octets.length_toList, Base64.isPadded_encode _⟩
  · rintro ⟨octets, size, isPadded⟩
    exact ⟨⟨⟨octets.toArray, size⟩⟩, Base64.encode_eq_iff.mpr isPadded⟩

/--
An identifier is read from its own text and from no other text.  That text is the padded base64 form
of the twenty octets, and every padded form of twenty octets is the text of an identifier; so no two
texts are read as the same identifier, be it alone or in a stored zone.
-/
theorem text_codec (text : Text) (id : ServiceId) :
    read id.write = .ok id
      ∧ (read text = .ok id → id.write = text)
      ∧ (∀ other, read text = .ok id → read other = .ok id → other = text)
      ∧ (read text = .ok id ↔ Base64.IsPadded id.octets.toList text)
      ∧ ((∃ known, read text = .ok known) ↔
        ∃ octets : Octets, octets.length = 20 ∧ Base64.IsPadded octets text)
      ∧ ∀ value, decode? value = some id ↔ value = .string id.write := by
  refine ⟨read_write id, write_of_read, ?_, ?_, ?_, fun _ => decode?_eq_some_iff⟩
  · intro other first second
    rw [← write_of_read first, ← write_of_read second]
  · rw [read_eq_ok_iff]
    exact Base64.encode_eq_iff
  · simp only [read_eq_ok_iff]
    exact exists_write_iff

end ServiceId

end ZoneServices
