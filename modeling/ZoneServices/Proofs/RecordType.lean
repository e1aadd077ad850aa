import ZoneServices.Proofs.Text.Digits
import ZoneServices.Proofs.Text.Letter
import ZoneServices.RecordType

/-!
# Words and forms of types

A type is known by an entry with a mnemonic or by its generic word.  What holds of every entry and
of every generic word holds of every type, and the entries are few enough to be looked through.

The word for a type is read back as the type or not at all.  It is read back if the type is one that
can be read with a payload, with one exception: the type of number zero is shown by a mnemonic that
is not read.
-/

namespace ZoneServices

open Text

namespace RecordType

/-- The type whose mnemonic is shown but not read, although payloads of the type are. -/
def zero : RecordType := ⟨0⟩

/-- What holds of the entries and of the generic words holds of all types. -/
theorem forall_of_entries (property : RecordType → Text → PayloadForm → Prop)
    (named : ∀ entry ∈ entries, property ⟨entry.code⟩ entry.mnemonic.toList entry.form)
    (generic : ∀ code : UInt16,
      property ⟨code⟩ (genericMark ++ Numeral.decimal code.toNat) .generic) (type : RecordType) :
    property type type.write type.form := by
  rw [write, form]
  cases found : type.entry? with
  | none => exact generic type.code
  | some entry =>
      have same := List.find?_some found
      have known := named entry (List.mem_of_find?_eq_some found)
      rw [beq_iff_eq.mp same] at known
      exact known

/-! ## Words -/

theorem isSolid_write (type : RecordType) : IsSolid type.write := by
  have mark : IsSolid genericMark := isSolid_iff_all.mpr (by decide)
  have mnemonics : ∀ entry ∈ entries, entry.mnemonic.toList.all (!isBlank ·) = true := by
    decide +kernel
  exact forall_of_entries (fun _ word _ => IsSolid word)
    (fun entry member => isSolid_iff_all.mpr (mnemonics entry member))
    (fun code => mark.append (Numeral.isSolid_decimal code.toNat)) type

theorem write_ne_nil (type : RecordType) : type.write ≠ [] :=
  forall_of_entries (fun _ word _ => word ≠ []) (by decide +kernel)
    (fun _ => List.append_ne_nil_of_left_ne_nil (by decide) _) type

/-- Letter case does not matter to the word for a type. -/
theorem read?_eq_of_fold_eq {word other : Text} (same : fold word = fold other) :
    read? word = read? other := by
  have upperSame : upper word = upper other := by
    rw [← upper_fold word, same, upper_fold]
  rw [read?, read?, upperSame]

theorem upper_decimal (value : Nat) : upper (Numeral.decimal value) = Numeral.decimal value := by
  have digits : ∀ character ∈ Numeral.decimal value, character.toUpper = character :=
    Numeral.of_mem_toDigits (by omega) (by decide) value
  exact (List.map_congr_left digits).trans (List.map_id _)

/-- Every type is read from its code behind the generic mark. -/
theorem read?_generic (code : UInt16) :
    read? (genericMark ++ Numeral.decimal code.toNat) = some ⟨code⟩ := by
  have mark : upper genericMark = genericMark := by decide
  have shown : upper (genericMark ++ Numeral.decimal code.toNat) =
      genericMark ++ Numeral.decimal code.toNat := by
    rw [upper, List.map_append, ← upper, ← upper, mark, upper_decimal]
  have starts : genericMark.isPrefixOf (genericMark ++ Numeral.decimal code.toNat) = true :=
    List.isPrefixOf_iff_prefix.mpr (List.prefix_append _ _)
  rw [read?, shown, if_pos starts, List.drop_left, Numeral.word16?_decimal]
  rfl

/-- The word for a type is read back, if the type is one that can be read with a payload. -/
theorem read?_write {type : RecordType} (carries : type.form ≠ .nothing) (other : type ≠ zero) :
    read? type.write = some type :=
  forall_of_entries
    (fun type word form => form ≠ .nothing → type ≠ zero → read? word = some type)
    (by decide +kernel) (fun code _ _ => read?_generic code) type carries other

/-- The mnemonic of the type zero is written but not read. -/
theorem read?_write_zero : read? zero.write = none := by
  decide +kernel

/-- The word for a type names no other type. -/
theorem eq_of_read?_write {type other : RecordType} (known : read? type.write = some other) :
    other = type := by
  have read := forall_of_entries
    (fun type word _ => read? word = none ∨ read? word = some type)
    (by decide +kernel) (fun code => .inr (read?_generic code)) type
  rcases read with unread | read
  · rw [unread] at known
    cases known
  · rw [read] at known
    exact (Option.some.inj known).symm

/-- Types that can be read with a payload have words of their own. -/
theorem eq_of_write_eq {left right : RecordType} (leftCarries : left.form ≠ .nothing)
    (rightCarries : right.form ≠ .nothing) (same : left.write = right.write) : left = right := by
  by_cases leftZero : left = zero
  · by_cases rightZero : right = zero
    · rw [leftZero, rightZero]
    · have known := read?_write rightCarries rightZero
      rw [← same] at known
      exact (eq_of_read?_write known).symm
  · have known := read?_write leftCarries leftZero
    rw [same] at known
    exact eq_of_read?_write known

/-! ## Forms -/

/-- Only the type of texts has strings for its payload. -/
theorem form_eq_strings_iff {type : RecordType} : type.form = .strings ↔ type = .txt := by
  constructor
  · exact forall_of_entries (fun type _ form => form = .strings → type = .txt)
      (by decide +kernel) (fun _ => nofun) type
  · rintro rfl
    decide

theorem form_eq_anything_iff {type : RecordType} : type.form = .anything ↔ type = .zero := by
  constructor
  · exact forall_of_entries (fun type _ form => form = .anything → type = .zero)
      (by decide +kernel) (fun _ => nofun) type
  · rintro rfl
    decide

end RecordType

end ZoneServices
