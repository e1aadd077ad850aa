import ZoneServices.Address
import ZoneServices.Proofs.Text.Digits

/-!
# Addresses that are read back

An address is read back from its written form.  For four octets this is a matter of fields
between dots.  For eight groups the two colons of the written form are where a reader finds the
first gap, and the run of zero groups that was left out there has the length that the groups on
both sides leave open.  No written form of the newer version is one of the older version, since
it has colons.
-/

namespace ZoneServices

open Text

namespace Ipv4

theorem octet?_decimal (octet : UInt8) : octet? (Numeral.decimal octet.toNat) = some octet := by
  have checked : (List.range 256).all fun value =>
      octet? (Numeral.decimal value) == some (UInt8.ofNat value) := by
    decide +kernel
  have found := List.all_eq_true.mp checked octet.toNat (List.mem_range.mpr octet.toNat_lt)
  rw [beq_iff_eq.mp found, UInt8.ofNat_toNat]

/-- Between its dots an address has the numerals of its octets. -/
theorem fields_write (address : Ipv4) :
    fields '.' address.write =
      [address.first, address.second, address.third, address.fourth].map
        fun octet => Numeral.decimal octet.toNat := by
  apply fields_joined
  · simp
  · intro piece member
    rcases List.mem_map.mp member with ⟨octet, _, rfl⟩
    exact Numeral.not_mem_decimal (.inr rfl) octet.toNat

/-- Addresses of four octets are read back from their written forms. -/
theorem read?_write (address : Ipv4) : read? address.write = some address := by
  rw [read?, fields_write]
  simp only [List.map_cons, List.map_nil, octet?_decimal]

theorem natural?_eq_none {text : Text} {character : Char} (member : character ∈ text)
    (noDigit : digit? character = none) : Numeral.natural? text = none := by
  have stops : ∀ value, text.foldlM (fun value character =>
      (digit? character).map (value * 10 + ·)) value = none := by
    induction text with
    | nil => cases member
    | cons first rest step =>
        intro value
        rw [List.foldlM_cons]
        rcases List.mem_cons.mp member with rfl | member
        · rw [noDigit]
          rfl
        · cases digit? first with
          | none => rfl
          | some digit => exact step member _
  rw [Numeral.natural?, stops]
  split <;> rfl

/-- A text with a colon is no address of four octets. -/
theorem read?_eq_none {text : Text} (colon : ':' ∈ text) : read? text = none := by
  rcases exists_mem_fields '.' (by decide) colon with ⟨field, inFields, inField⟩
  have noOctet : octet? field = none := by
    rw [octet?, natural?_eq_none inField (by decide)]
    split <;> rfl
  rw [read?]
  split
  · rename_i first second third fourth cut
    rw [cut] at inFields
    simp only [List.mem_cons, List.not_mem_nil, or_false] at inFields
    rcases inFields with rfl | rfl | rfl | rfl
    · rw [noOctet]
    · rw [noOctet]
      split <;> simp_all
    · rw [noOctet]
      split <;> simp_all
    · rw [noOctet]
      split <;> simp_all
  · rfl

/-- No address of four octets is taken for groups, because it has no colon. -/
theorem not_mem_colon_write (address : Ipv4) : ':' ∉ address.write := by
  intro colon
  have absent := read?_eq_none colon
  rw [read?_write] at absent
  cases absent

/-- A written address is too long for a group. -/
theorem four_lt_length_write (address : Ipv4) : 4 < address.write.length := by
  have first := List.length_pos_iff.mpr (Numeral.decimal_ne_nil address.first.toNat)
  have second := List.length_pos_iff.mpr (Numeral.decimal_ne_nil address.second.toNat)
  have third := List.length_pos_iff.mpr (Numeral.decimal_ne_nil address.third.toNat)
  have fourth := List.length_pos_iff.mpr (Numeral.decimal_ne_nil address.fourth.toNat)
  simp only [write, List.map_cons, List.map_nil, joined, List.intercalate_cons_cons,
    List.intercalate_singleton, List.length_append, List.length_singleton]
  omega

/-- What holds of the digits and of the dot holds of every character of an address. -/
theorem forall_mem_write {property : Char → Prop}
    (digits : ∀ digit < 10, property digit.digitChar) (dot : property '.') (address : Ipv4) :
    ∀ character ∈ address.write, property character := by
  apply forall_mem_joined (List.forall_mem_singleton.mpr dot)
  intro piece member
  rcases List.mem_map.mp member with ⟨octet, _, rfl⟩
  exact Numeral.of_mem_toDigits (by omega) digits octet.toNat

theorem ofGroups_toGroups (upper lower : UInt16) :
    (ofGroups upper lower).toGroups = [upper, lower] := by
  have upperBound := upper.toNat_lt
  have lowerBound := lower.toNat_lt
  simp only [ofGroups, toGroups, List.cons.injEq, and_true, ← UInt16.toNat_inj,
    UInt16.toNat_ofNat', UInt8.toNat_ofNat']
  omega

end Ipv4

namespace Ipv6

theorem group?_hexadecimal (group : UInt16) :
    group? (Numeral.hexadecimal group.toNat) = some group := by
  rw [group?, if_pos (Numeral.length_hexadecimal group.toNat_lt), Numeral.hexNatural?_hexadecimal]
  simp

theorem groupsOf?_map (dotted : Bool) (groups : List UInt16) :
    groupsOf? dotted (groups.map fun group => Numeral.hexadecimal group.toNat) = some groups := by
  induction groups with
  | nil => rfl
  | cons first others step =>
      cases others with
      | nil => simp only [List.map_cons, List.map_nil, groupsOf?, group?_hexadecimal]
      | cons second more =>
          rw [List.map_cons] at step ⊢
          rw [List.map_cons, groupsOf?, group?_hexadecimal, step]
          simp

theorem fields_writeGroups {groups : List UInt16} (some : groups ≠ []) :
    fields ':' (writeGroups groups) = groups.map fun group => Numeral.hexadecimal group.toNat := by
  apply fields_joined
  · simpa using some
  · intro piece member
    rcases List.mem_map.mp member with ⟨group, _, rfl⟩
    exact Numeral.not_mem_hexadecimal (.inl rfl) group.toNat

theorem writeGroups_cons (first : UInt16) {others : List UInt16} (more : others ≠ []) :
    writeGroups (first :: others) =
      Numeral.hexadecimal first.toNat ++ ':' :: writeGroups others := by
  rw [writeGroups, List.map_cons, joined_cons _ (by simpa using more)]
  rfl

/-- Written groups are read back on either side of two colons. -/
theorem side?_writeGroups (dotted : Bool) (groups : List UInt16) :
    side? dotted (writeGroups groups) = some groups := by
  cases groups with
  | nil => rfl
  | cons first others =>
      have digits := Numeral.hexadecimal_ne_nil first.toNat
      have nonempty : (writeGroups (first :: others)).isEmpty = false := by
        by_cases alone : others = []
        · subst alone
          simpa [writeGroups, joined_singleton] using digits
        · simp [writeGroups_cons first alone]
      rw [side?, nonempty, fields_writeGroups (by simp)]
      exact groupsOf?_map dotted (first :: others)

/-! ## Gaps -/

theorem splitAtGap?_append {field : Text} (free : ':' ∉ field) (tail : Text) :
    splitAtGap? (field ++ tail) =
      (splitAtGap? tail).map fun sides => (field ++ sides.1, sides.2) := by
  induction field with
  | nil => simp
  | cons character rest step =>
      rcases List.ne_and_not_mem_of_not_mem_cons free with ⟨other, free⟩
      rw [List.cons_append, splitAtGap?, if_neg (fun both => other both.1.symm), step free,
        Option.map_map]
      rfl

theorem splitAtGap?_colon {text : Text} (single : text.head? ≠ some ':') :
    splitAtGap? (':' :: text) = (splitAtGap? text).map fun sides => (':' :: sides.1, sides.2) := by
  rw [splitAtGap?, if_neg (fun both => single both.2)]

theorem head?_writeGroups_append (first : UInt16) (others : List UInt16) (tail : Text) :
    (writeGroups (first :: others) ++ tail).head? ≠ some ':' := by
  have free := Numeral.not_mem_hexadecimal (.inl rfl) first.toNat
  rcases List.exists_cons_of_ne_nil (Numeral.hexadecimal_ne_nil first.toNat) with
    ⟨digit, digits, written⟩
  rw [written] at free
  have other := (List.ne_and_not_mem_of_not_mem_cons free).1
  by_cases alone : others = []
  · subst alone
    simpa [writeGroups, joined_singleton, written] using other.symm
  · simpa [writeGroups_cons first alone, written] using other.symm

/-- Groups between single colons have no gap, so the first one is behind them. -/
theorem splitAtGap?_writeGroups_append (groups : List UInt16) (tail : Text) :
    splitAtGap? (writeGroups groups ++ tail) =
      (splitAtGap? tail).map fun sides => (writeGroups groups ++ sides.1, sides.2) := by
  induction groups with
  | nil => exact splitAtGap?_append List.not_mem_nil tail
  | cons first others step =>
      have free := Numeral.not_mem_hexadecimal (.inl rfl) first.toNat
      cases others with
      | nil =>
          rw [writeGroups, List.map_singleton, joined_singleton]
          exact splitAtGap?_append free tail
      | cons second more =>
          rw [writeGroups_cons first (by simp), List.append_assoc, splitAtGap?_append free,
            List.cons_append, splitAtGap?_colon (head?_writeGroups_append second more tail), step,
            Option.map_map, Option.map_map]
          simp [Function.comp_def]

/-- As many zero groups as the run has can be taken off the front. -/
theorem eq_replicate_append_of_le_zeroRun {groups : List UInt16} {count : Nat}
    (zeros : count ≤ zeroRun groups) :
    groups = List.replicate count 0 ++ groups.drop count := by
  induction count generalizing groups with
  | zero => rfl
  | succ count step =>
      cases groups with
      | nil => cases zeros
      | cons first rest =>
          by_cases zero : first = 0
          · subst zero
            have fewer : count ≤ zeroRun rest := by
              simpa [zeroRun] using zeros
            rw [List.replicate_succ, List.cons_append, List.drop_succ_cons, ← step fewer]
          · simp [zeroRun, zero] at zeros

/-- The longer one of a run of zero groups and the run that starts at some place. -/
def longerRun (groups : List UInt16) (best : Nat × Nat) (start : Nat) : Nat × Nat :=
  let run := zeroRun (groups.drop start)
  if best.2 < run then (start, run) else best

/-- The run that is found when all starts are tried lies where it is said to lie. -/
theorem foldl_longerRun_le (groups : List UInt16) (starts : List Nat) (best : Nat × Nat)
    (holds : best.2 ≤ zeroRun (groups.drop best.1)) :
    (starts.foldl (longerRun groups) best).2 ≤
      zeroRun (groups.drop (starts.foldl (longerRun groups) best).1) := by
  induction starts generalizing best with
  | nil => exact holds
  | cons start rest step =>
      rw [List.foldl_cons]
      apply step
      rw [longerRun]
      split
      · exact Nat.le_refl _
      · exact holds

/-- The run that is left out is one of zero groups. -/
theorem longestZeroRun_le (groups : List UInt16) :
    (longestZeroRun groups).2 ≤ zeroRun (groups.drop (longestZeroRun groups).1) :=
  foldl_longerRun_le groups (List.range groups.length) (0, 0) (Nat.zero_le _)

/-- The groups around the run that is left out, and the run, are all groups. -/
theorem eq_take_append_zeros (groups : List UInt16) :
    groups = groups.take (longestZeroRun groups).1
      ++ List.replicate (longestZeroRun groups).2 0
      ++ groups.drop ((longestZeroRun groups).1 + (longestZeroRun groups).2) := by
  have cut := eq_replicate_append_of_le_zeroRun (longestZeroRun_le groups)
  rw [List.drop_drop] at cut
  rw [List.append_assoc, ← cut, List.take_append_drop]

/-! ## Addresses of eight groups -/

theorem ofList?_toList (address : Ipv6) : ofList? address.groups.toList = some address := by
  rcases address with ⟨⟨array, size⟩⟩
  simp [ofList?, size]

theorem splitAtGap?_gap (rest : Text) : splitAtGap? ("::".toList ++ rest) = some ([], rest) := by
  have gap : "::".toList ++ rest = ':' :: ':' :: rest := rfl
  rw [gap, splitAtGap?, if_pos ⟨rfl, rfl⟩]
  rfl

/-- An address that maps one of four octets is read back. -/
theorem read?_mapped (upper lower : UInt16) :
    read? ("::ffff:".toList ++ (Ipv4.ofGroups upper lower).write) =
      ofList? [0, 0, 0, 0, 0, 0xFFFF, upper, lower] := by
  have gap : "::ffff:".toList ++ (Ipv4.ofGroups upper lower).write =
      "::".toList ++ ("ffff".toList ++ ':' :: (Ipv4.ofGroups upper lower).write) := rfl
  have long := Ipv4.four_lt_length_write (Ipv4.ofGroups upper lower)
  have noGroup : group? (Ipv4.ofGroups upper lower).write = none := by
    rw [group?, if_neg (by omega)]
  have cut : fields ':' ("ffff".toList ++ ':' :: (Ipv4.ofGroups upper lower).write) =
      ["ffff".toList, (Ipv4.ofGroups upper lower).write] := by
    rw [fields_append (by decide), fields_of_not_mem (Ipv4.not_mem_colon_write _)]
  have mask : group? "ffff".toList = some 0xFFFF := by decide
  have nonempty : ("ffff".toList ++ ':' :: (Ipv4.ofGroups upper lower).write).isEmpty = false := rfl
  rw [gap, read?, splitAtGap?_gap]
  dsimp only
  rw [side?, side?, nonempty, cut, groupsOf?, groupsOf?, mask, noGroup, Ipv4.read?_write]
  dsimp only [Option.map_some]
  rw [Ipv4.ofGroups_toGroups]
  rfl
  simp

/-- Groups with a gap are read back when the gap has the length of the zero groups left out. -/
theorem read?_gap {upper lower : List UInt16} (count : Nat) (positive : 0 < count)
    (size : upper.length + count + lower.length = 8) :
    read? (writeGroups upper ++ "::".toList ++ writeGroups lower) =
      ofList? (upper ++ List.replicate count 0 ++ lower) := by
  have open_ : 8 - (upper.length + lower.length) = count := by omega
  rw [read?, List.append_assoc, splitAtGap?_writeGroups_append, splitAtGap?_gap]
  dsimp only [Option.map_some]
  rw [List.append_nil, side?_writeGroups, side?_writeGroups]
  dsimp only
  rw [if_pos (by omega), open_]

/-- Groups that are written without two colons are read back. -/
theorem read?_writeGroups {groups : List UInt16} (nonempty : groups ≠ []) :
    read? (writeGroups groups) = ofList? groups := by
  have noGap := splitAtGap?_writeGroups_append groups []
  rw [List.append_nil, splitAtGap?, Option.map_none] at noGap
  rw [read?, noGap]
  dsimp only
  rw [fields_writeGroups nonempty, groupsOf?_map, Option.bind_some]

/-- Addresses of eight groups are read back from their written forms. -/
theorem read?_write (address : Ipv6) : read? address.write = some address := by
  have size : address.groups.toList.length = 8 := by simp
  rw [← ofList?_toList address, write]
  generalize address.groups.toList = groups at size
  split
  · exact read?_mapped _ _
  · dsimp only
    split
    · rename_i long
      have whole := eq_take_append_zeros groups
      have total := congrArg List.length whole
      rw [List.length_append, List.length_append, List.length_replicate] at total
      rw [read?_gap (longestZeroRun groups).2 (by omega) (by omega), ← whole]
    · apply read?_writeGroups
      rintro rfl
      cases size

/-- A written address of eight groups has a colon. -/
theorem mem_colon_write (address : Ipv6) : ':' ∈ address.write := by
  have size : address.groups.toList.length = 8 := by simp
  rw [write]
  generalize address.groups.toList = groups at size
  split
  · exact List.mem_append_left _ (by decide)
  · dsimp only
    split
    · exact List.mem_append_left _ (List.mem_append_right _ (by decide))
    · match groups, size with
      | first :: second :: others, _ =>
          rw [writeGroups_cons first (by simp)]
          exact List.mem_append_right _ List.mem_cons_self

variable {property : Char → Prop} (digits : ∀ digit < 16, property digit.digitChar)
  (colon : property ':')

include digits colon

theorem forall_mem_writeGroups (groups : List UInt16) :
    ∀ character ∈ writeGroups groups, property character := by
  apply forall_mem_joined (List.forall_mem_singleton.mpr colon)
  intro piece member
  rcases List.mem_map.mp member with ⟨group, _, rfl⟩
  exact Numeral.of_mem_toDigits (by omega) digits group.toNat

/-- A written address has only digits, colons and dots. -/
theorem forall_mem_write (dot : property '.') (address : Ipv6) :
    ∀ character ∈ address.write, property character := by
  have groups := forall_mem_writeGroups digits colon
  rw [write]
  split
  · have last := digits 15 (by decide)
    have start : ∀ character ∈ "::ffff:".toList, property character := by
      simpa using ⟨colon, last, colon⟩
    exact List.forall_mem_append.mpr ⟨start,
      Ipv4.forall_mem_write (fun digit small => digits digit (by omega)) dot _⟩
  · dsimp only
    split
    · have gap : ∀ character ∈ "::".toList, property character := by simpa using colon
      exact List.forall_mem_append.mpr
        ⟨List.forall_mem_append.mpr ⟨groups _, gap⟩, groups _⟩
    · exact groups _

end Ipv6

namespace Address

/-- A written address has only digits, colons and dots. -/
theorem forall_mem_write {property : Char → Prop}
    (digits : ∀ digit < 16, property digit.digitChar) (colon : property ':') (dot : property '.')
    (address : Address) : ∀ character ∈ address.write, property character := by
  cases address with
  | v4 address =>
      exact address.forall_mem_write (fun digit small => digits digit (by omega)) dot
  | v6 address => exact address.forall_mem_write digits colon dot

/-- The written form of an address has no blanks. -/
theorem isSolid_write (address : Address) : IsSolid address.write :=
  forall_mem_write (by decide) (by decide) (by decide) address

/-- Every address is read back from its written form. -/
theorem read?_write (address : Address) : read? address.write = some address := by
  cases address with
  | v4 address =>
      rw [read?, write, Ipv4.read?_write]
  | v6 address =>
      rw [read?, write, Ipv4.read?_eq_none address.mem_colon_write, Ipv6.read?_write]
      rfl

end Address

end ZoneServices
