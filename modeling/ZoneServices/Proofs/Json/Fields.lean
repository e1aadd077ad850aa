import Mathlib.Data.List.Basic
import ZoneServices.Json.Fields
import ZoneServices.Proofs.Json.Normalization

/-!
# Fields that are read back

Numbers of a fixed width are decoded from their JSON forms, and a list or a directory is if its
items are.  The fields of a structure are found by their names.
-/

namespace ZoneServices.Json

@[simp]
theorem text?_string (text : Text) : (string text).text? = some text := by
  rw [text?]

@[simp]
theorem required_some {Item : Type} (decode : Json → Option Item) (value : Json) :
    required decode (some value) = decode value := by
  rw [required, Option.bind_some]

@[simp]
theorem defaulting_some {Item : Type} (decode : Json → Option Item) (missing : Item)
    (value : Json) : defaulting decode missing (some value) = decode value := by
  rw [defaulting]

/-! ## Numbers -/

/-- A whole number between its limits is decoded from its JSON form. -/
theorem whole?_ofInt {low limit value : Int} (least : low ≤ value) (most : value < limit) :
    (ofInt value).whole? low limit = some value :=
  if_pos ⟨least, most⟩

theorem int64?_ofInt (value : Int64) : (ofInt value.toInt).int64? = some value := by
  have most := value.toInt_lt
  have least := value.le_toInt
  rw [int64?, whole?_ofInt, Option.map_some, Int64.ofInt_toInt]
  · exact least
  · exact Int.lt_add_one_of_le (Int.le_of_lt_add_one most)

theorem word32?_ofNat (value : UInt32) : (ofNat value.toNat).word32? = some value := by
  have most := value.toNat_lt
  rw [word32?, ofNat, ← ofInt, whole?_ofInt (by omega) (by exact_mod_cast most), Option.map_some,
    Int.toNat_natCast, UInt32.ofNat_toNat]

theorem word16?_ofNat (value : UInt16) : (ofNat value.toNat).word16? = some value := by
  have most := value.toNat_lt
  rw [word16?, ofNat, ← ofInt, whole?_ofInt (by omega) (by exact_mod_cast most), Option.map_some,
    Int.toNat_natCast, UInt16.ofNat_toNat]

theorem count?_ofNat {value : Nat} (fits : value < UInt64.size) :
    (ofNat value).count? = some value := by
  rw [count?, ofNat, ← ofInt, whole?_ofInt (by omega) (by exact_mod_cast fits), Option.map_some,
    Int.toNat_natCast]

/-- A number fits a word exactly if it fits a signed or an unsigned one. -/
theorem fitsWord_iff {value : Int} :
    fitsWord value = true ↔ Int64.minValue.toInt ≤ value ∧ value < UInt64.size := by
  rw [fitsWord, Bool.and_eq_true, decide_eq_true_iff, decide_eq_true_iff]

theorem fitsWord_natCast {value : Nat} (fits : value < UInt64.size) :
    fitsWord (value : Int) = true := by
  have lowest : Int64.minValue.toInt ≤ 0 := by decide
  exact fitsWord_iff.mpr ⟨by omega, by exact_mod_cast fits⟩

theorem fitsWord_toInt (value : Int64) : fitsWord value.toInt = true := by
  have most := value.toInt_lt
  have wide : (2 : Int) ^ 63 ≤ UInt64.size := by decide
  exact fitsWord_iff.mpr ⟨value.le_toInt, by omega⟩

/-! ## Structures -/

/-- Among written members of different names, the one of a name is found alone. -/
theorem filter_name_eq {members : List (String × Json)} (distinct : (members.map Prod.fst).Nodup)
    (name : String) :
    (members.map fun member => (member.1.toList, member.2)).filter
        (fun member => member.1 == name.toList) =
      ((members.lookup name).map fun value => (name.toList, value)).toList := by
  induction members with
  | nil => rfl
  | cons member rest step =>
      rcases member with ⟨key, value⟩
      rcases List.nodup_cons.mp distinct with ⟨absent, others⟩
      rw [List.map_cons, List.filter_cons, step others, List.lookup_cons]
      by_cases same : name = key
      · subst same
        have missing : rest.lookup name = none := by
          apply List.lookup_eq_none_iff.mpr
          intro other isMember
          apply bne_iff_ne.mpr
          intro equal
          exact absent (List.mem_map.mpr ⟨other, isMember, equal.symm⟩)
        rw [missing, beq_self_eq_true, beq_self_eq_true]
        rfl
      · have differ : (key.toList == name.toList) = false :=
          beq_eq_false_iff_ne.mpr fun equal => same (String.toList_inj.mp equal.symm)
        rw [differ, beq_eq_false_iff_ne.mpr same]
        rfl

/-- The fields of a structure are found by their names, in whatever order they are written. -/
theorem fields?_ofMembers {members : List (String × Json)}
    (distinct : (members.map Prod.fst).Nodup) (names : List String) :
    (ofMembers members).fields? names = some (names.map fun name => members.lookup name) := by
  have each : ∀ name,
      member? (members.map fun member => (member.1.toList, member.2)) name =
        some (members.lookup name) := by
    intro name
    rw [member?, filter_name_eq distinct]
    cases members.lookup name with
    | none => rfl
    | some value => rfl
  rw [ofMembers, fields?, memberFields?]
  · induction names with
    | nil => rfl
    | cons name rest step =>
        rw [List.mapM_cons, each, step]
        rfl
  · intro elements equal
    cases equal

theorem fields?_singleton (name : String) (value : Json) :
    (ofMembers [(name, value)]).fields? [name] = some [some value] := by
  have distinct : ([(name, value)].map Prod.fst).Nodup :=
    List.nodup_cons.mpr ⟨List.not_mem_nil, List.nodup_nil⟩
  rw [fields?_ofMembers distinct, List.map_singleton, List.lookup_cons, beq_self_eq_true]

/-- Members whose names are in order stay where they are in the normal form. -/
theorem normalize_ofMembers {members : List (String × Json)}
    (sorted : (members.map fun member => member.1.toList).Pairwise (· < ·)) :
    (ofMembers members).normalize =
      ofMembers (members.map fun member => (member.1, member.2.normalize)) := by
  have inOrder : (members.map fun member => (member.1.toList, member.2.normalize)).Pairwise
      fun earlier later => earlier.1 < later.1 :=
    List.pairwise_map.mpr (List.pairwise_map.mp sorted)
  rw [ofMembers, normalize, normalizeMembers_eq, List.map_map, ofMembers, List.map_map]
  exact congrArg object (Directory.entries_ofList inOrder)

/-! ## Lists and directories -/

/-- Items that are decoded one by one are decoded as a list. -/
theorem mapM_map_eq_some {Item Form : Type} {encode : Item → Form} {decode : Form → Option Item}
    {items : List Item} (each : ∀ item ∈ items, decode (encode item) = some item) :
    (items.map encode).mapM decode = some items := by
  induction items with
  | nil => rfl
  | cons item rest step =>
      rcases List.forall_mem_cons.mp each with ⟨first, others⟩
      rw [List.map_cons, List.mapM_cons, first, step others]
      rfl

/-- A list of items is decoded from its array if each of them is. -/
theorem list?_ofList {Item : Type} {encode : Item → Json} {decode : Json → Option Item}
    {items : List Item} (each : ∀ item ∈ items, decode (encode item) = some item) :
    list? decode (ofList encode items) = some items :=
  mapM_map_eq_some each

/-- A directory is decoded from the object of its entries if each value is. -/
theorem directory?_object {Item : Type} {encode : Item → Json} {decode : Json → Option Item}
    {directory : Directory Item}
    (each : ∀ entry ∈ directory.entries, decode (encode entry.2) = some entry.2) :
    directory? decode (.object (directory.entries.map fun entry => (entry.1, encode entry.2))) =
      some directory := by
  have entries : (directory.entries.map fun entry => (entry.1, encode entry.2)).mapM
      (fun member : Text × Json => (decode member.2).map fun item => (member.1, item)) =
        some directory.entries := by
    apply mapM_map_eq_some
    intro entry member
    rw [each entry member, Option.map_some]
  rw [directory?, entries, Option.map_some, Directory.ofList_entries]

/-! ## Values that stay as they are -/

/-- A value that can be stored and is in normal form. -/
structure IsTidy (limit : Nat) (value : Json) : Prop extends IsStorable limit value where
  normal : value.normalize = value

namespace IsTidy

theorem string (text : Text) : IsTidy 0 (.string text) where
  plain := .string text
  shallow := Nat.le_refl 0
  normal := rfl

theorem ofInt {value : Int} (fits : fitsWord value = true) : IsTidy 0 (.ofInt value) where
  plain := .number (isPlain_whole fits)
  shallow := Nat.le_refl 0
  normal := rfl

theorem ofNat {value : Nat} (fits : value < UInt64.size) : IsTidy 0 (.ofNat value) :=
  ofInt (fitsWord_natCast fits)

theorem ofWord (value : UInt32) : IsTidy 0 (.ofNat value.toNat) :=
  ofNat (Nat.lt_trans value.toNat_lt (by decide))

theorem ofList {Item : Type} {encode : Item → Json} {items : List Item} {limit : Nat}
    (each : ∀ item ∈ items, IsTidy limit (encode item)) :
    IsTidy (limit + 1) (.ofList encode items) where
  toIsStorable := by
    apply IsStorable.array
    intro element member
    rcases List.mem_map.mp member with ⟨item, isItem, rfl⟩
    exact (each item isItem).toIsStorable
  normal := by
    rw [Json.ofList, normalize, normalizeElements_eq, List.map_map]
    exact congrArg array (List.map_congr_left fun item isItem => (each item isItem).normal)

/-- A structure is tidy if its members are, and are written in the order of their names. -/
theorem ofMembers {members : List (String × Json)} {limit : Nat}
    (sorted : (members.map fun member => member.1.toList).Pairwise (· < ·))
    (each : ∀ member ∈ members, IsTidy limit member.2) :
    IsTidy (limit + 1) (.ofMembers members) where
  toIsStorable := by
    apply IsStorable.object
    intro member isMember
    rcases List.mem_map.mp isMember with ⟨source, isSource, rfl⟩
    exact (each source isSource).toIsStorable
  normal := by
    rw [normalize_ofMembers sorted]
    congr 1
    conv_rhs => rw [← List.map_id members]
    apply List.map_congr_left
    intro member isMember
    rw [(each member isMember).normal, id]

end IsTidy

end ZoneServices.Json
