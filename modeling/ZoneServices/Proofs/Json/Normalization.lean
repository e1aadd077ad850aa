import ZoneServices.Json.Fields
import ZoneServices.Proofs.Filing
import ZoneServices.Proofs.Json.RoundTrip

/-!
# Values in normal form

A value in normal form has the members of every object in the order of their keys, the last one of
each key.  Its parts are among those of the value that it was made of, so what is plain stays so and
nothing is nested deeper, and making the normal form once more changes nothing.
-/

namespace ZoneServices.Json

theorem normalizeElements_eq (elements : List Json) :
    normalizeElements elements = elements.map normalize := by
  induction elements with
  | nil => rfl
  | cons element rest step => rw [normalizeElements, step, List.map_cons]

theorem normalizeMembers_eq (members : List (Text × Json)) :
    normalizeMembers members = members.map fun member => (member.1, normalize member.2) := by
  induction members with
  | nil => rfl
  | cons member rest step =>
      rcases member with ⟨key, value⟩
      rw [normalizeMembers, step, List.map_cons]

/-- Every member of an object in normal form is made of one of the object. -/
theorem exists_of_mem_normalized {members : List (Text × Json)} {member : Text × Json}
    (isMember : member ∈ (Directory.ofList (normalizeMembers members)).entries) :
    ∃ source ∈ members, member = (source.1, normalize source.2) := by
  have found := Directory.mem_of_mem_ofList isMember
  rw [normalizeMembers_eq] at found
  rcases List.mem_map.mp found with ⟨source, isSource, rfl⟩
  exact ⟨source, isSource, rfl⟩

/-- A plain value stays plain when it is normalized. -/
theorem IsPlain.normalize {value : Json} (plain : value.IsPlain) : value.normalize.IsPlain := by
  induction plain with
  | null => exact .null
  | bool value => exact .bool value
  | number plain => exact .number plain
  | string value => exact .string value
  | array each step =>
      rw [Json.normalize, normalizeElements_eq]
      apply IsPlain.array
      intro element member
      rcases List.mem_map.mp member with ⟨source, isSource, rfl⟩
      exact step source isSource
  | object each step =>
      rw [Json.normalize]
      apply IsPlain.object
      intro member isMember
      rcases exists_of_mem_normalized isMember with ⟨source, isSource, rfl⟩
      exact step source isSource

/-- A normalized value is normalized already. -/
theorem normalize_normalize {value : Json} (plain : value.IsPlain) :
    value.normalize.normalize = value.normalize := by
  induction plain with
  | null => rfl
  | bool value => rfl
  | number plain => rfl
  | string value => rfl
  | array each step =>
      rw [normalize, normalize, normalizeElements_eq, normalizeElements_eq, List.map_map]
      exact congrArg Json.array (List.map_congr_left step)
  | @object members each step =>
      have same : normalizeMembers (Directory.ofList (normalizeMembers members)).entries =
          (Directory.ofList (normalizeMembers members)).entries := by
        rw [normalizeMembers_eq]
        conv_rhs => rw [← List.map_id (Directory.ofList (normalizeMembers members)).entries]
        apply List.map_congr_left
        intro member isMember
        rcases exists_of_mem_normalized isMember with ⟨source, isSource, rfl⟩
        rw [step source isSource]
        rfl
      rw [normalize, normalize, same, Directory.ofList_entries]

/-! ## Readable values -/

theorem areReadable_of_forall {elements : List Json}
    (each : ∀ element ∈ elements, element.isReadable = true) : areReadable elements = true := by
  induction elements with
  | nil => rfl
  | cons element rest step =>
      rcases List.forall_mem_cons.mp each with ⟨first, others⟩
      rw [areReadable, first, step others]
      rfl

theorem areReadableMembers_of_forall {members : List (Text × Json)}
    (each : ∀ member ∈ members, member.2.isReadable = true) :
    areReadableMembers members = true := by
  induction members with
  | nil => rfl
  | cons member rest step =>
      rcases member with ⟨key, value⟩
      rcases List.forall_mem_cons.mp each with ⟨first, others⟩
      rw [areReadableMembers, first, step others]
      rfl

/-- All parts of a plain value can be read. -/
theorem IsPlain.isReadable {value : Json} (plain : value.IsPlain) : value.isReadable = true := by
  induction plain with
  | null => rfl
  | bool value => rfl
  | number plain => rfl
  | string value => rfl
  | array each step => exact areReadable_of_forall step
  | object each step => exact areReadableMembers_of_forall step

/-! ## Depth -/

theorem depthOfElements_le_iff {elements : List Json} {limit : Nat} :
    depthOfElements elements ≤ limit ↔ ∀ element ∈ elements, element.depth ≤ limit := by
  induction elements with
  | nil => simp [depthOfElements]
  | cons element rest step => rw [depthOfElements, Nat.max_le, step, List.forall_mem_cons]

theorem depthOfMembers_le_iff {members : List (Text × Json)} {limit : Nat} :
    depthOfMembers members ≤ limit ↔ ∀ member ∈ members, member.2.depth ≤ limit := by
  induction members with
  | nil => simp [depthOfMembers]
  | cons member rest step =>
      rcases member with ⟨key, value⟩
      rw [depthOfMembers, Nat.max_le, step, List.forall_mem_cons]

theorem depth_array_le {elements : List Json} {limit : Nat}
    (each : ∀ element ∈ elements, element.depth ≤ limit) :
    (array elements).depth ≤ limit + 1 := by
  rw [depth]
  exact Nat.add_le_add_right (depthOfElements_le_iff.mpr each) 1

theorem depth_object_le {members : List (Text × Json)} {limit : Nat}
    (each : ∀ member ∈ members, member.2.depth ≤ limit) :
    (object members).depth ≤ limit + 1 := by
  rw [depth]
  exact Nat.add_le_add_right (depthOfMembers_le_iff.mpr each) 1

/-- No value gets deeper when it is normalized. -/
theorem depth_normalize_le {value : Json} (plain : value.IsPlain) :
    value.normalize.depth ≤ value.depth := by
  induction plain with
  | null => exact Nat.le_refl _
  | bool value => exact Nat.le_refl _
  | number plain => exact Nat.le_refl _
  | string value => exact Nat.le_refl _
  | @array elements each step =>
      rw [normalize, normalizeElements_eq]
      apply depth_array_le
      intro element member
      rcases List.mem_map.mp member with ⟨source, isSource, rfl⟩
      exact (step source isSource).trans (depthOfElements_le_iff.mp (Nat.le_refl _) source isSource)
  | @object members each step =>
      rw [normalize]
      apply depth_object_le
      intro member isMember
      rcases exists_of_mem_normalized isMember with ⟨source, isSource, rfl⟩
      exact (step source isSource).trans (depthOfMembers_le_iff.mp (Nat.le_refl _) source isSource)

/-! ## Values that can be stored -/

/-- A plain value that is nested no deeper than a limit. -/
structure IsStorable (limit : Nat) (value : Json) : Prop where
  plain : value.IsPlain
  shallow : value.depth ≤ limit

namespace IsStorable

variable {limit : Nat}

/-- What can be stored within a limit can be stored within a higher one. -/
theorem mono {higher : Nat} (within : limit ≤ higher) {value : Json}
    (storable : IsStorable limit value) : IsStorable higher value :=
  ⟨storable.plain, storable.shallow.trans within⟩

theorem array {elements : List Json} (each : ∀ element ∈ elements, IsStorable limit element) :
    IsStorable (limit + 1) (.array elements) where
  plain := .array fun element member => (each element member).plain
  shallow := depth_array_le fun element member => (each element member).shallow

theorem object {members : List (Text × Json)}
    (each : ∀ member ∈ members, IsStorable limit member.2) :
    IsStorable (limit + 1) (.object members) where
  plain := .object fun member isMember => (each member isMember).plain
  shallow := depth_object_le fun member isMember => (each member isMember).shallow

/-- A value that can be stored can be stored normalized. -/
theorem normalize {value : Json} (storable : IsStorable limit value) :
    IsStorable limit value.normalize where
  plain := storable.plain.normalize
  shallow := (depth_normalize_le storable.plain).trans storable.shallow

end IsStorable

/-- A document that can be stored is read back whole. -/
theorem wholeDocument?_eq {value : Json} (storable : IsStorable depthLimit value) :
    wholeDocument? value = some value := by
  rw [wholeDocument?, storable.plain.isReadable, decide_eq_true storable.shallow]
  rfl

end ZoneServices.Json
