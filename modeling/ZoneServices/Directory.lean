import ZoneServices.Text.Basic

/-!
# Directories

A directory files values under texts.  Its entries are in the order of their texts by code
point, and no two of them have the same text; both are part of the type.  Every change goes
through `alter`, and `get?` tells what a change does.
-/

namespace ZoneServices

/-- Values filed under texts, in the order of the texts. -/
structure Directory (Value : Type) where
  entries : List (Text × Value)
  sorted : entries.Pairwise fun earlier later => earlier.1 < later.1

namespace Directory

variable {Value : Type}

/-- The directory without entries. -/
def empty : Directory Value := ⟨[], .nil⟩

instance : EmptyCollection (Directory Value) := ⟨empty⟩

instance : Inhabited (Directory Value) := ⟨empty⟩

/-- The keys in their order. -/
def keys (directory : Directory Value) : List Text :=
  directory.entries.map Prod.fst

/-- The filed values, in the order of their texts. -/
def values (directory : Directory Value) : List Value :=
  directory.entries.map Prod.snd

/-- The value under a key. -/
def get? (directory : Directory Value) (key : Text) : Option Value :=
  directory.entries.lookup key

/-- Entries in which the value under a text is replaced by what `change` makes of it. -/
def alterEntries (key : Text) (change : Option Value → Value) :
    List (Text × Value) → List (Text × Value)
  | [] => [(key, change none)]
  | entry :: rest =>
    if key = entry.1 then (key, change (some entry.2)) :: rest
    else if key < entry.1 then (key, change none) :: entry :: rest
    else entry :: alterEntries key change rest

/-- Altering under a key touches no entry but that of the key. -/
theorem mem_alterEntries {key : Text} {change : Option Value → Value}
    {entries : List (Text × Value)}
    {entry : Text × Value} (member : entry ∈ alterEntries key change entries) :
    entry.1 = key ∨ entry ∈ entries := by
  induction entries with
  | nil =>
    simp only [alterEntries, List.mem_singleton] at member
    exact .inl (by rw [member])
  | cons first rest step =>
    unfold alterEntries at member
    split at member
    · rcases List.mem_cons.mp member with rfl | member
      · exact .inl rfl
      · exact .inr (List.mem_cons_of_mem _ member)
    · split at member
      · rcases List.mem_cons.mp member with rfl | member
        · exact .inl rfl
        · exact .inr member
      · rcases List.mem_cons.mp member with rfl | member
        · exact .inr List.mem_cons_self
        · exact (step member).imp_right (List.mem_cons_of_mem _)

/-- Altering under a key keeps the keys strictly ascending. -/
theorem sorted_alterEntries (key : Text) (change : Option Value → Value)
    {entries : List (Text × Value)}
    (sorted : entries.Pairwise fun earlier later => earlier.1 < later.1) :
    (alterEntries key change entries).Pairwise fun earlier later => earlier.1 < later.1 := by
  induction entries with
  | nil => simp [alterEntries]
  | cons first rest step =>
    have precedes := (List.pairwise_cons.mp sorted).1
    have others := (List.pairwise_cons.mp sorted).2
    unfold alterEntries
    split
    · rename_i same
      exact List.pairwise_cons.mpr ⟨fun entry member => same ▸ precedes entry member, others⟩
    · split
      · rename_i before
        refine List.pairwise_cons.mpr ⟨fun entry member => ?_, sorted⟩
        rcases List.mem_cons.mp member with rfl | member
        · exact before
        · exact List.lt_trans before (precedes entry member)
      · rename_i different notBefore
        refine List.pairwise_cons.mpr ⟨fun entry member => ?_, step others⟩
        rcases mem_alterEntries member with same | member
        · rw [same]
          exact (List.le_iff_lt_or_eq.mp (List.not_lt.mp notBefore)).resolve_right
            fun equal => different equal.symm
        · exact precedes entry member

theorem lookup_cons (key : Text) (entry : Text × Value) (entries : List (Text × Value)) :
    (entry :: entries).lookup key = if key = entry.1 then some entry.2 else entries.lookup key := by
  rw [List.lookup_cons]
  by_cases same : key = entry.1
  · simp [same]
  · simp [same, beq_eq_false_iff_ne.mpr same]

theorem lookup_eq_none_of_lt {key : Text} {entries : List (Text × Value)}
    (before : ∀ entry ∈ entries, key < entry.1) : entries.lookup key = none := by
  refine List.lookup_eq_none_iff.mpr fun entry member => ?_
  refine bne_iff_ne.mpr fun same => ?_
  have less := before entry member
  rw [← same] at less
  exact List.lt_irrefl _ less

/-- After altering, the key holds the changed value and every other key what it held. -/
theorem lookup_alterEntries (key : Text) (change : Option Value → Value)
    {entries : List (Text × Value)}
    (sorted : entries.Pairwise fun earlier later => earlier.1 < later.1) (other : Text) :
    (alterEntries key change entries).lookup other =
      if other = key then some (change (entries.lookup key)) else entries.lookup other := by
  induction entries with
  | nil => simp [alterEntries, lookup_cons]
  | cons first rest step =>
    obtain ⟨text, value⟩ := first
    have precedes := (List.pairwise_cons.mp sorted).1
    have others := (List.pairwise_cons.mp sorted).2
    by_cases same : key = text
    · subst same
      by_cases found : other = key <;> simp [alterEntries, lookup_cons, found]
    · by_cases before : key < text
      · have absent : rest.lookup key = none :=
          lookup_eq_none_of_lt fun entry member => List.lt_trans before (precedes entry member)
        simp [alterEntries, lookup_cons, same, before, absent]
      · by_cases found : other = text
        · subst found
          have different : other ≠ key := fun equal => same equal.symm
          simp [alterEntries, same, before, different]
        · simp [alterEntries, lookup_cons, same, before, found, step others]

/-- The directory in which the value under a text is replaced by what `change` makes of it. -/
def alter (directory : Directory Value) (key : Text) (change : Option Value → Value) :
    Directory Value :=
  ⟨alterEntries key change directory.entries, sorted_alterEntries key change directory.sorted⟩

@[simp]
theorem get?_empty (key : Text) : (empty : Directory Value).get? key = none := rfl

/-- A change shows under its own text alone. -/
theorem get?_alter (directory : Directory Value) (key : Text) (change : Option Value → Value)
    (other : Text) :
    (directory.alter key change).get? other =
      if other = key then some (change (directory.get? key)) else directory.get? other :=
  lookup_alterEntries key change directory.sorted other

/-- The directory of what `change` makes of every value. -/
def map {Other : Type} (change : Value → Other) (directory : Directory Value) : Directory Other :=
  ⟨directory.entries.map fun entry => (entry.1, change entry.2),
    List.pairwise_map.mpr directory.sorted⟩

/-- The directory with a value filed under a text, in place of any other. -/
def insert (directory : Directory Value) (key : Text) (value : Value) : Directory Value :=
  directory.alter key fun _ => value

/--
The directory that entries make one after the other; of two under one text the later one stays.
-/
def ofList (entries : List (Text × Value)) : Directory Value :=
  entries.foldl (fun directory entry => directory.insert entry.1 entry.2) empty

end Directory

end ZoneServices
