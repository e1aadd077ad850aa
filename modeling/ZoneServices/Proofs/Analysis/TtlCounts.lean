import Mathlib.Data.List.Induction
import ZoneServices.Proofs.Analysis.UsualTtl

/-!
# Counting times to live

The most used time to live can also be found by counting.  One walk over the records counts in a
hash map how often each time to live is used, and the greatest entry of the map has the answer:
entries are compared by their counts, and of equal counts that of the lower time to live is the
greater.

A hash map may give its entries in any order.  The answer does not depend on it, because entries of
different times to live are never equally great.
-/

namespace ZoneServices

/-! ## Counts -/

/-- One more use of a time to live. -/
def countUse (counts : Std.HashMap UInt32 Nat) (ttl : UInt32) : Std.HashMap UInt32 Nat :=
  counts.alter ttl fun count => some (count.getD 0 + 1)

/-- How often each time to live of some records is used. -/
def ttlCounts (records : List Record) : Std.HashMap UInt32 Nat :=
  records.foldl (fun counts record => countUse counts record.ttl) ∅

/-- A map has the counts of some times to live and no others. -/
def AreCounts (counts : Std.HashMap UInt32 Nat) (ttls : List UInt32) : Prop :=
  ∀ ttl, counts[ttl]? = if ttl ∈ ttls then some (countTtl ttls ttl) else none

namespace AreCounts

variable {counts : Std.HashMap UInt32 Nat} {ttls : List UInt32}

theorem getD (areCounts : AreCounts counts ttls) (ttl : UInt32) :
    counts[ttl]?.getD 0 = countTtl ttls ttl := by
  rw [areCounts ttl]
  split
  · rfl
  · rename_i unused
    exact (List.count_eq_zero_of_not_mem unused).symm

theorem use (areCounts : AreCounts counts ttls) (ttl : UInt32) :
    AreCounts (countUse counts ttl) (ttls ++ [ttl]) := by
  intro other
  rw [countUse, Std.HashMap.getElem?_alter, areCounts.getD, countTtl, countTtl, List.count_append]
  by_cases same : ttl = other
  · subst same
    simp
  · have apart : other ≠ ttl := fun equal => same equal.symm
    simp [same, apart, areCounts other, countTtl]

/-- The entries of the map are the times to live that occur, with their counts. -/
theorem mem_toList_iff (areCounts : AreCounts counts ttls) {entry : UInt32 × Nat} :
    entry ∈ counts.toList ↔ entry.1 ∈ ttls ∧ countTtl ttls entry.1 = entry.2 := by
  rcases entry with ⟨ttl, count⟩
  rw [Std.HashMap.mem_toList_iff_getElem?_eq_some, areCounts ttl]
  simp

end AreCounts

/-- The walk over the records counts the uses of every time to live. -/
theorem areCounts_ttlCounts (records : List Record) :
    AreCounts (ttlCounts records) (records.map (·.ttl)) := by
  induction records using List.reverseRecOn with
  | nil => exact fun _ => Std.HashMap.getElem?_empty
  | append_singleton earlier record step =>
      rw [ttlCounts, List.foldl_append, ← ttlCounts, List.map_append]
      exact step.use record.ttl

/-! ## The greatest entry -/

/-- The greater of two items, the second if they are equally great. -/
def greaterOf {Item : Type} (compare : Item → Item → Ordering) (left right : Item) : Item :=
  if compare left right = .gt then left else right

/-- The greatest of some items, the last of those that are equally great. -/
def greatest? {Item : Type} (compare : Item → Item → Ordering) : List Item → Option Item
  | [] => none
  | first :: rest => some (rest.foldl (greaterOf compare) first)

theorem greatest?_eq_none_iff {Item : Type} {compare : Item → Item → Ordering}
    {items : List Item} : greatest? compare items = none ↔ items = [] := by
  cases items with
  | nil => exact iff_of_true rfl rfl
  | cons first rest => exact iff_of_false nofun nofun

section

variable {Item : Type} {compare : Item → Item → Ordering} [Std.TransCmp compare]

theorem isLE_greaterOf (left right : Item) :
    (greaterOf compare left right = left ∨ greaterOf compare left right = right)
      ∧ (compare left (greaterOf compare left right)).isLE = true
      ∧ (compare right (greaterOf compare left right)).isLE = true := by
  rw [greaterOf]
  split
  · rename_i greater
    exact ⟨.inl rfl, Std.ReflCmp.isLE_rfl,
      Ordering.isLE_of_eq_lt (Std.OrientedCmp.lt_of_gt greater)⟩
  · rename_i notGreater
    exact ⟨.inr rfl, Ordering.isLE_iff_ne_gt.mpr notGreater, Std.ReflCmp.isLE_rfl⟩

/-- The greatest of some items is one of them, and no other is greater. -/
theorem of_greatest?_eq_some {items : List Item} {greatest : Item}
    (found : greatest? compare items = some greatest) :
    greatest ∈ items ∧ ∀ other ∈ items, (compare other greatest).isLE = true := by
  cases items with
  | nil => cases found
  | cons first rest =>
      cases found
      exact @foldl_better Item (greaterOf compare) (fun best other => (compare other best).isLE)
        (fun _ => Std.ReflCmp.isLE_rfl) (fun best more => Std.TransCmp.isLE_trans more best)
        isLE_greaterOf first rest

end

/-- Compares entries by their counts; of equal counts that of the lower time to live is greater. -/
def compareCounts (left right : UInt32 × Nat) : Ordering :=
  (compare left.2 right.2).then (compare right.1 left.1)

instance : Std.TransCmp compareCounts :=
  have : Std.TransCmp fun left right : UInt32 × Nat => compareOn (·.1) right left :=
    Std.TransCmp.opposite
  inferInstanceAs (Std.TransCmp (compareLex (compareOn fun entry : UInt32 × Nat => entry.2)
    fun left right => compareOn (·.1) right left))

/-- Entries are compared by the preference between their times to live. -/
theorem isLE_compareCounts_iff {ttl other : UInt32} {ttls : List UInt32} :
    (compareCounts (other, countTtl ttls other) (ttl, countTtl ttls ttl)).isLE = true ↔
      IsPreferred ttls ttl other := by
  rw [compareCounts, Ordering.isLE_then_iff_or, Nat.compare_eq_lt, Nat.compare_eq_eq,
    Std.isLE_compare, IsPreferred]

/-- The greatest count is that of the most used time to live, in whatever order the counts come. -/
theorem map_greatest?_of_perm {records : List Record} {entries : List (UInt32 × Nat)}
    (same : entries.Perm (ttlCounts records).toList) :
    (greatest? compareCounts entries).map (·.1) = mostUsedTtl records := by
  have isEntry : ∀ {ttl count}, (ttl, count) ∈ entries ↔
      ttl ∈ records.map (·.ttl) ∧ countTtl (records.map (·.ttl)) ttl = count :=
    same.mem_iff.trans (areCounts_ttlCounts records).mem_toList_iff
  cases found : greatest? compareCounts entries with
  | none =>
      have noEntries := greatest?_eq_none_iff.mp found
      cases records with
      | nil => rfl
      | cons record rest =>
          have counted := isEntry.mpr ⟨List.mem_cons_self, rfl⟩
          rw [noEntries] at counted
          cases counted
  | some greatest =>
      rcases of_greatest?_eq_some found with ⟨member, isGreatest⟩
      rcases greatest with ⟨ttl, count⟩
      rcases isEntry.mp member with ⟨used, rfl⟩
      refine (mostUsedTtl_eq_some_iff.mpr ⟨used, ?_⟩).symm
      intro other isOther
      exact isLE_compareCounts_iff.mp (isGreatest _ (isEntry.mpr ⟨isOther, rfl⟩))

/-! ## The most used time to live -/

/--
The most used time to live is one that no other one outnumbers, and the lowest of those in front.
-/
theorem isMostUsed_iff {ttls : List UInt32} {ttl : UInt32} :
    IsMostUsed ttls ttl ↔
      ttl ∈ ttls ∧ ∀ other, other ≠ ttl → ttls.count other ≤ ttls.count ttl
        ∧ (ttls.count other = ttls.count ttl → ttl < other) := by
  constructor
  · rintro ⟨member, preferred⟩
    refine ⟨member, ?_⟩
    intro other apart
    by_cases used : other ∈ ttls
    · rcases preferred other used with fewer | ⟨often, lower⟩
      · exact ⟨Nat.le_of_lt fewer, fun often => absurd often (Nat.ne_of_lt fewer)⟩
      · exact ⟨Nat.le_of_eq often, fun _ => UInt32.lt_of_le_of_ne lower apart.symm⟩
    · have unused := List.count_eq_zero_of_not_mem used
      have positive := List.count_pos_iff.mpr member
      rw [unused]
      exact ⟨Nat.zero_le _, fun often => absurd often (Nat.ne_of_lt positive)⟩
  · rintro ⟨member, best⟩
    refine ⟨member, ?_⟩
    intro other _
    by_cases same : other = ttl
    · rw [same]
      exact .refl ttls ttl
    · rcases best other same with ⟨most, lowest⟩
      rcases Nat.lt_or_eq_of_le most with fewer | often
      · exact .inl fewer
      · exact .inr ⟨often, UInt32.le_of_lt (lowest often)⟩

/--
There is a most used time to live unless there are no records.  It is used by a record, at least as
often as any other, and it is lower than all others that are used as often.  The greatest entry of a
hash map that counts the uses tells it, whatever order the map is walked through in.
-/
theorem mostUsedTtl_exact (records : List Record) :
    (mostUsedTtl records = none ↔ records = [])
      ∧ (∀ ttl, mostUsedTtl records = some ttl ↔
        ttl ∈ records.map (·.ttl) ∧ ∀ other, other ≠ ttl →
          (records.map (·.ttl)).count other ≤ (records.map (·.ttl)).count ttl
            ∧ ((records.map (·.ttl)).count other = (records.map (·.ttl)).count ttl → ttl < other))
      ∧ ∀ entries, entries.Perm (ttlCounts records).toList →
        (greatest? compareCounts entries).map (·.1) = mostUsedTtl records :=
  ⟨mostUsedTtl_eq_none_iff, fun _ => mostUsedTtl_eq_some_iff.trans isMostUsed_iff,
    fun _ => map_greatest?_of_perm⟩

end ZoneServices
