import Mathlib.Data.List.Induction
import Mathlib.Data.List.Nodup
import ZoneServices.Analysis.Pass
import ZoneServices.Kind.Builtin

/-!
# The order of a registry

A registry is made by a sequence of registrations.  Those whose key is taken are refused, so the
first one of each key is accepted.  The entries are the accepted registrations in the order of their
priorities, and those of one priority in the order in which they were accepted, of which the number
of an entry tells.

A new entry belongs behind all entries of no higher priority.  Since the entries are in order, this
place is also found by halving.
-/

namespace ZoneServices

variable {Memory Body : Type} [ServiceBody Body]

/-! ## Sequences of registrations -/

namespace Registration

/-- The first registration of each key. -/
def accepted : List (Registration Memory Body) → List (Registration Memory Body)
  | [] => []
  | first :: rest => first :: (accepted rest).filter fun later => later.kind != first.kind

/-- Accepted registrations as entries that are numbered in the order of acceptance. -/
def numbered (registrations : List (Registration Memory Body)) :
    List (RegistryEntry Memory Body) :=
  registrations.zipIdx.map fun (registration, number) => { registration with sequence := number }

/-- The first registration of a key is the accepted one. -/
theorem find?_accepted (registrations : List (Registration Memory Body)) (kind : Text) :
    (accepted registrations).find? (·.kind == kind) = registrations.find? (·.kind == kind) := by
  induction registrations with
  | nil => rfl
  | cons first rest step =>
      rw [accepted, List.find?_cons, List.find?_cons]
      by_cases same : first.kind = kind
      · rw [beq_iff_eq.mpr same]
      · have unfiltered : ∀ later : Registration Memory Body,
            decide ((later.kind != first.kind) = true ∧ (later.kind == kind) = true) =
              (later.kind == kind) := by
          intro later
          by_cases wanted : later.kind = kind
          · simp [wanted, Ne.symm same]
          · simp [wanted]
        rw [beq_eq_false_iff_ne.mpr same, ← step, List.find?_filter]
        simp only [unfiltered]

/-- The keys of the accepted registrations are those that were registered. -/
theorem mem_kinds_accepted {registrations : List (Registration Memory Body)} {kind : Text} :
    kind ∈ (accepted registrations).map (·.kind) ↔ kind ∈ registrations.map (·.kind) := by
  have isFound : ∀ list : List (Registration Memory Body),
      kind ∈ list.map (·.kind) ↔ (list.find? (·.kind == kind)).isSome := by
    intro list
    rw [List.find?_isSome, List.mem_map]
    simp only [beq_iff_eq]
  rw [isFound, isFound, find?_accepted]

theorem nodup_kinds_accepted (registrations : List (Registration Memory Body)) :
    ((accepted registrations).map (·.kind)).Nodup := by
  induction registrations with
  | nil => exact List.nodup_nil
  | cons first rest step =>
      rw [accepted, List.map_cons, List.nodup_cons]
      constructor
      · intro member
        rcases List.mem_map.mp member with ⟨later, kept, same⟩
        have different := (List.mem_filter.mp kept).2
        rw [same, bne_self_eq_false] at different
        cases different
      · exact step.sublist (List.filter_sublist.map _)

/-- A registration whose key is new is accepted. -/
theorem accepted_append_of_new {registrations : List (Registration Memory Body)}
    {last : Registration Memory Body} (new : last.kind ∉ registrations.map (·.kind)) :
    accepted (registrations ++ [last]) = accepted registrations ++ [last] := by
  induction registrations with
  | nil => rfl
  | cons first rest step =>
      have newer := not_or.mp (List.mem_cons.not.mp new)
      rw [List.cons_append, accepted, accepted, step newer.2, List.filter_append,
        List.filter_singleton, bne_iff_ne.mpr newer.1]
      rfl

/-- A registration whose key is known is not accepted. -/
theorem accepted_append_of_known {registrations : List (Registration Memory Body)}
    {last : Registration Memory Body} (known : last.kind ∈ registrations.map (·.kind)) :
    accepted (registrations ++ [last]) = accepted registrations := by
  induction registrations with
  | nil => cases known
  | cons first rest step =>
      rw [List.cons_append, accepted, accepted]
      by_cases later : last.kind ∈ rest.map (·.kind)
      · rw [step later]
      · have same : last.kind = first.kind := (List.mem_cons.mp known).resolve_right later
        rw [accepted_append_of_new later, List.filter_append, List.filter_singleton, same,
          bne_self_eq_false]
        exact congrArg (first :: ·) (List.append_nil _)

end Registration

/-! ## The order of entries -/

/-- Whether an entry stands before another: by priority, and by number at the same priority. -/
def RegistryEntry.Precedes (first second : RegistryEntry Memory Body) : Prop :=
  first.priority < second.priority
    ∨ (first.priority = second.priority ∧ first.sequence < second.sequence)

theorem RegistryEntry.Precedes.priority_le {first second : RegistryEntry Memory Body}
    (precedes : first.Precedes second) : first.priority ≤ second.priority := by
  rcases precedes with lower | ⟨same, _⟩
  · exact Int32.le_of_lt lower
  · rw [same]
    exact Int32.le_refl _

theorem length_numbered (registrations : List (Registration Memory Body)) :
    (Registration.numbered registrations).length = registrations.length := by
  rw [Registration.numbered, List.length_map, List.length_zipIdx]

/-- The entry at a place in the order of acceptance has the number of that place. -/
theorem sequence_of_getElem?_numbered {registrations : List (Registration Memory Body)}
    {place : Nat} {entry : RegistryEntry Memory Body}
    (found : (Registration.numbered registrations)[place]? = some entry) :
    entry.sequence = place := by
  rw [Registration.numbered, List.getElem?_map, List.getElem?_zipIdx] at found
  rcases Option.map_eq_some_iff.mp found with ⟨pair, here, rfl⟩
  rcases Option.map_eq_some_iff.mp here with ⟨registration, _, rfl⟩
  exact Nat.zero_add place

/-- No two entries have the same number. -/
theorem sequence_injective_numbered {registrations : List (Registration Memory Body)}
    {first second : RegistryEntry Memory Body}
    (firstMember : first ∈ Registration.numbered registrations)
    (secondMember : second ∈ Registration.numbered registrations)
    (same : first.sequence = second.sequence) : first = second := by
  rcases List.getElem?_of_mem firstMember with ⟨firstPlace, firstFound⟩
  rcases List.getElem?_of_mem secondMember with ⟨secondPlace, secondFound⟩
  rw [sequence_of_getElem?_numbered firstFound, sequence_of_getElem?_numbered secondFound] at same
  subst same
  exact Option.some.inj (firstFound.symm.trans secondFound)

/-- The comparison that entries are sorted by. -/
def RegistryEntry.byPriority (first second : RegistryEntry Memory Body) : Bool :=
  decide (first.priority ≤ second.priority)

theorem byPriority_trans (first second third : RegistryEntry Memory Body)
    (earlier : first.byPriority second = true) (later : second.byPriority third = true) :
    first.byPriority third = true :=
  decide_eq_true (Int32.le_trans (of_decide_eq_true earlier) (of_decide_eq_true later))

theorem byPriority_total (first second : RegistryEntry Memory Body) :
    (first.byPriority second || second.byPriority first) = true := by
  rw [Bool.or_eq_true]
  exact (Int32.le_total first.priority second.priority).imp decide_eq_true decide_eq_true

/--
Sorting numbered entries by priority keeps the order of their numbers where priorities are equal.
-/
theorem pairwise_mergeSort_numbered (registrations : List (Registration Memory Body)) :
    ((Registration.numbered registrations).mergeSort RegistryEntry.byPriority).Pairwise
      fun first second => first.priority < second.priority
        ∨ (first.priority = second.priority ∧ first.sequence ≤ second.sequence) := by
  -- The library states that the sort is stable by sorting entries together with their places.
  rw [← List.mergeSort_zipIdx, List.pairwise_map]
  refine (List.pairwise_mergeSort (List.zipIdxLE_trans byPriority_trans)
    (List.zipIdxLE_total byPriority_total) _).imp_of_mem ?_
  rintro ⟨first, firstPlace⟩ ⟨second, secondPlace⟩ firstMember secondMember ordered
  have numberOf : ∀ {entry : RegistryEntry Memory Body} {place : Nat},
      (entry, place) ∈ (Registration.numbered registrations).zipIdx.mergeSort
        (List.zipIdxLE RegistryEntry.byPriority) → entry.sequence = place := by
    intro entry place member
    exact sequence_of_getElem?_numbered
      (List.mem_zipIdx_iff_getElem?.mp ((List.mergeSort_perm _ _).mem_iff.mp member))
  rw [numberOf firstMember, numberOf secondMember]
  rw [List.zipIdxLE] at ordered
  split at ordered
  · rename_i firstLow
    split at ordered
    · rename_i secondLow
      exact .inr ⟨Int32.le_antisymm (of_decide_eq_true firstLow) (of_decide_eq_true secondLow),
        of_decide_eq_true ordered⟩
    · rename_i secondHigh
      exact .inl (Int32.not_le.mp fun low => secondHigh (decide_eq_true low))
  · cases ordered

/-- Entries in order are the sorted ones. -/
theorem eq_mergeSort_of_perm {registrations : List (Registration Memory Body)}
    {entries : List (RegistryEntry Memory Body)}
    (perm : entries.Perm (Registration.numbered registrations))
    (ordered : entries.Pairwise RegistryEntry.Precedes) :
    entries = (Registration.numbered registrations).mergeSort RegistryEntry.byPriority := by
  refine List.Perm.eq_of_pairwise ?_ (ordered.imp ?_)
    (pairwise_mergeSort_numbered registrations) (perm.trans (List.mergeSort_perm _ _).symm)
  · intro first second firstMember secondMember forth back
    apply sequence_injective_numbered (perm.mem_iff.mp firstMember)
      ((List.mergeSort_perm _ _).mem_iff.mp secondMember)
    rcases forth with lower | ⟨_, firstSmall⟩
    · rcases back with higher | ⟨same, _⟩
      · exact absurd (Int32.lt_trans lower higher) Int32.lt_irrefl
      · rw [same] at lower
        exact absurd lower Int32.lt_irrefl
    · rcases back with higher | ⟨_, secondSmall⟩
      · rename_i same
        rw [same] at higher
        exact absurd higher Int32.lt_irrefl
      · exact Nat.le_antisymm firstSmall secondSmall
  · intro first second precedes
    exact precedes.imp_right fun tied => ⟨tied.1, Nat.le_of_lt tied.2⟩

/-! ## The place of a new entry -/

namespace Registry

/-- Inserting an entry adds it and leaves the others. -/
theorem perm_insertEntry (entry : RegistryEntry Memory Body)
    (entries : List (RegistryEntry Memory Body)) :
    (insertEntry entry entries).Perm (entry :: entries) := by
  induction entries with
  | nil => exact List.Perm.refl _
  | cons first rest step =>
      rw [insertEntry]
      split
      · exact (step.cons first).trans (List.Perm.swap entry first rest)
      · exact List.Perm.refl _

/-- The newest entry stands behind all others of its priority. -/
theorem ordered_insertEntry {entry : RegistryEntry Memory Body}
    {entries : List (RegistryEntry Memory Body)}
    (ordered : entries.Pairwise RegistryEntry.Precedes)
    (newest : ∀ other ∈ entries, other.sequence < entry.sequence) :
    (insertEntry entry entries).Pairwise RegistryEntry.Precedes := by
  induction entries with
  | nil => exact List.pairwise_singleton _ _
  | cons first rest step =>
      rcases List.pairwise_cons.mp ordered with ⟨firstPrecedes, restOrdered⟩
      rcases List.forall_mem_cons.mp newest with ⟨firstOlder, restOlder⟩
      rw [insertEntry]
      split
      · rename_i low
        refine List.pairwise_cons.mpr ⟨?_, step restOrdered restOlder⟩
        intro other member
        rcases List.mem_cons.mp ((perm_insertEntry entry rest).mem_iff.mp member) with rfl | later
        · by_cases same : first.priority = other.priority
          · exact .inr ⟨same, firstOlder⟩
          · exact .inl (Int32.lt_of_le_of_ne low same)
        · exact firstPrecedes other later
      · rename_i high
        have lower : entry.priority < first.priority := Int32.not_le.mp high
        refine List.pairwise_cons.mpr ⟨?_, ordered⟩
        intro other member
        rcases List.mem_cons.mp member with rfl | later
        · exact .inl lower
        · exact .inl (Int32.lt_of_lt_of_le lower (firstPrecedes other later).priority_le)

/--
The place between two others, found by halving, up to which all places pass a test and from which on
none does.
-/
def halvingPlace (passes : Nat → Bool) (low high : Nat) : Nat :=
  if low < high then
    if passes ((low + high) / 2) then halvingPlace passes ((low + high) / 2 + 1) high
    else halvingPlace passes low ((low + high) / 2)
  else
    low
termination_by high - low

/-- Halving finds the place at which a divided range passes over from one answer to the other. -/
theorem halvingPlace_eq {passes : Nat → Bool} {low place high : Nat} (lowest : low ≤ place)
    (highest : place ≤ high)
    (divided : ∀ index, low ≤ index → index < high → (passes index = true ↔ index < place)) :
    halvingPlace passes low high = place := by
  fun_induction halvingPlace passes low high with
  | case1 low high proper passed step =>
      have inside := (divided ((low + high) / 2) (by omega) (by omega)).mp passed
      apply step (by omega) highest
      intro index above below
      exact divided index (by omega) below
  | case2 low high proper failed step =>
      have outside := mt (divided ((low + high) / 2) (by omega) (by omega)).mpr failed
      apply step lowest (by omega)
      intro index above below
      exact divided index above (by omega)
  | case3 low high closed => omega

/-- Number of entries at the front whose priority is not higher than another. -/
def lowerCount (priority : Int32) (entries : List (RegistryEntry Memory Body)) : Nat :=
  (entries.takeWhile fun entry => decide (entry.priority ≤ priority)).length

/-- A new entry is inserted behind as many entries as have no higher priority. -/
theorem insertEntry_eq_insertIdx (entry : RegistryEntry Memory Body)
    (entries : List (RegistryEntry Memory Body)) :
    insertEntry entry entries = entries.insertIdx (lowerCount entry.priority entries) entry := by
  induction entries with
  | nil => rfl
  | cons first rest step =>
      rw [insertEntry, lowerCount, List.takeWhile_cons]
      by_cases low : first.priority ≤ entry.priority
      · rw [if_pos low, if_pos (decide_eq_true low), step]
        rfl
      · rw [if_neg low, if_neg (mt of_decide_eq_true low)]
        rfl

/-- Among entries in order, just those at the front have no higher priority. -/
theorem priority_le_iff_lt_lowerCount {entries : List (RegistryEntry Memory Body)}
    (ordered : entries.Pairwise RegistryEntry.Precedes) (priority : Int32) {index : Nat}
    (inside : index < entries.length) :
    entries[index].priority ≤ priority ↔ index < lowerCount priority entries := by
  induction entries generalizing index with
  | nil => cases inside
  | cons first rest step =>
      rcases List.pairwise_cons.mp ordered with ⟨firstPrecedes, restOrdered⟩
      rw [lowerCount, List.takeWhile_cons]
      by_cases low : first.priority ≤ priority
      · rw [if_pos (decide_eq_true low), List.length_cons]
        cases index with
        | zero => exact ⟨fun _ => Nat.zero_lt_succ _, fun _ => low⟩
        | succ index =>
            rw [Nat.add_lt_add_iff_right]
            exact step restOrdered (Nat.lt_of_succ_lt_succ inside)
      · rw [if_neg (mt of_decide_eq_true low)]
        refine ⟨fun lower => absurd ?_ low, fun none => absurd none (Nat.not_lt_zero _)⟩
        cases index with
        | zero => exact lower
        | succ index =>
            exact Int32.le_trans
              (firstPrecedes _ (List.getElem_mem (Nat.lt_of_succ_lt_succ inside))).priority_le lower

/-- Halving finds the place of a new entry among entries in order. -/
theorem insertEntry_eq_insertIdx_halvingPlace {entries : List (RegistryEntry Memory Body)}
    (ordered : entries.Pairwise RegistryEntry.Precedes) (entry : RegistryEntry Memory Body) :
    insertEntry entry entries = entries.insertIdx
      (halvingPlace (fun index => (entries[index]?).any (·.priority ≤ entry.priority)) 0
        entries.length) entry := by
  rw [insertEntry_eq_insertIdx, halvingPlace_eq (Nat.zero_le _)]
  · exact (List.takeWhile_prefix _).length_le
  · intro index _ inside
    rw [List.getElem?_eq_getElem inside, Option.any_some, decide_eq_true_iff]
    exact priority_le_iff_lt_lowerCount ordered entry.priority inside

/-! ## Sequences of registrations -/

/-- The registry after an attempt to register a kind. -/
def after (registry : Registry Memory Body) (registration : Registration Memory Body) :
    Registry Memory Body :=
  match registry.register registration with
  | .ok registry => registry
  | .error _ => registry

/-- The registry that some attempts to register kinds make, one after the other. -/
def ofCalls (registrations : List (Registration Memory Body)) : Registry Memory Body :=
  registrations.foldl after empty

theorem ofCalls_append_singleton (registrations : List (Registration Memory Body))
    (last : Registration Memory Body) :
    ofCalls (registrations ++ [last]) = (ofCalls registrations).after last := by
  rw [ofCalls, List.foldl_append]
  rfl

theorem register_of_known {registry : Registry Memory Body}
    {registration : Registration Memory Body}
    (known : registration.kind ∈ registry.entries.map (·.kind)) :
    registry.register registration = .error (.duplicateKind registration.kind) := by
  rcases List.mem_map.mp known with ⟨entry, member, same⟩
  have found : registry.entries.any (·.kind == registration.kind) = true :=
    List.any_eq_true.mpr ⟨entry, member, beq_iff_eq.mpr same⟩
  rw [register, if_pos found]

/-- A registration of a new key takes the next number and moves the counter on. -/
theorem register_of_new {registry : Registry Memory Body}
    {registration : Registration Memory Body}
    (new : registration.kind ∉ registry.entries.map (·.kind)) :
    registry.register registration =
      .ok ⟨insertEntry { registration with sequence := registry.registered } registry.entries,
        registry.registered + 1⟩ := by
  have absent : ¬ registry.entries.any (·.kind == registration.kind) = true := by
    intro found
    rcases List.any_eq_true.mp found with ⟨entry, member, same⟩
    exact new (List.mem_map.mpr ⟨entry, member, beq_iff_eq.mp same⟩)
  rw [register, if_neg absent]

/-- Whether the entries of a registry are some accepted registrations in order. -/
structure Holds (registry : Registry Memory Body)
    (accepted : List (Registration Memory Body)) : Prop where
  perm : registry.entries.Perm (Registration.numbered accepted)
  ordered : registry.entries.Pairwise RegistryEntry.Precedes
  /-- The counter of a registry, which every acceptance takes on by one. -/
  registered : registry.registered = accepted.length

namespace Holds

variable {registry : Registry Memory Body} {accepted : List (Registration Memory Body)}

/-- The entries hold the accepted registrations. -/
theorem map_toRegistration (holds : registry.Holds accepted) :
    (registry.entries.map (·.toRegistration)).Perm accepted := by
  have numbered : (Registration.numbered accepted).map (·.toRegistration) = accepted := by
    rw [Registration.numbered, List.map_map]
    exact List.zipIdx_map_fst 0 accepted
  rw [← numbered]
  exact holds.perm.map _

theorem kinds (holds : registry.Holds accepted) :
    (registry.entries.map (·.kind)).Perm (accepted.map (·.kind)) := by
  have kinds := holds.map_toRegistration.map (·.kind)
  rw [List.map_map] at kinds
  exact kinds

theorem size_eq (holds : registry.Holds accepted) : registry.size = accepted.length := by
  rw [size, holds.perm.length_eq, length_numbered]

/-- The counter of a registry is the number of its entries. -/
theorem registered_eq_size (holds : registry.Holds accepted) :
    registry.registered = registry.size := by
  rw [holds.registered, holds.size_eq]

/-- The entries have all numbers below the counter, each one once. -/
theorem sequences (holds : registry.Holds accepted) :
    (registry.entries.map (·.sequence)).Perm (List.range registry.registered) := by
  have numbers : (Registration.numbered accepted).map (·.sequence) =
      List.range accepted.length := by
    rw [Registration.numbered, List.map_map, List.range_eq_range']
    exact List.zipIdx_map_snd 0 accepted
  rw [holds.registered, ← numbers]
  exact holds.perm.map _

/-- A registration of a new key joins the accepted ones. -/
theorem insert (holds : registry.Holds accepted) (last : Registration Memory Body) :
    Holds ⟨insertEntry { last with sequence := registry.registered } registry.entries,
      registry.registered + 1⟩ (accepted ++ [last]) where
  perm := by
    have numbered : Registration.numbered (accepted ++ [last]) =
        Registration.numbered accepted ++ [{ last with sequence := registry.registered }] := by
      rw [Registration.numbered, List.zipIdx_append, List.map_append, Nat.zero_add,
        holds.registered]
      rfl
    rw [numbered]
    exact (perm_insertEntry _ _).trans
      ((holds.perm.cons _).trans (List.perm_append_singleton _ _).symm)
  ordered := by
    apply ordered_insertEntry holds.ordered
    intro other member
    have number : other.sequence ∈ List.range registry.registered :=
      holds.sequences.mem_iff.mp (List.mem_map_of_mem member)
    exact List.mem_range.mp number
  registered := by
    rw [holds.registered, List.length_append, List.length_singleton]

end Holds

/-- Attempts to register kinds make a registry of the accepted registrations. -/
theorem holds_ofCalls (registrations : List (Registration Memory Body)) :
    (ofCalls registrations).Holds (Registration.accepted registrations) := by
  induction registrations using List.reverseRecOn with
  | nil => exact ⟨List.Perm.refl _, List.Pairwise.nil, rfl⟩
  | append_singleton registrations last step =>
      have taken : last.kind ∈ (ofCalls registrations).entries.map (·.kind) ↔
          last.kind ∈ registrations.map (·.kind) := by
        rw [step.kinds.mem_iff, Registration.mem_kinds_accepted]
      rw [ofCalls_append_singleton, after]
      by_cases known : last.kind ∈ registrations.map (·.kind)
      · rw [register_of_known (taken.mpr known), Registration.accepted_append_of_known known]
        exact step
      · rw [register_of_new (mt taken.mp known), Registration.accepted_append_of_new known]
        exact step.insert last

/-! ## Two orders of registration -/

/-- Recognizers run alike in two lists of entries that differ in their numbers alone. -/
theorem runRecognizers_congr {left right : List (RegistryEntry Memory Body)}
    (same : left.map (·.toRegistration) = right.map (·.toRegistration))
    (scene : Scene Memory Body) : runRecognizers scene left = runRecognizers scene right := by
  induction left generalizing right scene with
  | nil =>
      rw [List.map_eq_nil_iff.mp same.symm]
  | cons first rest step =>
      cases right with
      | nil => cases same
      | cons head others =>
          rcases List.cons.inj same with ⟨sameHead, sameRest⟩
          have recognizers : first.recognizer = head.recognizer :=
            congrArg Registration.recognizer sameHead
          have kinds : first.kind = head.kind := congrArg Registration.kind sameHead
          rw [runRecognizers, runRecognizers, recognizers, kinds]
          cases head.recognizer with
          | none => exact step sameRest scene
          | some recognizer =>
              dsimp only
              split
              · exact step sameRest _
              · rfl

/-- Accepted registrations of different priorities stand in one order alone. -/
theorem Holds.map_toRegistration_eq {left right : Registry Memory Body}
    {first second : List (Registration Memory Body)} (leftHolds : left.Holds first)
    (rightHolds : right.Holds second) (perm : first.Perm second)
    (apart : (first.map (·.priority)).Nodup) :
    left.entries.map (·.toRegistration) = right.entries.map (·.toRegistration) := by
  have sorted : ∀ {registry : Registry Memory Body} {accepted : List (Registration Memory Body)},
      registry.Holds accepted → (registry.entries.map (·.toRegistration)).Pairwise
        fun earlier later => earlier.priority ≤ later.priority := by
    intro registry accepted holds
    exact List.pairwise_map.mpr (holds.ordered.imp RegistryEntry.Precedes.priority_le)
  refine List.Perm.eq_of_pairwise ?_ (sorted leftHolds) (sorted rightHolds)
    (leftHolds.map_toRegistration.trans (perm.trans rightHolds.map_toRegistration.symm))
  intro earlier later earlierMember laterMember forth back
  exact List.inj_on_of_nodup_map apart (leftHolds.map_toRegistration.mem_iff.mp earlierMember)
    (perm.mem_iff.mpr (rightHolds.map_toRegistration.mem_iff.mp laterMember))
    (Int32.le_antisymm forth back)

/-! ## What registrations make -/

/-- Whether a registry is what some attempts to register kinds make of an empty one. -/
structure IsMadeBy (registry : Registry Memory Body)
    (registrations : List (Registration Memory Body)) : Prop where
  /-- The accepted registrations are sorted by priority, in the order of acceptance at each. -/
  sorted : registry.entries =
    (Registration.numbered (Registration.accepted registrations)).mergeSort
      RegistryEntry.byPriority
  distinct : (registry.entries.map (·.kind)).Nodup
  /-- The counter of a registry tells how many kinds it has. -/
  counted : registry.registered = registry.size
  /-- The entries have taken all numbers that the counter has gone through. -/
  sequences : (registry.entries.map (·.sequence)).Perm (List.range registry.registered)
  refused : ∀ next : Registration Memory Body,
    registry.register next = .error (.duplicateKind next.kind) ↔
      next.kind ∈ (Registration.accepted registrations).map (·.kind)
  /-- A refused registration leaves everything as it was, numbers included. -/
  unchanged : ∀ next : Registration Memory Body,
    next.kind ∈ (Registration.accepted registrations).map (·.kind) →
      ofCalls (registrations ++ [next]) = registry
  /-- Another registration is inserted at the place that halving finds, numbered by the counter. -/
  inserted : ∀ next : Registration Memory Body,
    next.kind ∉ (Registration.accepted registrations).map (·.kind) →
      (ofCalls (registrations ++ [next])).entries = registry.entries.insertIdx
        (halvingPlace (fun index => (registry.entries[index]?).any (·.priority ≤ next.priority)) 0
          registry.size)
        { next with sequence := registry.registered }
  found : ∀ kind, (∃ entry, registry.find kind = .ok entry) ↔
    kind ∈ (Registration.accepted registrations).map (·.kind)
  /-- A key stands for the first registration that it was given in. -/
  first : ∀ kind entry, registry.find kind = .ok entry →
    registrations.find? (·.kind == kind) = some entry.toRegistration

theorem find_eq_ok_iff {registry : Registry Memory Body} {kind : Text}
    {entry : RegistryEntry Memory Body} :
    registry.find kind = .ok entry ↔
      registry.entries.find? (·.kind == kind) = some entry := by
  rw [find]
  cases registry.entries.find? (·.kind == kind) with
  | none => simp
  | some other => simp

/-- A kind is found exactly if a registration of it was accepted. -/
theorem Holds.exists_find_iff {registry : Registry Memory Body}
    {accepted : List (Registration Memory Body)} (holds : registry.Holds accepted) (kind : Text) :
    (∃ entry, registry.find kind = .ok entry) ↔ kind ∈ accepted.map (·.kind) := by
  simp only [find_eq_ok_iff]
  rw [← Option.isSome_iff_exists, List.find?_isSome, ← holds.kinds.mem_iff, List.mem_map]
  simp only [beq_iff_eq]

theorem Holds.first {registry : Registry Memory Body}
    {registrations : List (Registration Memory Body)}
    (holds : registry.Holds (Registration.accepted registrations)) {kind : Text}
    {entry : RegistryEntry Memory Body} (found : registry.find kind = .ok entry) :
    registrations.find? (·.kind == kind) = some entry.toRegistration := by
  have here := find_eq_ok_iff.mp found
  have same : entry.kind = kind := by simpa using List.find?_some here
  have member : entry.toRegistration ∈ Registration.accepted registrations :=
    holds.map_toRegistration.mem_iff.mp (List.mem_map_of_mem (List.mem_of_find?_eq_some here))
  rw [← Registration.find?_accepted]
  cases accepted : (Registration.accepted registrations).find? (·.kind == kind) with
  | none =>
      have different := List.find?_eq_none.mp accepted _ member
      exact absurd (beq_iff_eq.mpr same) different
  | some other =>
      have otherSame : other.kind = kind := by simpa using List.find?_some accepted
      have equal : other = entry.toRegistration :=
        List.inj_on_of_nodup_map (Registration.nodup_kinds_accepted registrations)
          (List.mem_of_find?_eq_some accepted) member (otherSame.trans same.symm)
      rw [equal]

/-- Attempts to register kinds make a registry by the laws of one. -/
theorem isMadeBy_ofCalls (registrations : List (Registration Memory Body)) :
    (ofCalls registrations).IsMadeBy registrations := by
  have holds := holds_ofCalls registrations
  -- The registry looks for a key among its entries, the laws among the accepted registrations.
  have taken : ∀ kind, kind ∈ (ofCalls registrations).entries.map (·.kind) ↔
      kind ∈ (Registration.accepted registrations).map (·.kind) := by
    intro kind
    exact holds.kinds.mem_iff
  constructor
  case sorted => exact eq_mergeSort_of_perm holds.perm holds.ordered
  case distinct => exact holds.kinds.nodup_iff.mpr (Registration.nodup_kinds_accepted registrations)
  case counted => exact holds.registered_eq_size
  case sequences => exact holds.sequences
  case refused =>
    intro next
    constructor
    · intro refused
      by_contra new
      rw [register_of_new (mt (taken _).mp new)] at refused
      cases refused
    · intro known
      exact register_of_known ((taken _).mpr known)
  case unchanged =>
    intro next known
    rw [ofCalls_append_singleton, after, register_of_known ((taken _).mpr known)]
  case inserted =>
    intro next new
    rw [ofCalls_append_singleton, after, register_of_new (mt (taken _).mp new)]
    exact insertEntry_eq_insertIdx_halvingPlace holds.ordered _
  case found => exact holds.exists_find_iff
  case first =>
    intro kind entry found
    exact holds.first found

/--
A registry is made by its registrations, and an analysis does not depend on the order in which kinds
of different priorities were registered.
-/
theorem isMadeBy_and_analyzeIn_eq [Hosts Body Orphan]
    (registrations : List (Registration Memory Body)) :
    (ofCalls registrations).IsMadeBy registrations
      ∧ ∀ others : List (Registration Memory Body),
        (Registration.accepted registrations).Perm (Registration.accepted others) →
        ((Registration.accepted registrations).map (·.priority)).Nodup →
        ∀ settings memory origin records,
          (ofCalls registrations).analyzeIn settings memory origin records =
            (ofCalls others).analyzeIn settings memory origin records := by
  refine ⟨isMadeBy_ofCalls registrations, ?_⟩
  intro others perm apart settings memory origin records
  have same := (holds_ofCalls registrations).map_toRegistration_eq (holds_ofCalls others) perm apart
  have alike := runRecognizers_congr same
    ⟨.start origin records settings.emptyTtl, memory⟩
  rw [analyzeIn, analyzeIn, analyzeCounted, analyzeCounted]
  dsimp only
  rw [alike]

/-- The built-in kinds in another order, one of them tried a second time at another priority. -/
def shuffledRegistrations : List (Registration Unit Builtin) :=
  [ Orphan.registration, Server.registration, { Server.registration with priority := 0 },
    Alias.registration, Challenge.registration, MailExchangers.registration ]

theorem analyzeIn_eq_of_shuffledRegistrations :
    (Registration.accepted (builtinRegistrations : List (Registration Unit Builtin))).Perm
        (Registration.accepted shuffledRegistrations)
      ∧ ((Registration.accepted (builtinRegistrations : List (Registration Unit Builtin))).map
        (·.priority)).Nodup
      ∧ (ofCalls (builtinRegistrations : List (Registration Unit Builtin))).analyzeIn {} ()
          "example.com.".toList [⟨"example.com.".toList, .a, 300, "192.0.2.1".toList⟩] =
        (ofCalls shuffledRegistrations).analyzeIn {} () "example.com.".toList
          [⟨"example.com.".toList, .a, 300, "192.0.2.1".toList⟩] := by
  have inOrder : Registration.accepted (builtinRegistrations : List (Registration Unit Builtin)) =
      [ Challenge.registration, MailExchangers.registration, Server.registration,
        Alias.registration, Orphan.registration ] := rfl
  have shuffled : Registration.accepted shuffledRegistrations =
      [ Orphan.registration, Server.registration, Alias.registration, Challenge.registration,
        MailExchangers.registration ] := rfl
  have swapped : ([ Challenge.registration, MailExchangers.registration ]
      ++ [ Server.registration, Alias.registration, Orphan.registration ] :
        List (Registration Unit Builtin)).Perm _ := List.perm_append_comm
  have turned : ([ Server.registration, Alias.registration ] ++ [ Orphan.registration ] :
      List (Registration Unit Builtin)).Perm _ := List.perm_append_singleton _ _
  have perm : (Registration.accepted
      (builtinRegistrations : List (Registration Unit Builtin))).Perm
        (Registration.accepted shuffledRegistrations) := by
    rw [inOrder, shuffled]
    exact swapped.trans (turned.append_right _)
  have apart : ((Registration.accepted
      (builtinRegistrations : List (Registration Unit Builtin))).map (·.priority)).Nodup := by
    rw [inOrder]
    change ([2, 10, 20, 30, 1000] : List Int32).Nodup
    decide
  exact ⟨perm, apart, (isMadeBy_and_analyzeIn_eq _).2 _ perm apart {} () _ _⟩

end Registry

end ZoneServices
