import Mathlib.Data.List.Induction
import ZoneServices.Directory

/-!
# Filing values in a directory

A directory is determined by what it has under each text.  Values that are filed one after the
other, each under a text of its own, make a directory whose lists keep the order of filing.  Read
from the first text to the last, such a directory gives the values sorted by their texts, and
those of one text in the order of filing; no other list does.
-/

namespace ZoneServices.Directory

variable {Value Other : Type}

/-! ## Directories and their look-ups -/

theorem lookup_of_sorted {entries : List (Text × Value)}
    (sorted : entries.Pairwise fun earlier later => earlier.1 < later.1)
    {entry : Text × Value} (member : entry ∈ entries) :
    entries.lookup entry.1 = some entry.2 := by
  induction entries with
  | nil => cases member
  | cons first rest step =>
      rcases List.pairwise_cons.mp sorted with ⟨precedes, others⟩
      rw [lookup_cons]
      rcases List.mem_cons.mp member with rfl | member
      · rw [if_pos rfl]
      · rw [if_neg, step others member]
        intro same
        exact List.lt_irrefl first.1 (same ▸ precedes entry member)

theorem mem_of_lookup {entries : List (Text × Value)} {key : Text} {value : Value}
    (found : entries.lookup key = some value) : (key, value) ∈ entries := by
  induction entries with
  | nil => cases found
  | cons first rest step =>
      rw [lookup_cons] at found
      split at found
      · rename_i same
        cases found
        rw [same]
        exact List.mem_cons_self
      · exact List.mem_cons_of_mem _ (step found)

/-- The entries of a directory are what its keys are looked up to. -/
theorem mem_entries_iff {directory : Directory Value} {key : Text} {value : Value} :
    (key, value) ∈ directory.entries ↔ directory.get? key = some value := by
  constructor
  · intro member
    exact lookup_of_sorted directory.sorted member
  · exact mem_of_lookup

/-- Lists of entries in order that have the same entries are the same. -/
theorem eq_of_sorted_of_mem_iff {left right : List (Text × Value)}
    (leftSorted : left.Pairwise fun earlier later => earlier.1 < later.1)
    (rightSorted : right.Pairwise fun earlier later => earlier.1 < later.1)
    (same : ∀ entry, entry ∈ left ↔ entry ∈ right) : left = right := by
  induction left generalizing right with
  | nil =>
      cases right with
      | nil => rfl
      | cons entry rest => exact absurd ((same entry).mpr List.mem_cons_self) List.not_mem_nil
  | cons first rest step =>
      rcases List.pairwise_cons.mp leftSorted with ⟨leftPrecedes, leftRest⟩
      cases right with
      | nil => exact absurd ((same first).mp List.mem_cons_self) List.not_mem_nil
      | cons head others =>
          rcases List.pairwise_cons.mp rightSorted with ⟨rightPrecedes, rightRest⟩
          -- Otherwise each head would stand behind the other.
          have equal : first = head := by
            rcases List.mem_cons.mp ((same first).mp List.mem_cons_self) with equal | inOthers
            · exact equal
            · rcases List.mem_cons.mp ((same head).mpr List.mem_cons_self) with equal | inRest
              · exact equal.symm
              · exact absurd (List.lt_trans (rightPrecedes first inOthers)
                  (leftPrecedes head inRest)) (List.lt_irrefl _)
          subst equal
          rw [step leftRest rightRest]
          intro entry
          constructor
          · intro member
            rcases List.mem_cons.mp ((same entry).mp (List.mem_cons_of_mem _ member)) with
              rfl | found
            · exact absurd (leftPrecedes entry member) (List.lt_irrefl _)
            · exact found
          · intro member
            rcases List.mem_cons.mp ((same entry).mpr (List.mem_cons_of_mem _ member)) with
              rfl | found
            · exact absurd (rightPrecedes entry member) (List.lt_irrefl _)
            · exact found

/-- Directories are equal when they have the same under every text. -/
theorem ext_get? {left right : Directory Value}
    (same : ∀ key, left.get? key = right.get? key) : left = right := by
  have entries : left.entries = right.entries := by
    apply eq_of_sorted_of_mem_iff left.sorted right.sorted
    rintro ⟨key, value⟩
    rw [mem_entries_iff, mem_entries_iff, same key]
  cases left
  cases right
  cases entries
  rfl

/-! ## Directories of entries in order -/

theorem alterEntries_of_forall_lt {key : Text} {entries : List (Text × Value)}
    (behind : ∀ entry ∈ entries, entry.1 < key) (change : Option Value → Value) :
    alterEntries key change entries = entries ++ [(key, change none)] := by
  induction entries with
  | nil => rfl
  | cons first rest step =>
      rcases List.forall_mem_cons.mp behind with ⟨firstBehind, othersBehind⟩
      have different : key ≠ first.1 := by
        rintro rfl
        exact List.lt_irrefl _ firstBehind
      rw [alterEntries, if_neg different, if_neg (List.lt_asymm firstBehind), step othersBehind,
        List.cons_append]

theorem ofList_append_singleton (entries : List (Text × Value)) (last : Text × Value) :
    ofList (entries ++ [last]) = (ofList entries).insert last.1 last.2 := by
  rw [ofList, List.foldl_append]
  rfl

/-- Every entry of a directory is one of those that the directory was made of. -/
theorem mem_of_mem_ofList {entries : List (Text × Value)} {entry : Text × Value}
    (member : entry ∈ (ofList entries).entries) : entry ∈ entries := by
  induction entries using List.reverseRecOn with
  | nil => cases member
  | append_singleton entries last step =>
      rcases entry with ⟨key, value⟩
      rw [ofList_append_singleton, mem_entries_iff, insert, get?_alter] at member
      split at member
      · rename_i same
        cases member
        rw [same]
        exact List.mem_append_right _ List.mem_cons_self
      · exact List.mem_append_left _ (step (mem_entries_iff.mpr member))

/-- Entries that are in order make the directory that has just these entries. -/
theorem entries_ofList {entries : List (Text × Value)}
    (sorted : entries.Pairwise fun earlier later => earlier.1 < later.1) :
    (ofList entries).entries = entries := by
  induction entries using List.reverseRecOn with
  | nil => rfl
  | append_singleton entries last step =>
      rcases List.pairwise_append.mp sorted with ⟨earlierSorted, _, precedes⟩
      have made : (ofList (entries ++ [last])).entries =
          alterEntries last.1 (fun _ => last.2) (ofList entries).entries :=
        congrArg Directory.entries (ofList_append_singleton entries last)
      rw [made, step earlierSorted, alterEntries_of_forall_lt]
      intro entry member
      exact precedes entry member last List.mem_cons_self

/-- A directory is made again of its own entries. -/
theorem ofList_entries (directory : Directory Value) :
    ofList directory.entries = directory := by
  have same := entries_ofList directory.sorted
  generalize ofList directory.entries = made at same ⊢
  cases made
  cases directory
  cases same
  rfl

/-! ## Changed values -/

theorem get?_map (change : Value → Other) (directory : Directory Value) (key : Text) :
    (directory.map change).get? key = (directory.get? key).map change := by
  change List.lookup key (directory.entries.map _) = _
  rw [get?]
  induction directory.entries with
  | nil => rfl
  | cons first rest step =>
      rw [List.map_cons, lookup_cons, lookup_cons, step]
      split <;> rfl

/-! ## Filing -/

variable (keyOf : Value → Text)

/-- Files a value after those that have its text already. -/
def file (directory : Directory (List Value)) (value : Value) : Directory (List Value) :=
  directory.alter (keyOf value) fun listed => listed.getD [] ++ [value]

/-- The directory of values that are filed one after the other. -/
def collect (values : List Value) : Directory (List Value) :=
  values.foldl (file keyOf) ∅

/-- The values of a text. -/
def under (key : Text) (values : List Value) : List Value :=
  values.filter fun value => keyOf value == key

variable {keyOf}

@[simp]
theorem under_append (key : Text) (left right : List Value) :
    under keyOf key (left ++ right) = under keyOf key left ++ under keyOf key right :=
  List.filter_append ..

theorem under_cons_of_eq {key : Text} {value : Value} (same : keyOf value = key)
    (rest : List Value) : under keyOf key (value :: rest) = value :: under keyOf key rest := by
  simp [under, same]

theorem under_cons_of_ne {key : Text} {value : Value} (other : keyOf value ≠ key)
    (rest : List Value) : under keyOf key (value :: rest) = under keyOf key rest := by
  simp [under, other]

@[simp]
theorem under_nil (key : Text) : under keyOf key [] = [] := rfl

theorem mem_under {key : Text} {value : Value} {values : List Value} :
    value ∈ under keyOf key values ↔ value ∈ values ∧ keyOf value = key := by
  simp [under]

theorem length_under (key : Text) (values : List Value) :
    (under keyOf key values).length = (values.map keyOf).count key := by
  rw [under, ← List.countP_eq_length_filter, List.count, List.countP_map]
  rfl

/-- The last value of a list is filed behind all others of its key. -/
theorem collect_append_singleton (values : List Value) (value : Value) :
    collect keyOf (values ++ [value]) = file keyOf (collect keyOf values) value := by
  rw [collect, List.foldl_append]
  rfl

/-- Under each text a directory of filed values has its values, in the order of filing. -/
theorem get?_collect (values : List Value) (key : Text) :
    (collect keyOf values).get? key =
      if under keyOf key values = [] then none else some (under keyOf key values) := by
  induction values using List.reverseRecOn with
  | nil => rfl
  | append_singleton values value step =>
      rw [collect_append_singleton, file, get?_alter]
      by_cases same : key = keyOf value
      · subst same
        have filed : under keyOf (keyOf value) values ++ [value] ≠ [] := by simp
        rw [if_pos rfl, step, under_append, under_cons_of_eq rfl, under_nil, if_neg filed]
        split
        · rename_i empty
          rw [empty]
          rfl
        · rfl
      · rw [if_neg same, step, under_append, under_cons_of_ne (Ne.symm same), under_nil,
          List.append_nil]

/-- Under each key the values of a list are filed in the order of the list. -/
theorem getD_get?_collect (values : List Value) (key : Text) :
    ((collect keyOf values).get? key).getD [] = under keyOf key values := by
  rw [get?_collect]
  split
  · rename_i empty
    rw [empty]
    rfl
  · rfl

theorem modify_append_cons (before after : List Value) (value : Value) (change : Value → Value) :
    (before ++ value :: after).modify before.length change = before ++ change value :: after := by
  induction before with
  | nil => rfl
  | cons first rest step =>
      rw [List.cons_append, List.length_cons, List.modify_succ_cons, step, List.cons_append]

/-- Changing the listed value that some others precede is filing the changed value. -/
theorem alter_collect (before after : List Value) (value : Value) {change : Value → Value}
    (keeps : keyOf (change value) = keyOf value) :
    (collect keyOf (before ++ value :: after)).alter (keyOf value)
        (fun listed =>
          (listed.getD []).modify (under keyOf (keyOf value) before).length change) =
      collect keyOf (before ++ change value :: after) := by
  apply ext_get?
  intro key
  rw [get?_alter, get?_collect (before ++ change value :: after), getD_get?_collect]
  by_cases same : key = keyOf value
  · subst same
    rw [if_pos rfl, under_append, under_append, under_cons_of_eq rfl, under_cons_of_eq keeps,
      modify_append_cons, if_neg (by simp)]
  · have other : keyOf (change value) ≠ key := fun equal => same (equal.symm.trans keeps)
    rw [if_neg same, get?_collect, under_append, under_append, under_cons_of_ne (Ne.symm same),
      under_cons_of_ne other]

/-! ## Reading a directory in order -/

/-- All values of a directory of lists, by their texts and then in their order. -/
def inOrder (directory : Directory (List Value)) : List Value :=
  directory.values.flatten

/-- Filing a value adds it to those that are listed, and nothing else. -/
theorem perm_alterEntries (key : Text) (value : Value) (entries : List (Text × List Value)) :
    ((alterEntries key (fun listed => listed.getD [] ++ [value]) entries).map
        Prod.snd).flatten.Perm (value :: (entries.map Prod.snd).flatten) := by
  induction entries with
  | nil => exact List.Perm.refl _
  | cons first rest step =>
      unfold alterEntries
      split
      · simp only [List.map_cons, List.flatten_cons, Option.getD_some, List.append_assoc]
        exact List.perm_middle
      · split
        · exact List.Perm.refl _
        · simp only [List.map_cons, List.flatten_cons]
          exact (step.append_left first.2).trans List.perm_middle

theorem length_flatten_alterEntries (key : Text) (change : Option (List Value) → List Value)
    {entries : List (Text × List Value)}
    (sorted : entries.Pairwise fun earlier later => earlier.1 < later.1) :
    ((alterEntries key change entries).map Prod.snd).flatten.length
        + ((entries.lookup key).getD []).length =
      (entries.map Prod.snd).flatten.length + (change (entries.lookup key)).length := by
  induction entries with
  | nil => simp [alterEntries]
  | cons first rest step =>
      rcases List.pairwise_cons.mp sorted with ⟨precedes, others⟩
      have behind := step others
      rw [lookup_cons]
      unfold alterEntries
      split
      · simp only [List.map_cons, List.flatten_cons, List.length_append, Option.getD_some]
        omega
      · split
        · rename_i before
          have absent : rest.lookup key = none :=
            lookup_eq_none_of_lt fun entry member => List.lt_trans before (precedes entry member)
          rw [absent]
          simp only [List.map_cons, List.flatten_cons, List.length_append, Option.getD_none,
            List.length_nil]
          omega
        · simp only [List.map_cons, List.flatten_cons, List.length_append]
          omega

/-- A directory grows by as many values as the list grows that is changed. -/
theorem length_inOrder_alter (directory : Directory (List Value)) (key : Text)
    (change : Option (List Value) → List Value) :
    (inOrder (directory.alter key change)).length + ((directory.get? key).getD []).length =
      (inOrder directory).length + (change (directory.get? key)).length :=
  length_flatten_alterEntries key change directory.sorted

/-- A change that keeps a part of every value keeps the list of these parts. -/
theorem map_modify (part : Value → Other) (change : Value → Value)
    (keeps : ∀ value, part (change value) = part value) (values : List Value) (index : Nat) :
    (values.modify index change).map part = values.map part := by
  apply List.ext_getElem?
  intro place
  rw [List.getElem?_map, List.getElem?_map, List.getElem?_modify]
  cases values[place]? with
  | none => rfl
  | some value =>
      by_cases here : index = place
      · simp [here, keeps]
      · simp [here]

/-- A change to a list that keeps a part of every value keeps it in the whole directory. -/
theorem map_inOrder_alter {part : Value → Other} {change : List Value → List Value}
    (keeps : ∀ values, (change values).map part = values.map part)
    (directory : Directory (List Value)) (key : Text) :
    (inOrder (directory.alter key fun listed => change (listed.getD []))).map part =
      (inOrder directory).map part := by
  change ((alterEntries key _ directory.entries).map Prod.snd).flatten.map part =
    (directory.entries.map Prod.snd).flatten.map part
  induction directory.entries with
  | nil => simpa [alterEntries] using keeps []
  | cons first rest step =>
      rw [alterEntries]
      split
      · simp [keeps]
      · split
        · simpa using keeps []
        · simp only [List.map_cons, List.flatten_cons, List.map_append, step]

/-- Filing loses no value and makes up none. -/
theorem perm_inOrder_collect (values : List Value) :
    (inOrder (collect keyOf values)).Perm values := by
  induction values using List.reverseRecOn with
  | nil => exact List.Perm.refl _
  | append_singleton values value step =>
      rw [collect_append_singleton]
      have filed := perm_alterEntries (keyOf value) value (collect keyOf values).entries
      have moved : (value :: values).Perm (values ++ [value]) :=
        (List.perm_append_singleton _ _).symm
      exact filed.trans ((step.cons value).trans moved)

theorem values_of_mem_collect {values : List Value} {entry : Text × List Value}
    (member : entry ∈ (collect keyOf values).entries) :
    entry.2 = under keyOf entry.1 values := by
  have found := mem_entries_iff.mp member
  rw [get?_collect] at found
  split at found
  · cases found
  · exact (Option.some.inj found).symm

/-- Values are filed under their own key. -/
theorem keyOf_of_mem_entry {values : List Value} {entry : Text × List Value}
    (member : entry ∈ (collect keyOf values).entries) {value : Value} (inEntry : value ∈ entry.2) :
    keyOf value = entry.1 := by
  rw [values_of_mem_collect member] at inEntry
  exact (mem_under.mp inEntry).2

/-- The keys of collected values are those that the values have. -/
theorem mem_keys_collect {values : List Value} {key : Text} :
    key ∈ (collect keyOf values).keys ↔ key ∈ values.map keyOf := by
  rw [keys, List.mem_map, List.mem_map]
  constructor
  · rintro ⟨entry, member, rfl⟩
    have found := mem_entries_iff.mp member
    rw [get?_collect] at found
    split at found
    · cases found
    · rename_i filed
      rcases List.exists_mem_of_ne_nil _ filed with ⟨value, inFiled⟩
      exact ⟨value, mem_under.mp inFiled⟩
  · rintro ⟨value, member, rfl⟩
    have filed : under keyOf (keyOf value) values ≠ [] :=
      List.ne_nil_of_mem (mem_under.mpr ⟨member, rfl⟩)
    have found : (collect keyOf values).get? (keyOf value) = some _ :=
      (get?_collect values (keyOf value)).trans (if_neg filed)
    exact ⟨_, mem_entries_iff.mpr found, rfl⟩

/-- Listed in the order of a directory, values are sorted by their keys. -/
theorem sorted_flatten {entries : List (Text × List Value)}
    (sorted : entries.Pairwise fun earlier later => earlier.1 < later.1)
    (keys : ∀ entry ∈ entries, ∀ value ∈ entry.2, keyOf value = entry.1) :
    (entries.map Prod.snd).flatten.Pairwise fun earlier later =>
      ¬ keyOf later < keyOf earlier := by
  rw [List.pairwise_flatten]
  constructor
  · intro list member
    rcases List.mem_map.mp member with ⟨entry, inEntries, rfl⟩
    apply List.pairwise_of_forall_mem_list
    intro earlier inFirst later inSecond
    rw [keys entry inEntries earlier inFirst, keys entry inEntries later inSecond]
    exact List.lt_irrefl _
  · rw [List.pairwise_map]
    refine sorted.imp_of_mem ?_
    intro first second firstMember secondMember precedes earlier inFirst later inSecond
    rw [keys first firstMember earlier inFirst, keys second secondMember later inSecond]
    exact List.lt_asymm precedes

/-- A directory of filed values is read in the order of their texts. -/
theorem sorted_inOrder_collect (values : List Value) :
    (inOrder (collect keyOf values)).Pairwise fun earlier later =>
      ¬ keyOf later < keyOf earlier :=
  sorted_flatten (collect keyOf values).sorted fun _ member _ inEntry =>
    keyOf_of_mem_entry member inEntry

theorem under_flatten {entries : List (Text × List Value)}
    (sorted : entries.Pairwise fun earlier later => earlier.1 < later.1)
    (keys : ∀ entry ∈ entries, ∀ value ∈ entry.2, keyOf value = entry.1) (key : Text) :
    under keyOf key (entries.map Prod.snd).flatten = (entries.lookup key).getD [] := by
  induction entries with
  | nil => rfl
  | cons first rest step =>
      rcases List.pairwise_cons.mp sorted with ⟨precedes, others⟩
      rcases List.forall_mem_cons.mp keys with ⟨firstKeys, otherKeys⟩
      rw [List.map_cons, List.flatten_cons, under_append, step others otherKeys, lookup_cons]
      by_cases same : key = first.1
      · have absent : rest.lookup key = none := lookup_eq_none_of_lt (same ▸ precedes)
        have whole : under keyOf key first.2 = first.2 := by
          apply List.filter_eq_self.mpr
          intro value member
          rw [firstKeys value member, same, beq_self_eq_true]
        rw [if_pos same, absent, whole]
        exact List.append_nil _
      · have nothing : under keyOf key first.2 = [] := by
          apply List.filter_eq_nil_iff.mpr
          intro value member equal
          exact same ((beq_iff_eq.mp equal).symm.trans (firstKeys value member))
        rw [if_neg same, nothing, List.nil_append]

/-- Filing values and listing them again keeps the order of those that share a key. -/
theorem under_inOrder_collect (values : List Value) (key : Text) :
    under keyOf key (inOrder (collect keyOf values)) = under keyOf key values := by
  rw [← getD_get?_collect values key]
  apply under_flatten (collect keyOf values).sorted
  intro entry member value inEntry
  exact keyOf_of_mem_entry member inEntry

/-- Two lists that agree under every key have the same values. -/
theorem mem_iff_of_under_eq {left right : List Value}
    (same : ∀ key, under keyOf key left = under keyOf key right) (value : Value) :
    value ∈ left ↔ value ∈ right := by
  have ofList : ∀ values, value ∈ under keyOf (keyOf value) values ↔ value ∈ values := by
    intro values
    rw [mem_under, and_iff_left rfl]
  rw [← ofList left, same, ofList]

/-- Two lists in the order of their texts are equal when they have the same under every text. -/
theorem eq_of_sorted_of_under_eq {left right : List Value}
    (leftSorted : left.Pairwise fun earlier later => ¬ keyOf later < keyOf earlier)
    (rightSorted : right.Pairwise fun earlier later => ¬ keyOf later < keyOf earlier)
    (same : ∀ key, under keyOf key left = under keyOf key right) : left = right := by
  have mem_iff := mem_iff_of_under_eq same
  induction left generalizing right with
  | nil =>
      cases right with
      | nil => rfl
      | cons value rest => exact absurd ((mem_iff value).mpr List.mem_cons_self) List.not_mem_nil
  | cons first rest step =>
      rcases List.pairwise_cons.mp leftSorted with ⟨leftLeast, leftRest⟩
      cases right with
      | nil => exact absurd ((mem_iff first).mp List.mem_cons_self) List.not_mem_nil
      | cons head others =>
          rcases List.pairwise_cons.mp rightSorted with ⟨rightLeast, rightRest⟩
          -- Each head is in the other list too, so neither text comes before the other, and the
          -- lists under their common text start with the heads.
          have firstLeast : ¬ keyOf head < keyOf first := by
            rcases List.mem_cons.mp ((mem_iff head).mpr List.mem_cons_self) with rfl | member
            · exact List.lt_irrefl _
            · exact leftLeast head member
          have headLeast : ¬ keyOf first < keyOf head := by
            rcases List.mem_cons.mp ((mem_iff first).mp List.mem_cons_self) with rfl | member
            · exact List.lt_irrefl _
            · exact rightLeast first member
          have keys : keyOf head = keyOf first :=
            List.le_antisymm (List.not_lt.mp headLeast) (List.not_lt.mp firstLeast)
          have heads := same (keyOf first)
          rw [under_cons_of_eq rfl, under_cons_of_eq keys, List.cons.injEq] at heads
          rcases heads with ⟨rfl, tails⟩
          have restSame : ∀ key, under keyOf key rest = under keyOf key others := by
            intro key
            by_cases equal : keyOf first = key
            · exact equal ▸ tails
            · have found := same key
              rwa [under_cons_of_ne equal, under_cons_of_ne equal] at found
          rw [step leftRest rightRest restSame (mem_iff_of_under_eq restSame)]

theorem under_map {otherKey : Other → Text} {change : Value → Other} {values : List Value}
    (keeps : ∀ value ∈ values, otherKey (change value) = keyOf value) (key : Text) :
    under otherKey key (values.map change) = (under keyOf key values).map change := by
  induction values with
  | nil => rfl
  | cons first rest step =>
      rcases List.forall_mem_cons.mp keeps with ⟨keepsFirst, keepsRest⟩
      rw [List.map_cons]
      by_cases same : keyOf first = key
      · rw [under_cons_of_eq same, under_cons_of_eq (keepsFirst.trans same), step keepsRest,
          List.map_cons]
      · have other : otherKey (change first) ≠ key :=
          fun equal => same (keepsFirst.symm.trans equal)
        rw [under_cons_of_ne same, under_cons_of_ne other, step keepsRest]

/-! ## Directories that list the same -/

/-- A directory of lists in which every value has its text beside it. -/
def labelled (directory : Directory (List Value)) : Directory (List (Text × Value)) :=
  ⟨directory.entries.map fun entry => (entry.1, entry.2.map (entry.1, ·)),
    List.pairwise_map.mpr directory.sorted⟩

theorem fst_of_mem_labelled {directory : Directory (List Value)}
    {entry : Text × List (Text × Value)} (member : entry ∈ (labelled directory).entries)
    {value : Text × Value} (inEntry : value ∈ entry.2) : value.1 = entry.1 := by
  rcases List.mem_map.mp member with ⟨filed, _, rfl⟩
  rcases List.mem_map.mp inEntry with ⟨_, _, rfl⟩
  rfl

/-- Each value is labelled with the key that it is listed under. -/
theorem get?_labelled (directory : Directory (List Value)) (key : Text) :
    ((labelled directory).get? key).getD [] =
      ((directory.get? key).getD []).map (key, ·) := by
  change (List.lookup key (directory.entries.map _)).getD [] = _
  rw [get?]
  induction directory.entries with
  | nil => rfl
  | cons first rest step =>
      rw [List.map_cons, lookup_cons, lookup_cons]
      split
      · rename_i same
        rw [same]
        rfl
      · exact step

theorem map_snd_inOrder_labelled (directory : Directory (List Value)) :
    (inOrder (labelled directory)).map Prod.snd = inOrder directory := by
  change (((directory.entries.map _).map Prod.snd).flatten).map Prod.snd = _
  rw [inOrder, Directory.values, List.map_flatten, List.map_map, List.map_map]
  congr 1
  apply List.map_congr_left
  intro entry _
  exact (List.map_map ..).trans (List.map_id _)

/-- How a directory of lists is read in order depends on what it lists under each text alone. -/
theorem inOrder_eq_of_getD_eq {left right : Directory (List Value)}
    (same : ∀ key, (left.get? key).getD [] = (right.get? key).getD []) :
    inOrder left = inOrder right := by
  have keys : ∀ directory : Directory (List Value), ∀ entry ∈ (labelled directory).entries,
      ∀ value ∈ entry.2, value.1 = entry.1 :=
    fun _ _ member _ inEntry => fst_of_mem_labelled member inEntry
  rw [← map_snd_inOrder_labelled left, ← map_snd_inOrder_labelled right]
  congr 1
  apply eq_of_sorted_of_under_eq (sorted_flatten (labelled left).sorted (keys left))
    (sorted_flatten (labelled right).sorted (keys right))
  intro key
  rw [under_flatten (labelled left).sorted (keys left),
    under_flatten (labelled right).sorted (keys right)]
  have leftListed := get?_labelled left key
  rw [same key, ← get?_labelled right key] at leftListed
  exact leftListed

end ZoneServices.Directory
