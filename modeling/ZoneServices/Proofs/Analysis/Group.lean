import Mathlib.Data.List.Basic
import ZoneServices.Proofs.Text.Letter
import ZoneServices.Record.Basic

/-!
# Groups of items by owner

Items that are read from records are grouped by the owners of the records, letter case aside.
The groups stand in the order of their first records, and the items of a group in the order of
theirs.  If the records of one owner already stand side by side, the groups are just these runs.
-/

namespace ZoneServices

/-- The items of one owner: the record that came first with its item, and the items after it. -/
structure Group (Item : Type) where
  leader : Record
  first : Item
  others : List Item

namespace Group

variable {Item : Type}

/-- The owner of a group in lower case. -/
def owner (group : Group Item) : Text :=
  Text.fold group.leader.owner

/-- All items of a group. -/
def items (group : Group Item) : List Item :=
  group.first :: group.others

theorem items_ne_nil (group : Group Item) : group.items ≠ [] :=
  List.cons_ne_nil _ _

/-- A group with one more item. -/
def extend (group : Group Item) (item : Item) : Group Item :=
  { group with others := group.others ++ [item] }

/-- Puts the item of a record into the group of its owner, or into a new one behind all others. -/
def absorb (record : Record) (item : Item) : List (Group Item) → List (Group Item)
  | [] => [⟨record, item, []⟩]
  | group :: rest =>
    if group.owner = Text.fold record.owner then group.extend item :: rest
    else group :: absorb record item rest

/-- Puts the items of records into groups, one after the other. -/
def absorbAll (groups : List (Group Item)) (entries : List (Record × Item)) : List (Group Item) :=
  entries.foldl (fun groups entry => absorb entry.1 entry.2 groups) groups

/-- The groups of items that are read from records. -/
def ofEntries (entries : List (Record × Item)) : List (Group Item) :=
  absorbAll [] entries

/-- Whether an owner has a group. -/
def isOwner (owner : Text) (groups : List (Group Item)) : Bool :=
  groups.any fun group => group.owner == owner

/-- A record of a new owner starts a group behind all others. -/
theorem absorb_of_not_isOwner {record : Record} {groups : List (Group Item)}
    (new : isOwner (Text.fold record.owner) groups = false) (item : Item) :
    absorb record item groups = groups ++ [⟨record, item, []⟩] := by
  induction groups with
  | nil => rfl
  | cons group rest step =>
      rw [isOwner, List.any_cons, Bool.or_eq_false_iff, beq_eq_false_iff_ne] at new
      rw [absorb, if_neg new.1, step new.2, List.cons_append]

/-- A record of a known owner extends its group where the group stands. -/
theorem absorb_append_cons {record : Record} {before after : List (Group Item)}
    {group : Group Item} (others : isOwner (Text.fold record.owner) before = false)
    (same : group.owner = Text.fold record.owner) (item : Item) :
    absorb record item (before ++ group :: after) = before ++ group.extend item :: after := by
  induction before with
  | nil => rw [List.nil_append, absorb, if_pos same, List.nil_append]
  | cons head rest step =>
      rw [isOwner, List.any_cons, Bool.or_eq_false_iff, beq_eq_false_iff_ne] at others
      rw [List.cons_append, absorb, if_neg others.1, step others.2, List.cons_append]

/-- The items of some groups, group by group. -/
def allItems (groups : List (Group Item)) : List Item :=
  groups.flatMap items

theorem allItems_absorb (record : Record) (item : Item) (groups : List (Group Item)) :
    (allItems (absorb record item groups)).Perm (item :: allItems groups) := by
  induction groups with
  | nil => exact List.Perm.refl _
  | cons group rest step =>
      rw [absorb]
      split
      · have last : (group.items ++ [item]).Perm (item :: group.items) :=
          List.perm_append_singleton item group.items
        exact last.append_right (allItems rest)
      · have behind : (group.items ++ item :: allItems rest).Perm
            (item :: (group.items ++ allItems rest)) := List.perm_middle
        exact (step.append_left group.items).trans behind

/-- No item is lost or made up when records are absorbed. -/
theorem allItems_absorbAll (groups : List (Group Item)) (entries : List (Record × Item)) :
    (allItems (absorbAll groups entries)).Perm (allItems groups ++ entries.map Prod.snd) := by
  induction entries generalizing groups with
  | nil => rw [List.map_nil, List.append_nil]; exact List.Perm.refl _
  | cons entry rest step =>
      have added := (allItems_absorb entry.1 entry.2 groups).append_right (rest.map Prod.snd)
      have moved : (entry.2 :: allItems groups ++ rest.map Prod.snd).Perm
          (allItems groups ++ entry.2 :: rest.map Prod.snd) := List.perm_middle.symm
      exact (step _).trans (added.trans moved)

/-- Grouping loses no item and makes up none. -/
theorem allItems_ofEntries (entries : List (Record × Item)) :
    (allItems (ofEntries entries)).Perm (entries.map Prod.snd) :=
  allItems_absorbAll [] entries

/-- Number of items in some groups. -/
def itemCount (groups : List (Group Item)) : Nat :=
  (allItems groups).length

theorem itemCount_ofEntries (entries : List (Record × Item)) :
    itemCount (ofEntries entries) = entries.length := by
  rw [itemCount, (allItems_ofEntries entries).length_eq, List.length_map]

/-- The owners of the first records of some groups, as they are written. -/
def leaderOwners (groups : List (Group Item)) : List Text :=
  groups.map fun group => group.leader.owner

/-! ## What groups are made of -/

/-- Whether the leader of a group and all of its items come from some entries. -/
structure IsFrom (entries : List (Record × Item)) (group : Group Item) : Prop where
  leader : (group.leader, group.first) ∈ entries
  items : ∀ item ∈ group.items, ∃ record, (record, item) ∈ entries

theorem leader_of_mem_absorb {record : Record} {item : Item} {groups : List (Group Item)}
    {group : Group Item} (member : group ∈ absorb record item groups) :
    (group.leader, group.first) = (record, item)
      ∨ ∃ old ∈ groups, (group.leader, group.first) = (old.leader, old.first) := by
  induction groups with
  | nil =>
      rw [List.mem_singleton.mp member]
      exact .inl rfl
  | cons head rest step =>
      rw [absorb] at member
      split at member
      · rcases List.mem_cons.mp member with rfl | later
        · exact .inr ⟨head, List.mem_cons_self, rfl⟩
        · exact .inr ⟨group, List.mem_cons_of_mem _ later, rfl⟩
      · rcases List.mem_cons.mp member with rfl | later
        · exact .inr ⟨group, List.mem_cons_self, rfl⟩
        · rcases step later with new | ⟨old, inRest, same⟩
          · exact .inl new
          · exact .inr ⟨old, List.mem_cons_of_mem _ inRest, same⟩

/-- The leader of a group is a record that was absorbed, unless the group was there before. -/
theorem leader_of_mem_absorbAll {entries : List (Record × Item)} {groups : List (Group Item)}
    {group : Group Item} (member : group ∈ absorbAll groups entries) :
    (group.leader, group.first) ∈ entries
      ∨ ∃ old ∈ groups, (group.leader, group.first) = (old.leader, old.first) := by
  induction entries generalizing groups with
  | nil => exact .inr ⟨group, member, rfl⟩
  | cons entry rest step =>
      rcases step member with later | ⟨old, inAbsorbed, same⟩
      · exact .inl (List.mem_cons_of_mem _ later)
      · rcases leader_of_mem_absorb inAbsorbed with new | ⟨older, inGroups, before⟩
        · rw [same, new]
          exact .inl List.mem_cons_self
        · exact .inr ⟨older, inGroups, same.trans before⟩

/-- Groups hold nothing but what was put into them. -/
theorem isFrom_of_mem {entries : List (Record × Item)} {group : Group Item}
    (member : group ∈ ofEntries entries) : IsFrom entries group where
  leader := by
    rcases leader_of_mem_absorbAll member with found | ⟨_, none, _⟩
    · exact found
    · cases none
  items := by
    intro item inGroup
    have inAll : item ∈ allItems (ofEntries entries) :=
      List.mem_flatMap.mpr ⟨group, member, inGroup⟩
    rw [(allItems_ofEntries entries).mem_iff] at inAll
    rcases List.mem_map.mp inAll with ⟨entry, inEntries, rfl⟩
    exact ⟨entry.1, inEntries⟩

/-- Every item is in a group. -/
theorem exists_group_of_mem {entries : List (Record × Item)} {entry : Record × Item}
    (member : entry ∈ entries) : ∃ group ∈ ofEntries entries, entry.2 ∈ group.items := by
  have inAll : entry.2 ∈ allItems (ofEntries entries) :=
    (allItems_ofEntries entries).mem_iff.mpr (List.mem_map_of_mem member)
  exact List.mem_flatMap.mp inAll

theorem owners_absorb (record : Record) (item : Item) (groups : List (Group Item)) :
    (absorb record item groups).map owner =
      if isOwner (Text.fold record.owner) groups then groups.map owner
      else groups.map owner ++ [Text.fold record.owner] := by
  induction groups with
  | nil => rfl
  | cons group rest step =>
      rw [absorb]
      by_cases same : group.owner = Text.fold record.owner
      · rw [if_pos same, isOwner, List.any_cons, beq_iff_eq.mpr same, Bool.true_or, if_pos rfl]
        rfl
      · rw [if_neg same, isOwner, List.any_cons, beq_eq_false_iff_ne.mpr same, Bool.false_or,
          ← isOwner, List.map_cons, step]
        split
        · rfl
        · rfl

/-- No two groups have the same owner. -/
theorem nodup_owners (entries : List (Record × Item)) :
    ((ofEntries entries).map owner).Nodup := by
  have grows : ∀ groups : List (Group Item), (groups.map owner).Nodup →
      ((absorbAll groups entries).map owner).Nodup := by
    induction entries with
    | nil => exact fun _ distinct => distinct
    | cons entry rest step =>
        intro groups distinct
        apply step
        rw [owners_absorb]
        split
        · exact distinct
        · rename_i new
          apply List.nodup_append.mpr
          refine ⟨distinct, List.pairwise_singleton _ _, ?_⟩
          intro known inGroups other isNew
          rw [List.mem_singleton.mp isNew]
          rintro rfl
          apply new
          rcases List.mem_map.mp inGroups with ⟨group, member, same⟩
          exact List.any_eq_true.mpr ⟨group, member, beq_iff_eq.mpr same⟩
  exact grows [] List.nodup_nil

/-! ## Records of one owner side by side -/

/-- The group of entries that all have one owner, if there are any. -/
def ofBlock? : List (Record × Item) → Option (Group Item)
  | [] => none
  | (record, item) :: rest => some ⟨record, item, rest.map Prod.snd⟩

theorem absorbAll_append_singleton {before : List (Group Item)} (group : Group Item)
    (others : isOwner group.owner before = false) {entries : List (Record × Item)}
    (same : ∀ entry ∈ entries, Text.fold entry.1.owner = group.owner) :
    absorbAll (before ++ [group]) entries =
      before ++ [{ group with others := group.others ++ entries.map Prod.snd }] := by
  induction entries generalizing group with
  | nil => simp [absorbAll]
  | cons entry rest step =>
      rcases List.forall_mem_cons.mp same with ⟨first, later⟩
      rw [absorbAll, List.foldl_cons, ← absorbAll,
        absorb_append_cons (by rw [first]; exact others) first.symm,
        step (group.extend entry.2) others later]
      simp [extend]

/-- Records of one new owner make one group. -/
theorem absorbAll_block {groups : List (Group Item)} {owner : Text}
    (new : isOwner owner groups = false) {entries : List (Record × Item)}
    (same : ∀ entry ∈ entries, Text.fold entry.1.owner = owner) :
    absorbAll groups entries = groups ++ (ofBlock? entries).toList := by
  cases entries with
  | nil => simp [absorbAll, ofBlock?]
  | cons entry rest =>
      rcases List.forall_mem_cons.mp same with ⟨first, later⟩
      have fresh : isOwner (Text.fold entry.1.owner) groups = false := by
        rw [first]
        exact new
      rw [absorbAll, List.foldl_cons, ← absorbAll, absorb_of_not_isOwner fresh]
      refine absorbAll_append_singleton ⟨entry.1, entry.2, []⟩ fresh ?_
      intro other inRest
      exact (later other inRest).trans first.symm

/-- The entries of one owner are one group. -/
theorem ofEntries_block {owner : Text} {entries : List (Record × Item)}
    (same : ∀ entry ∈ entries, Text.fold entry.1.owner = owner) :
    ofEntries entries = (ofBlock? entries).toList :=
  absorbAll_block rfl same

/-- Records that stand together by owner make one group after the other. -/
theorem absorbAll_blocks {Block : Type} (ownerOf : Block → Text)
    (entriesOf : Block → List (Record × Item)) {blocks : List Block}
    (same : ∀ block ∈ blocks, ∀ entry ∈ entriesOf block,
      Text.fold entry.1.owner = ownerOf block)
    (distinct : (blocks.map ownerOf).Nodup) {groups : List (Group Item)}
    (new : ∀ block ∈ blocks, isOwner (ownerOf block) groups = false) :
    absorbAll groups (blocks.flatMap entriesOf) =
      groups ++ blocks.flatMap fun block => ofEntries (entriesOf block) := by
  induction blocks generalizing groups with
  | nil => simp [absorbAll]
  | cons block rest step =>
      rcases List.forall_mem_cons.mp same with ⟨first, later⟩
      rcases List.forall_mem_cons.mp new with ⟨firstNew, laterNew⟩
      rcases List.nodup_cons.mp distinct with ⟨apart, distinct⟩
      have stillNew : ∀ other ∈ rest,
          isOwner (ownerOf other) (groups ++ (ofBlock? (entriesOf block)).toList) = false := by
        intro other inRest
        have different : ownerOf block ≠ ownerOf other := by
          intro same
          exact apart (same ▸ List.mem_map_of_mem inRest)
        rw [isOwner, List.any_append, ← isOwner, laterNew other inRest, Bool.false_or]
        cases found : entriesOf block with
        | nil => rfl
        | cons entry others =>
            have owned := first entry (found ▸ List.mem_cons_self)
            simpa [ofBlock?, Group.owner, owned] using different
      have split : absorbAll groups ((block :: rest).flatMap entriesOf) =
          absorbAll (absorbAll groups (entriesOf block)) (rest.flatMap entriesOf) := by
        rw [List.flatMap_cons]
        exact List.foldl_append
      rw [split, absorbAll_block firstNew first, step later distinct stillNew, List.flatMap_cons,
        ofEntries_block first, List.append_assoc]

/-- Where the entries of each owner stand side by side, each owner can be grouped alone. -/
theorem ofEntries_flatMap {Block : Type} (ownerOf : Block → Text)
    (entriesOf : Block → List (Record × Item)) {blocks : List Block}
    (same : ∀ block ∈ blocks, ∀ entry ∈ entriesOf block,
      Text.fold entry.1.owner = ownerOf block)
    (distinct : (blocks.map ownerOf).Nodup) :
    ofEntries (blocks.flatMap entriesOf) =
      blocks.flatMap fun block => ofEntries (entriesOf block) :=
  absorbAll_blocks ownerOf entriesOf same distinct (fun _ _ => rfl)

/-! ## Groups owner by owner -/

/-- Whether an entry is on a record of an owner. -/
def isOf (owner : Text) (entry : Record × Item) : Bool :=
  Text.fold entry.1.owner == owner

/-- The first group takes the items of its owner, and the others get the rest. -/
theorem absorbAll_cons (group : Group Item) (groups : List (Group Item))
    (entries : List (Record × Item)) :
    absorbAll (group :: groups) entries =
      { group with others := group.others ++ (entries.filter (isOf group.owner)).map Prod.snd }
        :: absorbAll groups (entries.filter fun entry => !isOf group.owner entry) := by
  induction entries generalizing group groups with
  | nil => simp [absorbAll]
  | cons entry rest step =>
      rw [absorbAll, List.foldl_cons, ← absorbAll, absorb]
      by_cases same : group.owner = Text.fold entry.1.owner
      · have own : isOf group.owner entry = true := beq_iff_eq.mpr same.symm
        have grown : (group.extend entry.2).owner = group.owner := rfl
        rw [if_pos same, step, grown, List.filter_cons_of_pos own,
          List.filter_cons_of_neg (by rw [own]; decide), List.map_cons, extend,
          List.append_assoc, List.singleton_append]
      · have other : isOf group.owner entry = false := beq_eq_false_iff_ne.mpr (Ne.symm same)
        rw [if_neg same, step, List.filter_cons_of_neg (by rw [other]; decide),
          List.filter_cons_of_pos (by rw [other]; rfl)]
        rfl

theorem filter_isOf_of_ne {owner other : Text} (apart : other ≠ owner)
    (entries : List (Record × Item)) :
    (entries.filter fun entry => !isOf owner entry).filter (isOf other) =
      entries.filter (isOf other) := by
  rw [List.filter_filter]
  apply List.filter_congr
  intro entry _
  by_cases same : isOf other entry = true
  · have left : isOf owner entry = false :=
      beq_eq_false_iff_ne.mpr fun equal => apart ((beq_iff_eq.mp same).symm.trans equal)
    rw [same, left]
    rfl
  · rw [Bool.eq_false_iff.mpr same, Bool.false_and]

theorem filter_isOf_self (owner : Text) (entries : List (Record × Item)) :
    (entries.filter fun entry => !isOf owner entry).filter (isOf owner) = [] := by
  rw [List.filter_filter]
  apply List.filter_eq_nil_iff.mpr
  intro entry _
  simp

/-- The first owner has the first group, and the others are grouped without its entries. -/
theorem ofEntries_cons (entry : Record × Item) (rest : List (Record × Item)) :
    ofEntries (entry :: rest) =
      (ofBlock? ((entry :: rest).filter (isOf (Text.fold entry.1.owner)))).toList
        ++ ofEntries (rest.filter fun other => !isOf (Text.fold entry.1.owner) other) := by
  have own : isOf (Text.fold entry.1.owner) entry = true := beq_self_eq_true _
  rw [List.filter_cons_of_pos own]
  exact absorbAll_cons ⟨entry.1, entry.2, []⟩ [] rest

theorem length_others_lt (entry : Record × Item) (rest : List (Record × Item)) :
    (rest.filter fun other => !isOf (Text.fold entry.1.owner) other).length <
      (entry :: rest).length :=
  Nat.lt_succ_of_le (List.length_filter_le _ _)

/-- Each owner has one group, of all its entries; the owners are in the order of their first. -/
theorem ofEntries_eq (entries : List (Record × Item)) :
    ofEntries entries =
      (entries.map fun entry => Text.fold entry.1.owner).eraseDups.filterMap fun owner =>
        ofBlock? (entries.filter (isOf owner)) := by
  match entries with
  | [] => rfl
  | entry :: rest =>
      have own : isOf (Text.fold entry.1.owner) entry = true := beq_self_eq_true _
      rw [ofEntries_cons, ofEntries_eq, List.map_cons, List.eraseDups_cons, List.filter_map,
        List.filterMap_cons, List.filter_cons_of_pos own, ofBlock?, Option.toList_some,
        List.singleton_append]
      dsimp only
      congr 1
      apply List.filterMap_congr
      intro owner member
      rw [List.mem_eraseDups] at member
      rcases List.mem_map.mp member with ⟨other, inRest, rfl⟩
      have apart : Text.fold other.1.owner ≠ Text.fold entry.1.owner := by
        simpa [isOf] using (List.mem_filter.mp inRest).2
      have skips : ¬ isOf (Text.fold other.1.owner) entry = true :=
        fun same => apart (beq_iff_eq.mp same).symm
      rw [filter_isOf_of_ne apart, List.filter_cons_of_neg skips]
termination_by entries.length
decreasing_by exact length_others_lt entry rest

theorem owner_of_ofBlock? {owner : Text} {entries : List (Record × Item)} {group : Group Item}
    (found : ofBlock? (entries.filter (isOf owner)) = some group) : group.owner = owner := by
  cases owned : entries.filter (isOf owner) with
  | nil =>
      rw [owned] at found
      cases found
  | cons entry rest =>
      rw [owned] at found
      cases found
      have member : entry ∈ entries.filter (isOf owner) := by
        rw [owned]
        exact List.mem_cons_self
      exact beq_iff_eq.mp (List.mem_filter.mp member).2

/-- The group of an owner is that of its entries. -/
theorem filter_ofEntries (owner : Text) (entries : List (Record × Item)) :
    ((ofEntries entries).filter fun group => group.owner == owner) =
      (ofBlock? (entries.filter (isOf owner))).toList := by
  match entries with
  | [] => rfl
  | entry :: rest =>
      rw [ofEntries_cons, List.filter_append, filter_ofEntries]
      by_cases same : owner = Text.fold entry.1.owner
      · subst same
        rw [filter_isOf_self, List.filter_eq_self.mpr]
        · exact List.append_nil _
        · intro group member
          exact beq_iff_eq.mpr (owner_of_ofBlock? (Option.mem_toList.mp member))
      · have skips : ¬ isOf owner entry = true := fun equal => same (beq_iff_eq.mp equal).symm
        rw [filter_isOf_of_ne same, List.filter_cons_of_neg skips, List.filter_eq_nil_iff.mpr]
        · rfl
        · intro group member equal
          rw [owner_of_ofBlock? (Option.mem_toList.mp member)] at equal
          exact same (beq_iff_eq.mp equal).symm
termination_by entries.length
decreasing_by exact length_others_lt entry rest

/-- The groups are just those of the blocks of their owners. -/
theorem mem_ofEntries_iff {entries : List (Record × Item)} {group : Group Item} :
    group ∈ ofEntries entries ↔ ofBlock? (entries.filter (isOf group.owner)) = some group := by
  rw [← Option.mem_toList, ← filter_ofEntries, List.mem_filter]
  exact (and_iff_left (beq_self_eq_true group.owner)).symm

theorem items_of_ofBlock? {entries : List (Record × Item)} {group : Group Item}
    (made : ofBlock? entries = some group) : group.items = entries.map Prod.snd := by
  cases entries with
  | nil => cases made
  | cons entry rest =>
      cases made
      rfl

/-- A group has all items of its owner. -/
theorem items_of_mem {entries : List (Record × Item)} {group : Group Item}
    (member : group ∈ ofEntries entries) :
    group.items = (entries.filter (isOf group.owner)).map Prod.snd :=
  items_of_ofBlock? (mem_ofEntries_iff.mp member)

/-- The item of an entry is in the group of its owner. -/
theorem exists_owner_of_mem {entries : List (Record × Item)} {entry : Record × Item}
    (member : entry ∈ entries) :
    ∃ group ∈ ofEntries entries, group.owner = Text.fold entry.1.owner
      ∧ entry.2 ∈ group.items := by
  have owned : entry ∈ entries.filter (isOf (Text.fold entry.1.owner)) :=
    List.mem_filter.mpr ⟨member, beq_self_eq_true _⟩
  rcases List.exists_cons_of_ne_nil (List.ne_nil_of_mem owned) with ⟨first, rest, block⟩
  have made : ofBlock? (entries.filter (isOf (Text.fold entry.1.owner))) =
      some ⟨first.1, first.2, rest.map Prod.snd⟩ := congrArg ofBlock? block
  have owner := owner_of_ofBlock? made
  refine ⟨_, mem_ofEntries_iff.mpr (owner.symm ▸ made), owner, ?_⟩
  rw [items_of_ofBlock? made]
  exact List.mem_map_of_mem owned

end Group

end ZoneServices
