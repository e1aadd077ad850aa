import ZoneServices.Proofs.Analysis.Conservation
import ZoneServices.Proofs.Text.Word

/-!
# The services of a zone, told without an analysis

Which services a zone has can be told from its records alone: one for every challenge, one for the
exchangers of every owner, one for the addresses of every owner, one for every alias and one for
every record that is left over.  No claim and no order of claims comes into it.

The main theorem says that an analysis within the limit finds exactly these services, and under
each subdomain has them in this order.
-/

namespace ZoneServices

open Directory

/-! ## Classes of records -/

/-- Whether a record is a text record that can be read and stands under the label of challenges. -/
def IsChallenge (record : Record) : Prop :=
  record.type = .txt ∧ record.strings?.isSome = true
    ∧ Challenge.ownerStart <+: Text.fold record.owner

/-- The exchanger of a record, if its payload has two fields and can be read. -/
def mailOf? (record : Record) : Option MailExchanger :=
  if record.type = .mx then MailExchanger.ofPayload? record.payload else none

/-- Whether a record makes its owner an alias; its payload must not be blank. -/
def IsAlias (record : Record) : Prop :=
  record.type = .cname ∧ Text.trim record.payload ≠ []

/-- Whether a record is of no other class, and neither signs the zone nor keeps its books. -/
def IsLeftOver (origin : Text) (record : Record) : Prop :=
  ¬ IsChallenge record ∧ mailOf? record = none ∧ Server.address? record = none
    ∧ ¬ IsAlias record ∧ record.type.isSigning = false
    ∧ ¬ (record.type = .txt
      ∧ Text.fold record.owner = Text.fold (bookkeepingLabel ++ '.' :: origin))

instance (record : Record) : Decidable (IsChallenge record) :=
  inferInstanceAs (Decidable (_ ∧ _ ∧ _))

instance (record : Record) : Decidable (IsAlias record) :=
  inferInstanceAs (Decidable (_ ∧ _))

instance (origin : Text) (record : Record) : Decidable (IsLeftOver origin record) :=
  inferInstanceAs (Decidable (_ ∧ _ ∧ _ ∧ _ ∧ _ ∧ _))

/--
The items that are read from the records of each owner, letter case aside, with the first of these
records; the owners are in the order of their first records.
-/
def byOwner {Item : Type} (read? : Record → Option Item) (records : List Record) :
    List (Record × List Item) :=
  let entries := records.filterMap fun record => (read? record).map fun item => (record, item)
  (entries.map fun entry => Text.fold entry.1.owner).eraseDups.filterMap fun owner =>
    let owned := entries.filter fun entry => Text.fold entry.1.owner == owner
    owned.head?.map fun first => (first.1, owned.map Prod.snd)

/-- The services of a zone, by their classes. -/
def Premises.classified (premises : Premises) (records : List Record) : List (Service Builtin) :=
  ((records.filter fun record => IsChallenge record).map fun record =>
      premises.service record (record.owner.drop Challenge.ownerStart.length)
        (.challenge ⟨record.joinedText⟩))
    ++ ((byOwner mailOf? records).map fun (first, exchangers) =>
      premises.service first first.owner (.mailExchangers ⟨exchangers⟩))
    ++ ((byOwner Server.address? records).map fun (first, addresses) =>
      premises.service first first.owner (.server ⟨addresses⟩))
    ++ ((records.filter fun record => IsAlias record).map fun record =>
      premises.service record record.owner (.link ⟨record.target⟩))
    ++ ((records.filter fun record => IsLeftOver premises.origin record).map fun record =>
      premises.service record record.owner (.orphan (Orphan.ofRecord record)))

/-! ## What the recognizers look for -/

/-- What the recognizer reads as a challenge is a challenge by its definition. -/
theorem challengeOf?_eq (record : Record) :
    challengeOf? record =
      if IsChallenge record then
        some (record.owner.drop Challenge.ownerStart.length, ⟨record.joinedText⟩)
      else none := by
  have label : Text.fold Challenge.ownerStart = Challenge.ownerStart := by decide
  have starts := @startsWithFolded_iff_fold record.owner Challenge.ownerStart
  rw [label] at starts
  simp only [challengeOf?, among, readChallenge?, passes_challengeFilters, Bool.and_eq_true,
    beq_iff_eq, starts]
  by_cases challenge : IsChallenge record
  · rcases challenge with ⟨text, readable, under⟩
    rw [if_pos ⟨under, text⟩, if_pos readable, if_pos ⟨text, readable, under⟩]
  · rw [if_neg challenge]
    split
    · rename_i wanted
      rw [if_neg fun readable => challenge ⟨wanted.2, readable, wanted.1⟩]
    · rfl

theorem exchangerOf?_eq : exchangerOf? = mailOf? := by
  funext record
  rw [exchangerOf?, among, passes_ofType, mailOf?]
  simp only [beq_iff_eq]

theorem addressOf?_eq : addressOf? = Server.address? := by
  funext record
  simp only [addressOf?, among, passes_addressTypes, Bool.or_eq_true, beq_iff_eq]
  split
  · rfl
  · rename_i other
    rw [Server.address?]
    split
    · rename_i address _
      rw [if_neg]
      rintro same
      cases address with
      | v4 octets => exact other (.inl same)
      | v6 groups => exact other (.inr same)
    · rfl

theorem target_eq_nil_iff {record : Record} :
    record.target = [] ↔ Text.trim record.payload = [] := by
  rw [Text.trim_eq_nil_iff, ← Text.words_eq_nil_iff, Record.target]
  cases last : (Text.words record.payload).getLast? with
  | none => simpa using last
  | some word =>
      have member := List.mem_of_getLast? last
      rw [Option.getD_some]
      constructor
      · intro empty
        exact absurd empty (Text.mem_words member).2
      · intro none
        rw [none] at member
        cases member

/-- What the recognizer reads as an alias is an alias by its definition. -/
theorem aliasOf?_eq (record : Record) :
    aliasOf? record = if IsAlias record then some (record.owner, ⟨record.target⟩) else none := by
  simp only [aliasOf?, among, passes_ofType, beq_iff_eq, readAlias?, List.isEmpty_iff,
    target_eq_nil_iff]
  by_cases link : IsAlias record
  · rw [if_pos link, if_pos link.1, if_neg link.2]
  · rw [if_neg link]
    split
    · rename_i type
      rw [if_pos (Classical.not_not.mp fun full => link ⟨type, full⟩)]
    · rfl

theorem isSome_aliasOf? {record : Record} :
    (aliasOf? record).isSome = true ↔ IsAlias record := by
  rw [aliasOf?_eq]
  split
  · rename_i link
    exact iff_of_true rfl link
  · rename_i other
    exact iff_of_false Bool.false_ne_true other

theorem isSome_challengeOf? {record : Record} :
    (challengeOf? record).isSome = true ↔ IsChallenge record := by
  rw [challengeOf?_eq]
  split
  · rename_i challenge
    exact iff_of_true rfl challenge
  · rename_i other
    exact iff_of_false Bool.false_ne_true other

/-- What the sweep keeps is what is left over by definition. -/
theorem keeps_iff {premises : Premises} {record : Record} :
    premises.keeps record = true ↔ IsLeftOver premises.origin record := by
  rw [Premises.keeps, isRecognized, Premises.drops, IsLeftOver, exchangerOf?_eq, addressOf?_eq,
    ← isSome_challengeOf?, ← isSome_aliasOf?, ← Text.sameFolded_iff]
  simp only [Bool.and_eq_true, Bool.not_eq_true', Bool.or_eq_false_iff, Bool.and_eq_false_iff,
    Option.isSome_eq_false_iff, Option.isNone_iff_eq_none, beq_eq_false_iff_ne, Bool.not_eq_true,
    ne_eq, not_and, Bool.not_eq_true, and_assoc]
  tauto

/-! ## Groups and owners -/

theorem map_ofBlock? {Item : Type} (owned : List (Record × Item)) :
    (Group.ofBlock? owned).map (fun group => (group.leader, group.items)) =
      owned.head?.map fun first => (first.1, owned.map Prod.snd) := by
  cases owned with
  | nil => rfl
  | cons first rest => rfl

/-- Items that are listed by owner are those of the groups. -/
theorem byOwner_eq {Item : Type} (read? : Record → Option Item) (records : List Record) :
    byOwner read? records =
      (Group.ofEntries (records.filterMap (paired? read?))).map fun group =>
        (group.leader, group.items) := by
  rw [Group.ofEntries_eq, List.map_filterMap]
  apply List.filterMap_congr
  intro owner _
  exact (map_ofBlock? _).symm

theorem filterMap_ite {Value : Type} (inClass : Record → Prop) [DecidablePred inClass]
    (make : Record → Value) (records : List Record) :
    records.filterMap (fun record => if inClass record then some (make record) else none) =
      (records.filter fun record => inClass record).map make := by
  rw [← List.filterMap_eq_map, List.filterMap_filter]
  simp

/-- The services that an analysis files are those of the classes, in their order. -/
theorem services_eq_classified (premises : Premises) (records : List Record) :
    premises.services records = premises.classified records := by
  have challenges : premises.challenges records =
      (records.filter fun record => IsChallenge record).map fun record =>
        premises.service record (record.owner.drop Challenge.ownerStart.length)
          (.challenge ⟨record.joinedText⟩) := by
    rw [Premises.challenges, ← filterMap_ite]
    apply List.filterMap_congr
    intro record _
    rw [Premises.serviceOf?, challengeOf?_eq]
    split <;> rfl
  have mail : (mailGroups records).map premises.mailService =
      (byOwner mailOf? records).map fun (first, exchangers) =>
        premises.service first first.owner (.mailExchangers ⟨exchangers⟩) := by
    rw [byOwner_eq, List.map_map, mailGroups, exchangerOf?_eq]
    exact List.map_congr_left fun group _ => mailService_eq premises group
  have servers : (serverGroups records).map premises.serverService =
      (byOwner Server.address? records).map fun (first, addresses) =>
        premises.service first first.owner (.server ⟨addresses⟩) := by
    rw [byOwner_eq, List.map_map, serverGroups, addressOf?_eq]
    exact List.map_congr_left fun group _ => serverService_eq premises group
  have links : premises.aliases records =
      (records.filter fun record => IsAlias record).map fun record =>
        premises.service record record.owner (.link ⟨record.target⟩) := by
    rw [Premises.aliases, ← filterMap_ite]
    apply List.filterMap_congr
    intro record _
    rw [Premises.serviceOf?, aliasOf?_eq]
    split <;> rfl
  have orphans : premises.orphans records =
      records.filter fun record => IsLeftOver premises.origin record := by
    apply List.filter_congr
    intro record _
    rw [Bool.eq_iff_iff, keeps_iff, decide_eq_true_iff]
  rw [Premises.services, challenges, mail, servers, links, orphans]
  rfl

end ZoneServices
