import Mathlib.Data.List.Basic
import ZoneServices.Proofs.Synthesis.Completeness

/-!
# Services found again

The records that a service writes are analysed to that service again: nothing else is found in
them, and what is found has the same subdomain and the same sort.  Its body may differ, because
targets are absolute after the first time.  The services of a whole zone are found again likewise,
since no two groups of one sort have the same owner.
-/

namespace ZoneServices

open Directory Text

/-! ## Sorts of services -/

/-- The kinds of services, in the order in which they are filed. -/
inductive ServiceSort where
  | challenge
  | mail
  | server
  | link
  | orphan
deriving DecidableEq, Repr

namespace ServiceSort

/-- All sorts, in order. -/
def all : List ServiceSort := [.challenge, .mail, .server, .link, .orphan]

/-- Whether the services of a sort gather the records of one owner. -/
def isGrouped : ServiceSort → Bool
  | .mail | .server => true
  | .challenge | .link | .orphan => false

end ServiceSort

/-- The sort of a body. -/
def Builtin.sort : Builtin → ServiceSort
  | .challenge _ => .challenge
  | .mailExchangers _ => .mail
  | .server _ => .server
  | .link _ => .link
  | .orphan _ => .orphan

/-- A body in the form in which it is read from its own records. -/
def Builtin.settled : Builtin → Builtin
  | .mailExchangers mail => .mailExchangers ⟨mail.exchangers.map MailExchanger.settled⟩
  | .link body => .link ⟨Owner.qualified body.target⟩
  | body => body

namespace Premises

variable (premises : Premises)

/-- The sort of the service of a record, if it is not dropped. -/
def sortOf? (record : Record) : Option ServiceSort :=
  if (challengeOf? record).isSome then some .challenge
  else if (exchangerOf? record).isSome then some .mail
  else if (addressOf? record).isSome then some .server
  else if (aliasOf? record).isSome then some .link
  else if premises.drops record then none
  else some .orphan

/-- The services of a sort. -/
def servicesOf (sort : ServiceSort) (records : List Record) : List (Service Builtin) :=
  match sort with
  | .challenge => premises.challenges records
  | .mail => (mailGroups records).map premises.mailService
  | .server => (serverGroups records).map premises.serverService
  | .link => premises.aliases records
  | .orphan => (premises.orphans records).map premises.orphan

theorem services_eq (records : List Record) :
    premises.services records =
      ServiceSort.all.flatMap fun sort => premises.servicesOf sort records := by
  simp [services, ServiceSort.all, servicesOf]

variable {premises} {record : Record}

theorem sortOf?_of_challenge (found : (challengeOf? record).isSome = true) :
    premises.sortOf? record = some .challenge :=
  if_pos found

theorem sortOf?_of_exchanger (found : (exchangerOf? record).isSome = true) :
    premises.sortOf? record = some .mail := by
  have type := type_of_exchangerOf? found
  rw [sortOf?, not_challenge_of_type (by rw [type]; decide), if_neg Bool.false_ne_true,
    if_pos found]

theorem sortOf?_of_address (found : (addressOf? record).isSome = true) :
    premises.sortOf? record = some .server := by
  have others : record.type ≠ .txt ∧ record.type ≠ .mx := by
    rcases type_of_addressOf? found with type | type
    all_goals
      rw [type]
      decide
  rw [sortOf?, not_challenge_of_type others.1, if_neg Bool.false_ne_true,
    not_exchanger_of_type others.2, if_neg Bool.false_ne_true, if_pos found]

theorem sortOf?_of_alias (found : (aliasOf? record).isSome = true) :
    premises.sortOf? record = some .link := by
  have type := type_of_aliasOf? found
  rw [sortOf?, not_challenge_of_type (by rw [type]; decide), if_neg Bool.false_ne_true,
    not_exchanger_of_type (by rw [type]; decide), if_neg Bool.false_ne_true,
    not_address_of_type (by rw [type]; decide), if_neg Bool.false_ne_true, if_pos found]

/-- The records kept as orphans are those of the sort of orphans. -/
theorem keeps_iff_sortOf? :
    premises.keeps record = true ↔ premises.sortOf? record = some .orphan := by
  rw [keeps, isRecognized, sortOf?]
  cases (challengeOf? record).isSome with
  | true => simp
  | false =>
      cases (exchangerOf? record).isSome with
      | true => simp
      | false =>
          cases (addressOf? record).isSome with
          | true => simp
          | false =>
              cases (aliasOf? record).isSome with
              | true => simp
              | false => cases premises.drops record <;> simp

/-- A record of some sort is not dropped. -/
theorem not_drops_of_sortOf? {sort : ServiceSort} (found : premises.sortOf? record = some sort) :
    premises.drops record = false := by
  cases drops : premises.drops record with
  | false => rfl
  | true =>
      have unrecognized : isRecognized record = false := by
        apply Bool.eq_false_iff.mpr
        intro recognized
        rw [not_drops_of_isRecognized premises recognized] at drops
        cases drops
      simp only [isRecognized, Bool.or_eq_false_iff] at unrecognized
      simp [sortOf?, unrecognized, drops] at found

theorem serviceOf?_eq_none {Kind : Type} [ServiceKind Kind] [Hosts Builtin Kind]
    {read? : Record → Option (Text × Kind)} (unread : (read? record).isSome = false) :
    (premises.serviceOf? read? record : Option (Service Builtin)) = none := by
  rw [serviceOf?, Option.not_isSome_iff_eq_none.mp (Bool.eq_false_iff.mp unread)]
  rfl

theorem filterMap_paired?_eq_nil {Item : Type} {read? : Record → Option Item}
    {records : List Record} (unread : ∀ record ∈ records, (read? record).isSome = false) :
    records.filterMap (paired? read?) = [] := by
  apply List.filterMap_eq_nil_iff.mpr
  intro record member
  rw [paired?, Option.not_isSome_iff_eq_none.mp (Bool.eq_false_iff.mp (unread record member))]
  rfl

/-- Records of other sorts do not matter to the services of a sort. -/
theorem servicesOf_eq_nil {sort : ServiceSort} {records : List Record}
    (other : ∀ record ∈ records, premises.sortOf? record ≠ some sort) :
    premises.servicesOf sort records = [] := by
  cases sort with
  | challenge =>
      apply List.filterMap_eq_nil_iff.mpr
      intro record member
      apply serviceOf?_eq_none
      exact Bool.eq_false_iff.mpr fun found => other record member (sortOf?_of_challenge found)
  | mail =>
      have unread : records.filterMap (paired? exchangerOf?) = [] := filterMap_paired?_eq_nil
        fun record member => Bool.eq_false_iff.mpr
          fun found => other record member (sortOf?_of_exchanger found)
      rw [servicesOf, mailGroups, unread]
      rfl
  | server =>
      have unread : records.filterMap (paired? addressOf?) = [] := filterMap_paired?_eq_nil
        fun record member => Bool.eq_false_iff.mpr
          fun found => other record member (sortOf?_of_address found)
      rw [servicesOf, serverGroups, unread]
      rfl
  | link =>
      apply List.filterMap_eq_nil_iff.mpr
      intro record member
      apply serviceOf?_eq_none
      exact Bool.eq_false_iff.mpr fun found => other record member (sortOf?_of_alias found)
  | orphan =>
      apply List.map_eq_nil_iff.mpr
      apply List.filter_eq_nil_iff.mpr
      intro record member keeps
      exact other record member (keeps_iff_sortOf?.mp keeps)

/-! ## One service -/

/-- The service that is found in the records of a service, under the premises of the second time. -/
def revisited (premises next : Premises) (service : Service Builtin) : Service Builtin :=
  match (premises.synthesis service).records with
  | [] => service
  | first :: _ =>
    .ofBody service.body.settled (.ofRecord first) service.header.subdomain (next.storedTtl first)
      next.origin

/-- What the second analysis makes of a service is fixed by its first written record. -/
theorem revisited_eq {next : Premises} {service : Service Builtin} {first : Record}
    {others : List Record} {failures : List SynthesisFailure} {name : Text}
    (written : premises.synthesis service = ⟨first :: others, failures⟩)
    (same : Owner.relativeTo name next.origin = service.header.subdomain) :
    premises.revisited next service = next.service first name service.body.settled := by
  rw [revisited, written, Premises.service, same]

/-- Whether a service, and nothing else, is found in the records that it writes. -/
structure IsReproduced (premises next : Premises) (service : Service Builtin) : Prop where
  sorted : ∀ record ∈ (premises.synthesis service).records,
    next.sortOf? record = some service.body.sort
  found : next.servicesOf service.body.sort (premises.synthesis service).records =
    [premises.revisited next service]
  size : (premises.synthesis service).records.length = service.header.resources
  timed : ∀ record ∈ (premises.synthesis service).records,
    record.ttl = service.header.effectiveTtl premises.zoneTtl
  owned : service.body.sort.isGrouped = true → ∀ record ∈ (premises.synthesis service).records,
    fold record.owner = fold (Owner.resolve service.header.subdomain premises.origin)

/-- The items that a group is written in are one group again. -/
theorem ofEntries_written {Item : Type} {read? : Record → Option Item} {group : Group Item}
    {write : Item → Record} {again : Item → Item} (owner : Text)
    (owned : ∀ item, (write item).owner = owner)
    (reads : ∀ item ∈ group.items, read? (write item) = some (again item)) :
    Group.ofEntries ((group.items.map write).filterMap (paired? read?)) =
      [⟨write group.first, again group.first, group.others.map again⟩] := by
  have entries : (group.items.map write).filterMap (paired? read?) =
      group.items.map fun item => (write item, again item) := by
    rw [List.filterMap_map]
    apply List.filterMap_eq_map_iff_forall_eq_some.mpr
    intro item member
    rw [Function.comp_apply, paired?, reads item member]
    rfl
  have same : ∀ entry ∈ group.items.map fun item => (write item, again item),
      fold entry.1.owner = fold owner := by
    intro entry member
    rcases List.mem_map.mp member with ⟨item, _, rfl⟩
    rw [owned]
  rw [entries, Group.ofEntries_block same, Group.items]
  simp [Group.ofBlock?]

section Kinds

variable {next : Premises}

/-- A service of one record is found again if its record is. -/
theorem isReproduced_of_single {service : Service Builtin} {written : Record}
    (records : premises.synthesis service = ⟨[written], []⟩)
    (single : service.body.sort.isGrouped = false) (size : service.header.resources = 1)
    (sorted : next.sortOf? written = some service.body.sort)
    (found : next.servicesOf service.body.sort [written] = [premises.revisited next service])
    (timed : written.ttl = service.header.effectiveTtl premises.zoneTtl) :
    premises.IsReproduced next service where
  sorted := by
    rw [records]
    exact List.forall_mem_singleton.mpr sorted
  found := by
    rw [records]
    exact found
  size := by
    rw [records, size]
    rfl
  timed := by
    rw [records]
    exact List.forall_mem_singleton.mpr timed
  owned grouped := by
    cases single.symm.trans grouped

/-- A service that is written item by item is found again if each of its records is. -/
theorem isReproduced_of_items {Item : Type} {service : Service Builtin} {items : List Item}
    {write : Item → Record} (records : premises.synthesis service = ⟨items.map write, []⟩)
    (size : service.header.resources = items.length)
    (sorted : ∀ item ∈ items, next.sortOf? (write item) = some service.body.sort)
    (found : next.servicesOf service.body.sort (items.map write) =
      [premises.revisited next service])
    (timed : ∀ item, (write item).ttl = service.header.effectiveTtl premises.zoneTtl)
    (owned : ∀ item, (write item).owner =
      Owner.resolve service.header.subdomain premises.origin) :
    premises.IsReproduced next service where
  sorted := by
    rw [records]
    exact List.forall_mem_map.mpr sorted
  found := by
    rw [records]
    exact found
  size := by
    rw [records, size, List.length_map]
  timed := by
    rw [records]
    exact List.forall_mem_map.mpr fun item _ => timed item
  owned _ := by
    rw [records]
    exact List.forall_mem_map.mpr fun item _ => congrArg fold (owned item)

variable (origin : next.origin = premises.origin)
  (zone : Record.checkOwner premises.origin = .ok ())

include origin zone in
/-- The name that a record is written under has the subdomain that its own name had. -/
theorem relativeTo_written {name : Text} (plain : IsPlain name) :
    Owner.relativeTo (Owner.resolve (Owner.relativeTo name premises.origin) premises.origin)
      next.origin = Owner.relativeTo name premises.origin := by
  rw [origin]
  exact relativeTo_resolve (placement_relativeTo plain (plain_or_escape_of_checkOwner zone))

include origin zone in
/-- A challenge is found again, unless its record was owned by the bare label. -/
theorem isReproduced_challenge {name : Text} {challenge : Challenge} (sound : record.IsSound)
    (notBare : fold record.owner ≠ Challenge.ownerStart)
    (found : challengeOf? record = some (name, challenge)) (nonempty : challenge.token ≠ []) :
    premises.IsReproduced next (premises.service record name (.challenge challenge)) := by
  rcases among_eq_some_iff.mp found with ⟨passed, _⟩
  rw [passes_challengeFilters, Bool.and_eq_true] at passed
  rcases Challenge.exists_stem sound.plain passed.1 notBare with
    ⟨first, stem, _, _, isStem, dropped⟩
  have shape : name = stem ++ ['.'] := (token_of_challengeOf? found).1.trans dropped
  subst shape
  have placed : Placement premises.origin (stem ++ ['.'])
      (Owner.relativeTo (stem ++ ['.']) premises.origin) :=
    placement_relativeTo (.inr ⟨stem, isStem, rfl⟩) (plain_or_escape_of_checkOwner zone)
  have written := premises.synthesis_challenge record nonempty (stem ++ ['.'])
  rw [resolve_join Challenge.isStem_label placed isStem] at written
  generalize relative : Owner.relativeTo (stem ++ ['.']) premises.origin = sub at written placed
  have again : challengeOf? ⟨Challenge.label ++ '.' :: Owner.resolve sub premises.origin, .txt,
      premises.writtenTtl record, CharacterString.writeText challenge.token⟩ =
      some (Owner.resolve sub premises.origin, challenge) := by
    refine among_eq_some_iff.mpr ⟨?_, ?_⟩
    · rw [passes_challengeFilters, beq_self_eq_true, Bool.and_true]
      exact startsWithFolded_iff.mpr
        ⟨Challenge.ownerStart, _, (List.append_cons _ _ _), rfl⟩
    · rw [Challenge.readChallenge?_written]
      congr 2
  have place : Owner.relativeTo (Owner.resolve sub premises.origin) next.origin =
      (premises.service record (stem ++ ['.']) (Builtin.challenge challenge)).header.subdomain := by
    rw [origin, relativeTo_resolve placed]
    exact relative.symm
  refine isReproduced_of_single written rfl rfl (sortOf?_of_challenge ?_) ?_ rfl
  · rw [again]
    rfl
  · rw [revisited_eq written place]
    change List.filterMap _ [_] = _
    rw [List.filterMap_cons, serviceOf?, again]
    rfl

include origin zone in
/-- The mail exchangers of a name are found again, if their absolute targets are read as names. -/
theorem isReproduced_mail {group : Group MailExchanger} (sound : group.leader.IsSound)
    (named : ∀ exchanger ∈ group.items, ∃ exchange : Name, exchanger.IsNamed exchange
      ∧ Name.readInternational? ({ exchange with absolute := true } : Name).write =
        some { exchange with absolute := true }) :
    premises.IsReproduced next
      (premises.service group.leader group.leader.owner (.mailExchangers ⟨group.items⟩)) := by
  have written := premises.synthesis_mail group.leader
    (fun exchanger member => (named exchanger member).imp fun _ both => both.1) group.leader.owner
  have place := relativeTo_written origin zone sound.plain
  generalize shape : Owner.resolve (Owner.relativeTo group.leader.owner premises.origin)
    premises.origin = owner at written place
  have reads : ∀ exchanger ∈ group.items,
      exchangerOf? ⟨owner, .mx, premises.writtenTtl group.leader, exchanger.writtenPayload⟩ =
        some exchanger.settled := by
    intro exchanger member
    rcases named exchanger member with ⟨exchange, isNamed, kept⟩
    refine among_eq_some_iff.mpr ⟨?_, MailExchanger.ofPayload?_writtenPayload isNamed kept⟩
    rw [passes_ofType, beq_self_eq_true]
  refine isReproduced_of_items written rfl ?_ ?_ (fun _ => rfl) (fun _ => shape.symm)
  · intro exchanger inGroup
    apply sortOf?_of_exchanger
    rw [reads exchanger inGroup]
    rfl
  · rw [revisited_eq written place]
    change (Group.ofEntries _).map next.mailService = _
    rw [ofEntries_written owner (fun _ => rfl) reads, List.map_singleton, mailService_eq]
    rfl

include origin zone in
/-- The addresses of a name are found again. -/
theorem isReproduced_server {group : Group Address} (sound : group.leader.IsSound) :
    premises.IsReproduced next
      (premises.service group.leader group.leader.owner (.server ⟨group.items⟩)) := by
  have written := premises.synthesis_server group.leader group.items_ne_nil group.leader.owner
  have place := relativeTo_written origin zone sound.plain
  generalize shape : Owner.resolve (Owner.relativeTo group.leader.owner premises.origin)
    premises.origin = owner at written place
  have reads : ∀ address ∈ group.items,
      addressOf? ⟨owner, Server.addressType address, premises.writtenTtl group.leader,
        address.write⟩ = some (id address) := by
    intro address _
    refine among_eq_some_iff.mpr ⟨?_, Server.address?_written owner _ address⟩
    rw [passes_addressTypes]
    cases address with
    | v4 _ => rfl
    | v6 _ => rfl
  refine isReproduced_of_items written rfl ?_ ?_ (fun _ => rfl) (fun _ => shape.symm)
  · intro address inGroup
    apply sortOf?_of_address
    rw [reads address inGroup]
    rfl
  · rw [revisited_eq written place]
    change (Group.ofEntries _).map next.serverService = _
    rw [ofEntries_written owner (fun _ => rfl) reads, List.map_singleton, serverService_eq,
      List.map_id]
    rfl

include origin zone in
/-- An alias is found again; its target is absolute then. -/
theorem isReproduced_link {name : Text} {link : Alias} (sound : record.IsSound)
    (found : aliasOf? record = some (name, link)) :
    premises.IsReproduced next (premises.service record name (.link link)) := by
  rcases target_of_aliasOf? found with ⟨rfl, target, nonempty⟩
  rw [← target] at nonempty
  have solid : IsSolid link.target := by
    rw [target] at nonempty ⊢
    exact Alias.isSolid_target nonempty
  have written := premises.synthesis_link record solid nonempty record.owner
  have place := relativeTo_written origin zone sound.plain
  generalize Owner.resolve (Owner.relativeTo record.owner premises.origin) premises.origin =
    owner at written place
  have again : aliasOf? ⟨owner, .cname, premises.writtenTtl record,
      Owner.qualified link.target⟩ = some (owner, ⟨Owner.qualified link.target⟩) := by
    refine among_eq_some_iff.mpr ⟨?_, Alias.readAlias?_written solid nonempty owner _⟩
    rw [passes_ofType, beq_self_eq_true]
  refine isReproduced_of_single written rfl rfl (sortOf?_of_alias ?_) ?_ rfl
  · rw [again]
    rfl
  · rw [revisited_eq written place]
    change List.filterMap _ [_] = _
    rw [List.filterMap_cons, serviceOf?, again]
    rfl

theorem isSome_among {Value : Type} (isWanted : Record → Bool) (read? : Record → Option Value)
    (record : Record) :
    (among isWanted read? record).isSome = (isWanted record && (read? record).isSome) := by
  rw [among]
  cases isWanted record with
  | true => rfl
  | false => rfl

theorem isSome_challengeOf?_of_fold_eq {owner : Text} (same : fold record.owner = fold owner)
    (ttl : UInt32) :
    (challengeOf? { record with owner := owner, ttl := ttl }).isSome =
      (challengeOf? record).isSome := by
  have starts : RecordFilter.startsWithFolded owner Challenge.ownerStart =
      RecordFilter.startsWithFolded record.owner Challenge.ownerStart := by
    rw [Bool.eq_iff_iff]
    exact ⟨startsWithFolded_of_fold_eq same.symm, startsWithFolded_of_fold_eq same⟩
  have readable : (readChallenge? { record with owner := owner, ttl := ttl }).isSome =
      (readChallenge? record).isSome := by
    have strings : Record.strings? { record with owner := owner, ttl := ttl } =
      record.strings? := rfl
    rw [readChallenge?, readChallenge?, strings]
    cases record.strings?.isSome with
    | true => rfl
    | false => rfl
  rw [challengeOf?, isSome_among, isSome_among, passes_challengeFilters,
    passes_challengeFilters, starts, readable]

theorem isSome_aliasOf?_with (record : Record) (owner : Text) (ttl : UInt32) :
    (aliasOf? { record with owner := owner, ttl := ttl }).isSome = (aliasOf? record).isSome := by
  have readable : (readAlias? { record with owner := owner, ttl := ttl }).isSome =
      (readAlias? record).isSome := by
    have target : Record.target { record with owner := owner, ttl := ttl } = record.target := rfl
    rw [readAlias?, readAlias?, target]
    cases record.target.isEmpty with
    | true => rfl
    | false => rfl
  rw [aliasOf?, isSome_among, isSome_among, passes_ofType, passes_ofType, readable]

/-- What becomes of a record does not depend on its time to live or the letter case of its owner. -/
theorem sortOf?_of_fold_eq (origin : next.origin = premises.origin) {owner : Text}
    (same : fold record.owner = fold owner) (ttl : UInt32) :
    next.sortOf? { record with owner := owner, ttl := ttl } = premises.sortOf? record := by
  have exchangers : (exchangerOf? { record with owner := owner, ttl := ttl }).isSome =
      (exchangerOf? record).isSome := by
    rw [exchangerOf?, isSome_among, isSome_among, passes_ofType, passes_ofType]
  have addresses : (addressOf? { record with owner := owner, ttl := ttl }).isSome =
      (addressOf? record).isSome := by
    rw [addressOf?, isSome_among, isSome_among, passes_addressTypes, passes_addressTypes]
    rfl
  have drops : next.drops { record with owner := owner, ttl := ttl } = premises.drops record := by
    rw [Premises.drops, Premises.drops, origin, sameFolded, sameFolded, same]
  rw [sortOf?, sortOf?, isSome_challengeOf?_of_fold_eq same, exchangers, addresses,
    isSome_aliasOf?_with, drops]

include origin zone in
/-- An orphan is found again, if its type can be read. -/
theorem isReproduced_orphan (sound : record.IsSound) (kept : premises.keeps record = true)
    (other : record.type ≠ .zero) : premises.IsReproduced next (premises.orphan record) := by
  have same := (fold_resolve_relativeTo sound.plain zone).symm
  have written := synthesis_orphan sound.isRead other same
  have place := relativeTo_written origin zone sound.plain
  generalize Owner.resolve (Owner.relativeTo record.owner premises.origin) premises.origin =
    owner at same written place
  have sorted := (sortOf?_of_fold_eq origin same (premises.writtenTtl record)).trans
    (keeps_iff_sortOf?.mp kept)
  refine isReproduced_of_single written rfl rfl sorted ?_ rfl
  rw [revisited_eq written place]
  change List.map _ (List.filter _ [_]) = _
  rw [List.filter_cons_of_pos (keeps_iff_sortOf?.mpr sorted)]
  rfl

end Kinds

end Premises

/-! ## Regular records -/

/--
A sound record that is not a text under the bare label of challenges; and if it names an exchanger,
that name is read again when it is written in its absolute form.
-/
structure Record.IsRegular (record : Record) : Prop extends record.IsSound where
  notBare : record.type = .txt → fold record.owner ≠ Challenge.ownerStart
  exchange : record.type = .mx → ∀ preference exchange,
    (Payload.tokens? record.payload).bind Payload.exchanger? = some (preference, exchange) →
      Name.readInternational? ({ exchange with absolute := true } : Name).write =
        some { exchange with absolute := true }

/-- An exchanger read from a record names a host that its absolute text is read back as. -/
theorem exists_named_of_isRegular {record : Record} (regular : record.IsRegular)
    {exchanger : MailExchanger} (found : exchangerOf? record = some exchanger)
    (nonempty : exchanger.target ≠ []) :
    ∃ exchange : Name, exchanger.IsNamed exchange
      ∧ Name.readInternational? ({ exchange with absolute := true } : Name).write =
        some { exchange with absolute := true } := by
  have mail : record.type = .mx := type_of_exchangerOf? (by rw [found]; rfl)
  rcases exists_exchange found nonempty with ⟨preference, exchange, read, isNamed⟩
  exact ⟨exchange, isNamed, regular.exchange mail preference exchange read⟩

/-- Every service of regular records that can write its records is found in them again. -/
theorem isReproduced_of_isMade {premises next : Premises} {records : List Record}
    {service : Service Builtin} (origin : next.origin = premises.origin)
    (zone : Record.checkOwner premises.origin = .ok ())
    (regular : ∀ record ∈ records, record.IsRegular) (made : IsMade premises records service)
    (settles : (premises.synthesis service).isComplete = true) :
    premises.IsReproduced next service := by
  cases made with
  | @challenge record name challenge member found =>
      have known := regular record member
      have notBare := known.notBare (type_of_challengeOf? (by rw [found]; rfl))
      apply Premises.isReproduced_challenge origin zone known.toIsSound notBare found
      intro empty
      cases (Premises.not_settles_challenge empty record name).symm.trans settles
  | @mail group isFrom =>
      rcases mem_entries isFrom.leader with ⟨leads, _⟩
      apply Premises.isReproduced_mail origin zone (regular _ leads).toIsSound
      intro exchanger inGroup
      rcases isFrom.items exchanger inGroup with ⟨record, inEntries⟩
      rcases mem_entries inEntries with ⟨member, found⟩
      apply exists_named_of_isRegular (regular record member) found
      intro empty
      cases (Premises.not_settles_mail inGroup empty _ _).symm.trans settles
  | @server group isFrom =>
      rcases mem_entries isFrom.leader with ⟨leads, _⟩
      exact Premises.isReproduced_server origin zone (regular _ leads).toIsSound
  | @link record name link member found =>
      exact Premises.isReproduced_link origin zone (regular record member).toIsSound found
  | @orphan record member kept =>
      have sound := (regular record member).toIsSound
      apply Premises.isReproduced_orphan origin zone sound kept
      intro zero
      have same := (fold_resolve_relativeTo sound.plain zone).symm
      cases (Premises.not_settles_orphan sound.isRead zero same).symm.trans settles

end ZoneServices
