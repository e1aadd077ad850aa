import ZoneServices.Proofs.Analysis.Permutation
import ZoneServices.Proofs.Analysis.Refinement
import ZoneServices.Proofs.Synthesis.Completeness

/-!
# How subdomains are spelled

A service stands under the subdomain of its first record, in the letter case of that record.  The
records that a recognizer gathers are of one owner, letter case aside, and so are under one
subdomain.  But what different recognizers find on an owner, and what the sweep leaves there, is
under one subdomain only if the first records of these services spell the owner alike.

Every record is found under a subdomain that is its own, letter case aside.  The subdomains of an
analysis are all different, letter case aside, exactly if first records whose subdomains are the
same but for letter case spell them in the same way.
-/

namespace ZoneServices

open Directory Text

/-! ## Where a record stands -/

/-- The name that a record stands on: what is behind the label of a challenge, else the owner. -/
def Record.standsOn (record : Record) : Text :=
  if IsChallenge record then record.owner.drop Challenge.ownerStart.length else record.owner

/-- What a service holds of a record. -/
def Record.item (record : Record) : PayloadItem :=
  if IsChallenge record then .token record.joinedText
  else if IsAlias record then .target record.target
  else
    match mailOf? record, Server.address? record with
    | some exchanger, _ => .exchanger exchanger
    | none, some address => .address address
    | none, none => .payload record.type.write record.payload

namespace Premises

variable (premises : Premises) (records : List Record)

/-- The subdomain of a record, as its owner is spelled. -/
def placeOf (record : Record) : Text :=
  Owner.relativeTo record.standsOn premises.origin

/-- The first records of the services of a zone, in the order of the services. -/
def starters : List Record :=
  (records.filter fun record => IsChallenge record)
    ++ (byOwner mailOf? records).map Prod.fst
    ++ (byOwner Server.address? records).map Prod.fst
    ++ (records.filter fun record => IsAlias record)
    ++ records.filter fun record => IsLeftOver premises.origin record

end Premises

/-! ## Classes and owners -/

section

variable {record : Record}

theorem type_of_mailOf? (found : (mailOf? record).isSome = true) : record.type = .mx := by
  rw [← exchangerOf?_eq] at found
  exact type_of_exchangerOf? found

theorem type_of_isSome_address? (found : (Server.address? record).isSome = true) :
    record.type = .a ∨ record.type = .aaaa := by
  rw [← addressOf?_eq] at found
  exact type_of_addressOf? found

/-- A challenge stands on the name behind its label. -/
theorem standsOn_of_isChallenge (challenge : IsChallenge record) :
    record.standsOn = record.owner.drop Challenge.ownerStart.length :=
  if_pos challenge

theorem not_isChallenge_of_type (other : record.type ≠ .txt) : ¬ IsChallenge record :=
  fun challenge => other challenge.1

theorem standsOn_of_type (other : record.type ≠ .txt) : record.standsOn = record.owner :=
  if_neg (not_isChallenge_of_type other)

theorem not_isAlias_of_type (other : record.type ≠ .cname) : ¬ IsAlias record :=
  fun link => other link.1

theorem item_of_isAlias (link : IsAlias record) : record.item = .target record.target := by
  have other : ¬ IsChallenge record := not_isChallenge_of_type (by rw [link.1]; decide)
  rw [Record.item, if_neg other, if_pos link]

theorem item_of_mailOf? {exchanger : MailExchanger} (found : mailOf? record = some exchanger) :
    record.item = .exchanger exchanger := by
  have type := type_of_mailOf? (Option.isSome_of_eq_some found)
  have other : ¬ IsChallenge record := not_isChallenge_of_type (by rw [type]; decide)
  have noLink : ¬ IsAlias record := not_isAlias_of_type (by rw [type]; decide)
  rw [Record.item, if_neg other, if_neg noLink, found]

theorem item_of_address? {address : Address} (found : Server.address? record = some address) :
    record.item = .address address := by
  have others : record.type ≠ .txt ∧ record.type ≠ .cname ∧ record.type ≠ .mx := by
    rcases type_of_isSome_address? (Option.isSome_of_eq_some found) with type | type
    all_goals
      rw [type]
      decide
  have noMail : mailOf? record = none := if_neg others.2.2
  rw [Record.item, if_neg (not_isChallenge_of_type others.1),
    if_neg (not_isAlias_of_type others.2.1), noMail, found]

theorem item_of_isLeftOver {origin : Text} (leftOver : IsLeftOver origin record) :
    record.item = .payload record.type.write record.payload := by
  rcases leftOver with ⟨noChallenge, noMail, noAddress, noLink, _⟩
  rw [Record.item, if_neg noChallenge, if_neg noLink, noMail, noAddress]

end

section

variable {Item : Type} {read? : Record → Option Item} {records : List Record}

/-- An item can be read from the first record of an owner. -/
theorem isSome_of_mem_byOwner {entry : Record × List Item}
    (member : entry ∈ byOwner read? records) : (read? entry.1).isSome = true := by
  rw [byOwner_eq] at member
  rcases List.mem_map.mp member with ⟨group, inGroups, rfl⟩
  exact Option.isSome_of_eq_some (mem_entries (Group.isFrom_of_mem inGroups).leader).2

/-- What is read from a record is listed with its owner, letter case aside. -/
theorem exists_of_mem_byOwner {record : Record} {item : Item} (member : record ∈ records)
    (found : read? record = some item) :
    ∃ entry ∈ byOwner read? records, fold entry.1.owner = fold record.owner ∧ item ∈ entry.2 := by
  have inEntries : (record, item) ∈ records.filterMap (paired? read?) := by
    refine List.mem_filterMap.mpr ⟨record, member, ?_⟩
    rw [paired?, found]
    rfl
  rcases Group.exists_owner_of_mem inEntries with ⟨group, inGroups, same, inGroup⟩
  rw [byOwner_eq]
  exact ⟨_, List.mem_map_of_mem inGroups, same, inGroup⟩

end

/-! ## Subdomains of services -/

namespace Premises

variable (premises : Premises) (records : List Record)

/-- A service is filed where the record that started it has its place. -/
theorem subdomain_service {record : Record} {name : Text} (stands : record.standsOn = name)
    (body : Builtin) : subdomain (premises.service record name body) = premises.placeOf record := by
  rw [placeOf, stands]
  rfl

/-- The subdomains of the services are those of their first records. -/
theorem subdomains_classified :
    (premises.classified records).map subdomain =
      (premises.starters records).map premises.placeOf := by
  have challenges : ∀ record ∈ records.filter fun record => IsChallenge record,
      subdomain (premises.service record (record.owner.drop Challenge.ownerStart.length)
        (Builtin.challenge ⟨record.joinedText⟩)) = premises.placeOf record := by
    intro record member
    have challenge : IsChallenge record := by simpa using (List.mem_filter.mp member).2
    exact premises.subdomain_service (standsOn_of_isChallenge challenge) _
  have mail : ∀ entry ∈ byOwner mailOf? records,
      subdomain (premises.service entry.1 entry.1.owner (Builtin.mailExchangers ⟨entry.2⟩)) =
        premises.placeOf entry.1 := by
    intro entry member
    have type := type_of_mailOf? (isSome_of_mem_byOwner member)
    exact premises.subdomain_service (standsOn_of_type (by rw [type]; decide)) _
  have servers : ∀ entry ∈ byOwner Server.address? records,
      subdomain (premises.service entry.1 entry.1.owner (Builtin.server ⟨entry.2⟩)) =
        premises.placeOf entry.1 := by
    intro entry member
    have other : entry.1.type ≠ .txt := by
      rcases type_of_isSome_address? (isSome_of_mem_byOwner member) with type | type
      all_goals
        rw [type]
        decide
    exact premises.subdomain_service (standsOn_of_type other) _
  have links : ∀ record ∈ records.filter fun record => IsAlias record,
      subdomain (premises.service record record.owner (Builtin.link ⟨record.target⟩)) =
        premises.placeOf record := by
    intro record member
    have link : IsAlias record := by simpa using (List.mem_filter.mp member).2
    exact premises.subdomain_service (standsOn_of_type (by rw [link.1]; decide)) _
  have orphans : ∀ record ∈ records.filter fun record => IsLeftOver premises.origin record,
      subdomain (premises.service record record.owner (Builtin.orphan (Orphan.ofRecord record))) =
        premises.placeOf record := by
    intro record member
    have leftOver : IsLeftOver premises.origin record := by
      simpa using (List.mem_filter.mp member).2
    exact premises.subdomain_service (if_neg leftOver.1) _
  simp only [classified, starters, List.map_append, List.map_map, Function.comp_def]
  rw [List.map_congr_left challenges, List.map_congr_left mail, List.map_congr_left servers,
    List.map_congr_left links, List.map_congr_left orphans]

variable {premises records}

/-- Records that stand on names equal up to letter case have places equal up to letter case. -/
theorem fold_placeOf_eq {first second : Record}
    (same : fold first.standsOn = fold second.standsOn) :
    fold (premises.placeOf first) = fold (premises.placeOf second) := by
  rw [placeOf, placeOf, ← Owner.relativeTo_fold, ← Owner.relativeTo_fold, same]

/-- What a recognizer that gathers reads from a record is with the service of the owner. -/
theorem exists_service_of_read (premises : Premises) {Item : Type} {read? : Record → Option Item}
    {item : Item} {record : Record} (member : record ∈ records) (found : read? record = some item)
    (notText : ∀ record, (read? record).isSome = true → record.type ≠ .txt)
    (body : List Item → Builtin) {holds : Item → PayloadItem}
    (items : ∀ listed, (body listed).items = listed.map holds) :
    ∃ entry ∈ byOwner read? records,
      fold (subdomain (premises.service entry.1 entry.1.owner (body entry.2))) =
          fold (premises.placeOf record)
        ∧ holds item ∈ (premises.service entry.1 entry.1.owner (body entry.2)).body.items := by
  rcases exists_of_mem_byOwner member found with ⟨entry, listed, sameOwner, inEntry⟩
  have leads := standsOn_of_type (notText _ (isSome_of_mem_byOwner listed))
  have stands := standsOn_of_type (notText _ (Option.isSome_of_eq_some found))
  refine ⟨entry, listed, ?_, ?_⟩
  · rw [premises.subdomain_service leads]
    exact fold_placeOf_eq (by rw [leads, stands, sameOwner])
  · have holdsAll : (premises.service entry.1 entry.1.owner (body entry.2)).body.items =
        entry.2.map holds := items entry.2
    rw [holdsAll]
    exact List.mem_map_of_mem inEntry

/-- A record that no recognizer knows and that is not dropped is left over. -/
theorem isLeftOver_of_not_drops {record : Record} (kept : premises.drops record = false)
    (noChallenge : ¬ IsChallenge record) (noMail : mailOf? record = none)
    (noAddress : Server.address? record = none) (noLink : ¬ IsAlias record) :
    IsLeftOver premises.origin record := by
  rw [← exchangerOf?_eq] at noMail
  rw [← addressOf?_eq] at noAddress
  rw [← isSome_challengeOf?, Bool.not_eq_true] at noChallenge
  rw [← isSome_aliasOf?, Bool.not_eq_true] at noLink
  rw [← keeps_iff, keeps, isRecognized, noChallenge, noMail, noAddress, noLink, kept]
  rfl

/-- A record that is not dropped is with a service under its own subdomain, letter case aside. -/
theorem exists_service_of_record {record : Record} (member : record ∈ records)
    (kept : premises.drops record = false) :
    ∃ service ∈ premises.classified records,
      fold (subdomain service) = fold (premises.placeOf record)
        ∧ record.item ∈ service.body.items := by
  simp only [classified, List.mem_append, List.mem_map, List.mem_filter, decide_eq_true_eq]
  -- One case for each class of the classification, in an order that settles the types first.
  by_cases challenge : IsChallenge record
  · refine ⟨_, .inl (.inl (.inl (.inl ⟨record, ⟨member, challenge⟩, rfl⟩))), ?_, ?_⟩
    · rw [premises.subdomain_service (standsOn_of_isChallenge challenge)]
    · rw [Record.item, if_pos challenge]
      exact List.mem_singleton_self _
  by_cases link : IsAlias record
  · refine ⟨_, .inl (.inr ⟨record, ⟨member, link⟩, rfl⟩), ?_, ?_⟩
    · rw [premises.subdomain_service (if_neg challenge)]
    · rw [item_of_isAlias link]
      exact List.mem_singleton_self _
  cases mail : mailOf? record with
  | some exchanger =>
      have notText : ∀ other, (mailOf? other).isSome = true → other.type ≠ .txt := by
        intro other found
        rw [type_of_mailOf? found]
        decide
      rcases premises.exists_service_of_read member mail notText
        (fun exchangers => .mailExchangers ⟨exchangers⟩) (fun _ => rfl) with
        ⟨entry, listed, place, holds⟩
      rw [item_of_mailOf? mail]
      exact ⟨_, .inl (.inl (.inl (.inr ⟨entry, listed, rfl⟩))), place, holds⟩
  | none =>
      cases server : Server.address? record with
      | some address =>
          have notText : ∀ other, (Server.address? other).isSome = true → other.type ≠ .txt := by
            intro other found
            rcases type_of_isSome_address? found with type | type
            all_goals
              rw [type]
              decide
          rcases premises.exists_service_of_read member server notText
            (fun addresses => .server ⟨addresses⟩) (fun _ => rfl) with
            ⟨entry, listed, place, holds⟩
          rw [item_of_address? server]
          exact ⟨_, .inl (.inl (.inr ⟨entry, listed, rfl⟩)), place, holds⟩
      | none =>
          have leftOver := isLeftOver_of_not_drops kept challenge mail server link
          refine ⟨_, .inr ⟨record, ⟨member, leftOver⟩, rfl⟩, ?_, ?_⟩
          · rw [premises.subdomain_service (if_neg challenge)]
          · rw [item_of_isLeftOver leftOver]
            exact List.mem_singleton_self _

end Premises

/-! ## Subdomains of an analysis -/

/--
The subdomains of an analysis differ by more than letter case exactly if the first records of its
services spell them alike, and every record that is not dropped is with a service under its own
subdomain, letter case aside.
-/
theorem subdomains_apart_iff (settings : Settings) (origin : Text) (records : List Record)
    (within : records.length ≤ settings.maxRecords) :
    let premises := Premises.ofZone origin records settings.emptyTtl
    ∃ analysis,
      (Registry.builtin : Registry Unit Builtin).analyze settings origin records = .ok analysis
        ∧ ((∀ first ∈ analysis.services.keys, ∀ second ∈ analysis.services.keys,
            fold first = fold second → first = second) ↔
          ∀ first ∈ premises.starters records, ∀ second ∈ premises.starters records,
            fold (premises.placeOf first) = fold (premises.placeOf second) →
              premises.placeOf first = premises.placeOf second)
        ∧ ∀ record ∈ records, premises.drops record = false →
          ∃ key listed service, analysis.services.get? key = some listed ∧ service ∈ listed
            ∧ fold key = fold (premises.placeOf record) ∧ record.item ∈ service.body.items := by
  intro premises
  refine ⟨_, analyze_builtin settings origin records within, ?_, ?_⟩
  · rw [services_eq_classified]
    simp only [mem_keys_collect]
    rw [Premises.subdomains_classified]
    simp only [List.forall_mem_map]
    rfl
  · intro record member kept
    rw [services_eq_classified]
    rcases Premises.exists_service_of_record member kept with ⟨service, listed, place, holds⟩
    have filed : under Premises.subdomain (Premises.subdomain service)
        (premises.classified records) ≠ [] := List.ne_nil_of_mem (mem_under.mpr ⟨listed, rfl⟩)
    exact ⟨Premises.subdomain service, _, service, (get?_collect _ _).trans (if_neg filed),
      mem_under.mpr ⟨listed, rfl⟩, place, holds⟩

/-- Records of one name; the only one that spells it in capitals is added to a group. -/
def alikeZone : List Record :=
  [ ⟨"www.example.com.".toList, .a, 300, "192.0.2.1".toList⟩,
    ⟨"WWW.example.com.".toList, .aaaa, 300, "::1".toList⟩,
    ⟨"www.example.com.".toList, .mx, 300, "10 mail.example.com.".toList⟩,
    ⟨"_SCALEWAY-challenge.www.EXAMPLE.com.".toList, .txt, 300, "\"token\"".toList⟩ ]

theorem subdomains_apart_iff_of_alikeZone :
    alikeZone.length ≤ ({} : Settings).maxRecords ∧ ∃ analysis,
      (Registry.builtin : Registry Unit Builtin).analyze {} "example.com".toList alikeZone =
          .ok analysis
        ∧ analysis.services.keys = ["www".toList]
        ∧ ∀ record ∈ alikeZone, ∃ key listed service, analysis.services.get? key = some listed
          ∧ service ∈ listed ∧ fold key = "www".toList ∧ record.item ∈ service.body.items := by
  have within : alikeZone.length ≤ ({} : Settings).maxRecords := by decide
  have kept : ∀ record ∈ alikeZone,
      (Premises.ofZone "example.com".toList alikeZone 300).drops record = false
        ∧ fold ((Premises.ofZone "example.com".toList alikeZone 300).placeOf record) =
          "www".toList := by
    decide +kernel
  rcases subdomains_apart_iff {} "example.com".toList alikeZone within with
    ⟨analysis, analyzed, _, found⟩
  refine ⟨within, analysis, analyzed, ?_, ?_⟩
  · cases (analyze_builtin _ _ _ within).symm.trans analyzed
    decide +kernel
  · intro record member
    rcases kept record member with ⟨undropped, place⟩
    rcases found record member undropped with ⟨key, listed, service, filed, inListed, same, holds⟩
    exact ⟨key, listed, service, filed, inListed, same.trans place, holds⟩

/-- An address and an exchanger of one name, which is spelled in two ways. -/
def unlikeZone : List Record :=
  [ ⟨"www.example.com.".toList, .a, 300, "192.0.2.1".toList⟩,
    ⟨"WWW.example.com.".toList, .mx, 300, "10 mail.example.com.".toList⟩ ]

/-- An owner can have two subdomains. -/
theorem not_subdomains_apart_of_unlikeZone :
    ∃ analysis,
      (Registry.builtin : Registry Unit Builtin).analyze {} "example.com.".toList unlikeZone =
          .ok analysis
        ∧ analysis.services.keys = ["WWW".toList, "www".toList]
        ∧ ¬ ∀ first ∈ analysis.services.keys, ∀ second ∈ analysis.services.keys,
          fold first = fold second → first = second := by
  refine ⟨_, analyze_builtin {} "example.com.".toList unlikeZone (by decide), ?_, ?_⟩
  · decide +kernel
  · decide +kernel

end ZoneServices
