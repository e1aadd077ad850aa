import ZoneServices.Proofs.Analysis.Conservation
import ZoneServices.Proofs.Synthesis.Writing
import ZoneServices.Zone.Synthesis

/-!
# What can be published again

A zone that was imported is complete when each of its services can write its records.  The services
of sound records, which were read and whose owners have no escapes, are gone through kind by
kind.  Three sorts of records are lost, and no others: records of type zero, challenges without a
token and exchangers without a target.
-/

namespace ZoneServices

open Directory Text

/-- A record that was read and whose owner has no escape. -/
structure Record.IsSound (record : Record) : Prop where
  isRead : record.IsRead
  plain : IsPlain record.owner

/-- A record read from a line whose owner has no escape is sound. -/
theorem Record.isSound_of_read {line : Text} {record : Record}
    (read : Record.read line = .ok record) (noEscape : '\\' ∉ record.owner) : record.IsSound where
  isRead := isRead_of_read read
  plain := isPlain_of_checkOwner (isRead_of_read read).owner noEscape

/-- A record whose service cannot write it again. -/
inductive Record.IsLost (record : Record) : Prop
  /-- The mnemonic of the type is shown but not read. -/
  | type (zero : record.type = .zero)
  /-- The text under the label of a challenge is empty. -/
  | token (text : record.type = .txt)
      (starts : RecordFilter.startsWithFolded record.owner Challenge.ownerStart = true)
      (empty : record.joinedText = [])
  /-- The name of the exchanger is empty. -/
  | target (mail : record.type = .mx) {preference : UInt16}
      (empty : MailExchanger.ofPayload? record.payload = some ⟨preference, []⟩)

/-! ## Services of sound records -/

/-- A service that the analysis of some records makes. -/
inductive IsMade (premises : Premises) (records : List Record) : Service Builtin → Prop
  | challenge {record : Record} {name : Text} {challenge : Challenge} (member : record ∈ records)
      (found : challengeOf? record = some (name, challenge)) :
      IsMade premises records (premises.service record name (.challenge challenge))
  | mail {group : Group MailExchanger}
      (isFrom : group.IsFrom (records.filterMap (paired? exchangerOf?))) :
      IsMade premises records
        (premises.service group.leader group.leader.owner (.mailExchangers ⟨group.items⟩))
  | server {group : Group Address}
      (isFrom : group.IsFrom (records.filterMap (paired? addressOf?))) :
      IsMade premises records
        (premises.service group.leader group.leader.owner (.server ⟨group.items⟩))
  | link {record : Record} {name : Text} {link : Alias} (member : record ∈ records)
      (found : aliasOf? record = some (name, link)) :
      IsMade premises records (premises.service record name (.link link))
  | orphan {record : Record} (member : record ∈ records) (kept : premises.keeps record = true) :
      IsMade premises records (premises.orphan record)

theorem mem_entries {Item : Type} {read? : Record → Option Item} {records : List Record}
    {record : Record} {item : Item}
    (member : (record, item) ∈ records.filterMap (paired? read?)) :
    record ∈ records ∧ read? record = some item := by
  rcases List.mem_filterMap.mp member with ⟨other, inRecords, found⟩
  rcases Option.map_eq_some_iff.mp found with ⟨_, read, same⟩
  cases same
  exact ⟨inRecords, read⟩

/-- Every service of the classification is made of one of the records. -/
theorem isMade_of_mem {premises : Premises} {records : List Record} {service : Service Builtin}
    (member : service ∈ premises.services records) : IsMade premises records service := by
  simp only [Premises.services, List.mem_append] at member
  rcases member with (((member | member) | member) | member) | member
  · rcases List.mem_filterMap.mp member with ⟨record, inRecords, found⟩
    rcases Option.map_eq_some_iff.mp found with ⟨claim, read, rfl⟩
    exact .challenge inRecords read
  · rcases List.mem_map.mp member with ⟨group, inGroups, rfl⟩
    rw [mailService_eq]
    exact .mail (Group.isFrom_of_mem inGroups)
  · rcases List.mem_map.mp member with ⟨group, inGroups, rfl⟩
    rw [serverService_eq]
    exact .server (Group.isFrom_of_mem inGroups)
  · rcases List.mem_filterMap.mp member with ⟨record, inRecords, found⟩
    rcases Option.map_eq_some_iff.mp found with ⟨claim, read, rfl⟩
    exact .link inRecords read
  · rcases List.mem_map.mp member with ⟨record, kept, rfl⟩
    rcases List.mem_filter.mp kept with ⟨inRecords, keeps⟩
    exact .orphan inRecords keeps

/-! ## What a service writes -/

namespace Premises

variable (premises : Premises)

/-- What a service writes in the zone that it was made for. -/
def synthesis (service : Service Builtin) : Synthesis :=
  service.synthesize premises.zoneTtl premises.origin

/-- The time to live at which the service of a record is written. -/
def writtenTtl (record : Record) : UInt32 :=
  if premises.storedTtl record = 0 then premises.zoneTtl else premises.storedTtl record

variable {premises}

theorem synthesis_of_ok {record : Record} {name : Text} {body : Builtin} {written : List Record}
    (ok : ServiceBody.records body (Owner.relativeTo name premises.origin)
      (premises.writtenTtl record) premises.origin = .ok written) :
    premises.synthesis (premises.service record name body) = ⟨written, []⟩ := by
  have made : (premises.service record name body).records premises.zoneTtl premises.origin =
      .ok written := ok
  rw [synthesis, Service.synthesize_eq, made]

theorem not_settles_of_error (body : Builtin) {record : Record} {name : Text}
    (failed : ∃ error, ServiceBody.records body (Owner.relativeTo name premises.origin)
      (premises.writtenTtl record) premises.origin = .error error) :
    (premises.synthesis (premises.service record name body)).isComplete = false := by
  rcases failed with ⟨error, failed⟩
  have made : (premises.service record name body).records premises.zoneTtl premises.origin =
      .error error := failed
  rw [synthesis, Service.synthesize_eq, made]
  rfl

theorem records_orphan {kept : Orphan} :
    ServiceBody.records (Builtin.orphan kept) = kept.records := rfl

variable (premises)

/-- A challenge with a token is written as one text record behind its label. -/
theorem synthesis_challenge (record : Record) {challenge : Challenge}
    (nonempty : challenge.token ≠ []) (name : Text) :
    premises.synthesis (premises.service record name (.challenge challenge)) =
      ⟨[⟨Owner.resolve
          (Owner.join [Challenge.label, Owner.relativeTo name premises.origin]) premises.origin,
        .txt, premises.writtenTtl record, CharacterString.writeText challenge.token⟩], []⟩ :=
  synthesis_of_ok (Challenge.records_eq nonempty _ _ _)

/-- Exchangers that name hosts are written in their order, all on the owner of the group. -/
theorem synthesis_mail (record : Record) {exchangers : List MailExchanger}
    (named : ∀ exchanger ∈ exchangers, ∃ exchange, exchanger.IsNamed exchange) (name : Text) :
    premises.synthesis (premises.service record name (.mailExchangers ⟨exchangers⟩)) =
      ⟨exchangers.map fun exchanger =>
        ⟨Owner.resolve (Owner.relativeTo name premises.origin) premises.origin, .mx,
          premises.writtenTtl record, exchanger.writtenPayload⟩, []⟩ :=
  synthesis_of_ok (MailExchangers.records_eq ⟨exchangers⟩ named _ _ _)

theorem synthesis_server (record : Record) {addresses : List Address}
    (nonempty : addresses ≠ []) (name : Text) :
    premises.synthesis (premises.service record name (.server ⟨addresses⟩)) =
      ⟨addresses.map fun address =>
        ⟨Owner.resolve (Owner.relativeTo name premises.origin) premises.origin,
          Server.addressType address, premises.writtenTtl record, address.write⟩, []⟩ :=
  synthesis_of_ok (Server.records_eq ⟨addresses⟩ nonempty _ _ _)

theorem synthesis_link (record : Record) {link : Alias} (solid : IsSolid link.target)
    (nonempty : link.target ≠ []) (name : Text) :
    premises.synthesis (premises.service record name (.link link)) =
      ⟨[⟨Owner.resolve (Owner.relativeTo name premises.origin) premises.origin, .cname,
        premises.writtenTtl record, Owner.qualified link.target⟩], []⟩ :=
  synthesis_of_ok (Alias.records_eq solid nonempty _ _ _)

variable {premises}

/-- An orphan is written as the record that it is. -/
theorem synthesis_orphan {record : Record} (isRead : record.IsRead) (other : record.type ≠ .zero)
    (same : fold record.owner =
      fold (Owner.resolve (Owner.relativeTo record.owner premises.origin) premises.origin)) :
    premises.synthesis (premises.orphan record) =
      ⟨[{ record with
        owner := Owner.resolve (Owner.relativeTo record.owner premises.origin) premises.origin
        ttl := premises.writtenTtl record }], []⟩ := by
  have written := Orphan.records_eq isRead other same (premises.writtenTtl record)
  rw [← records_orphan] at written
  exact synthesis_of_ok written

/-- An empty token cannot be written. -/
theorem not_settles_challenge {challenge : Challenge} (empty : challenge.token = [])
    (record : Record) (name : Text) :
    (premises.synthesis (premises.service record name (.challenge challenge))).isComplete = false :=
  not_settles_of_error (.challenge challenge) (Challenge.records_eq_error empty _ _ _)

theorem not_settles_mail {exchangers : List MailExchanger} {exchanger : MailExchanger}
    (member : exchanger ∈ exchangers) (empty : exchanger.target = []) (record : Record)
    (name : Text) :
    (premises.synthesis
      (premises.service record name (.mailExchangers ⟨exchangers⟩))).isComplete = false :=
  not_settles_of_error (.mailExchangers ⟨exchangers⟩)
    (MailExchangers.records_eq_error ⟨exchangers⟩ member empty _ _ _)

/-- A record of the type zero cannot be written back, for its name is refused. -/
theorem not_settles_orphan {record : Record} (isRead : record.IsRead) (zero : record.type = .zero)
    (same : fold record.owner =
      fold (Owner.resolve (Owner.relativeTo record.owner premises.origin) premises.origin)) :
    (premises.synthesis (premises.orphan record)).isComplete = false := by
  have failed := Orphan.records_eq_error isRead zero same (premises.writtenTtl record)
  rw [← records_orphan] at failed
  exact not_settles_of_error (.orphan _) failed

end Premises

/-! ## What sound records hold -/

/-- An origin that may be one: a plain name, or one with an escape before its last dots. -/
theorem plain_or_escape_of_checkOwner {origin : Text}
    (checked : Record.checkOwner origin = .ok ()) :
    IsPlain origin ∨ '\\' ∈ trimEndDots origin := by
  by_cases escape : '\\' ∈ origin
  · exact .inr (mem_dropEndWhile escape (by decide))
  · exact .inl (isPlain_of_checkOwner checked escape)

theorem qualified_of_checkOwner {origin : Text} (checked : Record.checkOwner origin = .ok ()) :
    Owner.qualified origin = origin := by
  have dot : endsWithDot origin = true := by
    rcases Record.checkOwner_eq_ok_iff.mp checked with rfl | ⟨dot, _⟩
    · decide
    · exact dot
  exact Owner.qualified_of_endsWithDot dot

/-- A plain name is found again from its place in the zone, up to letter case. -/
theorem fold_resolve_relativeTo {name origin : Text} (plain : IsPlain name)
    (zone : Record.checkOwner origin = .ok ()) :
    fold (Owner.resolve (Owner.relativeTo name origin) origin) = fold name :=
  fold_resolve (placement_relativeTo plain (plain_or_escape_of_checkOwner zone))

/-- An exchanger with a target has the name that was read from its record. -/
theorem exists_exchange {record : Record} {exchanger : MailExchanger}
    (found : exchangerOf? record = some exchanger) (nonempty : exchanger.target ≠ []) :
    ∃ preference exchange,
      (Payload.tokens? record.payload).bind Payload.exchanger? = some (preference, exchange)
        ∧ exchanger.IsNamed exchange := by
  rcases MailExchanger.ofPayload?_eq_some_iff.mp (among_eq_some_iff.mp found).2 with
    ⟨_, preference, exchange, read, rfl⟩
  rcases Option.bind_eq_some_iff.mp read with ⟨tokens, _, named⟩
  exact ⟨preference, exchange, read, MailExchanger.areAccepted_of_exchanger? named, rfl, nonempty⟩

/-- The target of an exchanger that was read names a host. -/
theorem exists_named {record : Record} {exchanger : MailExchanger}
    (found : exchangerOf? record = some exchanger) (nonempty : exchanger.target ≠ []) :
    ∃ exchange, exchanger.IsNamed exchange := by
  rcases exists_exchange found nonempty with ⟨_, exchange, _, isNamed⟩
  exact ⟨exchange, isNamed⟩

/-- A link stands on the owner of its record, and its target is not empty. -/
theorem target_of_aliasOf? {record : Record} {name : Text} {link : Alias}
    (found : aliasOf? record = some (name, link)) :
    name = record.owner ∧ link.target = record.target ∧ record.target ≠ [] := by
  have read := (among_eq_some_iff.mp found).2
  rw [readAlias?] at read
  split at read
  · cases read
  · rename_i nonempty
    cases read
    exact ⟨rfl, rfl, by simpa using nonempty⟩

theorem token_of_challengeOf? {record : Record} {name : Text} {challenge : Challenge}
    (found : challengeOf? record = some (name, challenge)) :
    name = record.owner.drop Challenge.ownerStart.length ∧ challenge.token = record.joinedText := by
  have read := (among_eq_some_iff.mp found).2
  rw [readChallenge?] at read
  split at read
  · cases read
    exact ⟨rfl, rfl⟩
  · cases read

/-- The text of a record that was read can be read. -/
theorem strings?_isSome {record : Record} (isRead : record.IsRead) (text : record.type = .txt) :
    record.strings?.isSome = true := by
  have canonical := isRead.canonical
  rw [text, Payload.normalize_txt_eq_ok_iff] at canonical
  rcases canonical with ⟨strings, read, _⟩
  rw [Record.strings?, if_pos text, read]
  rfl

/-- A service made of sound records, none of which is lost, is written without a failure. -/
theorem settles_of_isMade {premises : Premises} {records : List Record} {service : Service Builtin}
    (zone : Record.checkOwner premises.origin = .ok ())
    (sound : ∀ record ∈ records, record.IsSound) (kept : ∀ record ∈ records, ¬ record.IsLost)
    (made : IsMade premises records service) : (premises.synthesis service).isComplete = true := by
  cases made with
  | @challenge record name challenge member found =>
      rcases among_eq_some_iff.mp found with ⟨passed, _⟩
      rw [passes_challengeFilters, Bool.and_eq_true, beq_iff_eq] at passed
      -- Without a token the record would be a lost one.
      have nonempty : challenge.token ≠ [] := by
        intro empty
        rw [(token_of_challengeOf? found).2] at empty
        exact kept record member (.token passed.2 passed.1 empty)
      rw [premises.synthesis_challenge record nonempty]
      rfl
  | @mail group isFrom =>
      have named : ∀ exchanger ∈ group.items, ∃ exchange, exchanger.IsNamed exchange := by
        -- Each exchanger of the group came from a record of its own, and that record is not lost.
        intro exchanger inGroup
        rcases isFrom.items exchanger inGroup with ⟨record, inEntries⟩
        rcases mem_entries inEntries with ⟨member, found⟩
        apply exists_named found
        intro empty
        rcases among_eq_some_iff.mp found with ⟨passed, read⟩
        rw [passes_ofType, beq_iff_eq] at passed
        have bare : exchanger = ⟨exchanger.preference, []⟩ := by rw [← empty]
        rw [bare] at read
        exact kept record member (.target passed read)
      rw [premises.synthesis_mail group.leader named]
      rfl
  | @server group isFrom =>
      rw [premises.synthesis_server group.leader (Group.items_ne_nil group)]
      rfl
  | @link record name link member found =>
      rcases target_of_aliasOf? found with ⟨rfl, target, nonempty⟩
      have solid : IsSolid link.target := by
        rw [target]
        exact Alias.isSolid_target nonempty
      rw [premises.synthesis_link record solid (by rw [target]; exact nonempty)]
      rfl
  | @orphan record member _ =>
      have other : record.type ≠ .zero := fun zero => kept record member (.type zero)
      have same := fold_resolve_relativeTo (sound record member).plain zone
      rw [Premises.synthesis_orphan (sound record member).isRead other same.symm]
      rfl

theorem keeps_of_zero {premises : Premises} {record : Record} (zero : record.type = .zero) :
    premises.keeps record = true := by
  have unrecognized : isRecognized record = false := by
    rw [isRecognized, not_challenge_of_type (by rw [zero]; decide),
      not_exchanger_of_type (by rw [zero]; decide), not_address_of_type (by rw [zero]; decide),
      not_alias_of_type (by rw [zero]; decide)]
    rfl
  have notDropped : premises.drops record = false := by
    rw [Premises.drops, zero]
    rfl
  rw [Premises.keeps, unrecognized, notDropped]
  rfl

/-- A text record under the challenge label is recognized even when its text is empty. -/
theorem challengeOf?_of_joinedText_eq_nil {record : Record} (isRead : record.IsRead)
    (text : record.type = .txt)
    (starts : RecordFilter.startsWithFolded record.owner Challenge.ownerStart = true)
    (empty : record.joinedText = []) :
    challengeOf? record = some (record.owner.drop Challenge.ownerStart.length, ⟨[]⟩) := by
  refine among_eq_some_iff.mpr ⟨?_, ?_⟩
  · rw [passes_challengeFilters, starts, beq_iff_eq.mpr text]
    rfl
  · rw [readChallenge?, if_pos (strings?_isSome isRead text), empty]

/-- A lost record has a service that cannot write it. -/
theorem exists_not_settles {premises : Premises} {records : List Record} {record : Record}
    (zone : Record.checkOwner premises.origin = .ok ()) (member : record ∈ records)
    (sound : record.IsSound) (lost : record.IsLost) :
    ∃ service ∈ premises.services records, (premises.synthesis service).isComplete = false := by
  cases lost with
  | type zero =>
      refine ⟨premises.orphan record, List.mem_append_right _ ?_, ?_⟩
      · exact List.mem_map_of_mem (List.mem_filter.mpr ⟨member, keeps_of_zero zero⟩)
      · exact Premises.not_settles_orphan sound.isRead zero
          (fold_resolve_relativeTo sound.plain zone).symm
  | token text starts empty =>
      have found := challengeOf?_of_joinedText_eq_nil sound.isRead text starts empty
      refine ⟨premises.service record (record.owner.drop Challenge.ownerStart.length)
        (.challenge ⟨[]⟩), ?_, Premises.not_settles_challenge rfl _ _⟩
      · simp only [Premises.services, List.append_assoc]
        apply List.mem_append_left
        exact List.mem_filterMap.mpr ⟨record, member, by rw [Premises.serviceOf?, found]; rfl⟩
  | @target mail preference empty =>
      have found : exchangerOf? record = some ⟨preference, []⟩ := by
        refine among_eq_some_iff.mpr ⟨?_, empty⟩
        rw [passes_ofType, beq_iff_eq.mpr mail]
      have inEntries : (record, ⟨preference, []⟩) ∈ records.filterMap (paired? exchangerOf?) :=
        List.mem_filterMap.mpr ⟨record, member, by rw [paired?, found]; rfl⟩
      rcases Group.exists_group_of_mem inEntries with ⟨group, inGroups, inGroup⟩
      refine ⟨premises.mailService group, ?_, ?_⟩
      · simp only [Premises.services, List.append_assoc]
        apply List.mem_append_right
        apply List.mem_append_left
        exact List.mem_map_of_mem inGroups
      · rw [mailService_eq]
        exact Premises.not_settles_mail inGroup rfl _ _

/-! ## The synthesis of a zone -/

/-- A zone is generated without a failure exactly if each of its services is. -/
theorem isComplete_generate {Body : Type} [ServiceBody Body] (zone : Zone Body) (origin : Text) :
    (zone.generate origin).isComplete = true ↔
      ∀ service ∈ zone.allServices,
        (service.synthesize zone.header.defaultTtl (Owner.qualified origin)).isComplete = true := by
  rw [Zone.generate_eq, Synthesis.isComplete, List.isEmpty_iff, List.flatMap_eq_nil_iff]
  exact forall₂_congr fun _ _ => List.isEmpty_iff.symm

/--
An imported zone can be published as a whole exactly if it has none of the lost records: none of
type zero, no challenge without a token and no exchanger without a target.
-/
theorem isComplete_generate_iff (settings : Settings) {origin : Text} {records : List Record}
    (now : Timestamp) (zone : Record.checkOwner origin = .ok ())
    (within : records.length ≤ settings.maxRecords)
    (read : ∀ record ∈ records, ∃ line, Record.read line = .ok record)
    (noEscape : ∀ record ∈ records, '\\' ∉ record.owner) :
    ∃ analysis,
      (Registry.builtin : Registry Unit Builtin).analyze settings origin records = .ok analysis
        ∧ (((Zone.ofAnalysis analysis now).generate origin).isComplete = true ↔
          ∀ record ∈ records, ¬ record.IsLost) := by
  have qualified : Owner.qualified origin = origin := qualified_of_checkOwner zone
  have sound : ∀ record ∈ records, record.IsSound := by
    intro record member
    rcases read record member with ⟨line, written⟩
    exact Record.isSound_of_read written (noEscape record member)
  refine ⟨_, analyze_builtin settings origin records within, ?_⟩
  let premises := Premises.ofZone origin records settings.emptyTtl
  have zone : Record.checkOwner premises.origin = .ok () := by
    rw [← qualified] at zone
    exact zone
  have same : ∀ service, service ∈ inOrder (collect Premises.subdomain (premises.services records))
      ↔ service ∈ premises.services records :=
    fun service => (perm_inOrder_collect _).mem_iff
  rw [isComplete_generate]
  constructor
  · intro complete record member lost
    obtain ⟨service, inServices, fails⟩ := exists_not_settles zone member (sound record member) lost
    have settles := complete service ((same service).mpr inServices)
    cases fails.symm.trans settles
  · intro kept service inZone
    exact settles_of_isMade zone sound kept (isMade_of_mem ((same service).mp inZone))

/-- A zone with a service of each kind. -/
def plainZone : List Record :=
  [ ⟨"www.Example.com.".toList, .cname, 300, "host.example.net".toList⟩,
    ⟨"example.com.".toList, .mx, 300, "10 mail.example.net".toList⟩,
    ⟨"example.com.".toList, .a, 600, "192.0.2.1".toList⟩,
    ⟨"_Scaleway-Challenge.example.com.".toList, .txt, 600, "\"token\"".toList⟩,
    ⟨"example.com.".toList, ⟨99⟩, 300, "\\# 1 ff".toList⟩ ]

/-- The records of the plain zone are all read from their lines. -/
theorem read_of_mem_plainZone : ∀ record ∈ plainZone, ∃ line, Record.read line = .ok record := by
  have written : ∀ record ∈ plainZone, Record.read record.write = .ok record := by decide +kernel
  intro record member
  exact ⟨record.write, written record member⟩

theorem isComplete_generate_of_plainZone :
    ∃ analysis,
      (Registry.builtin : Registry Unit Builtin).analyze {} "example.com.".toList plainZone =
          .ok analysis
        ∧ ((Zone.ofAnalysis analysis .epoch).generate "example.com.".toList).isComplete = true := by
  have kept : ∀ record ∈ plainZone, record.type ≠ .zero
      ∧ (record.type = .txt → record.joinedText ≠ [])
      ∧ (MailExchanger.ofPayload? record.payload).map (·.target) ≠ some [] := by
    decide +kernel
  have zone : Record.checkOwner "example.com.".toList = .ok () := by decide +kernel
  rcases isComplete_generate_iff {} .epoch zone (by decide) read_of_mem_plainZone (by decide) with
    ⟨analysis, analyzed, complete⟩
  refine ⟨analysis, analyzed, complete.mpr ?_⟩
  intro record member lost
  rcases kept record member with ⟨other, token, target⟩
  cases lost with
  | type zero => exact other zero
  | token text _ empty => exact token text empty
  | target _ empty => exact target (by rw [empty]; rfl)

/-- A text under the label of challenges that is empty. -/
def emptyChallenge : Record :=
  ⟨"_scaleway-challenge.example.com.".toList, .txt, 300, "\"\"".toList⟩

/-- Not every zone of sound records can be published as a whole after it was imported. -/
theorem not_isComplete_generate_of_emptyChallenge :
    Record.checkOwner "example.com.".toList = .ok ()
      ∧ Record.read "_scaleway-challenge.example.com. 300 IN TXT \"\"".toList = .ok emptyChallenge
      ∧ '\\' ∉ emptyChallenge.owner
      ∧ ∃ analysis,
        (Registry.builtin : Registry Unit Builtin).analyze {} "example.com.".toList
            [emptyChallenge] = .ok analysis
          ∧ ((Zone.ofAnalysis analysis .epoch).generate "example.com.".toList).isComplete =
            false := by
  have failed : (((Registry.builtin : Registry Unit Builtin).analyze {} "example.com.".toList
      [emptyChallenge]).toOption.any fun analysis =>
        !((Zone.ofAnalysis analysis .epoch).generate "example.com.".toList).isComplete) = true := by
    decide +kernel
  have analyzed := analyze_builtin {} "example.com.".toList [emptyChallenge] (by decide)
  rw [analyzed] at failed
  exact ⟨by decide +kernel, by decide +kernel, by decide, _, analyzed,
    (Bool.not_eq_true' _).mp failed⟩

end ZoneServices
