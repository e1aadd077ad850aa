import ZoneServices.Proofs.Record.Canonical
import ZoneServices.Proofs.Synthesis.Grouped

/-!
# Identifiers identify

A service has the identifier of its first record.  Which service that is depends on this record and
on the records it is analyzed with, but not on the place of the record among them: the types of the
recognized records are apart, and a record that starts a group has all items of its owner with it.
So a record that occurs twice starts the same service twice, or only once.

Identifiers are digests of canonical texts, and records that were read have canonical texts of their
own.  Where the digests of these texts do not collide, services with the same identifier are
therefore the same, and a service of a zone is found under its identifier.
-/

namespace ZoneServices

open Directory Text

/-! ## The service of a first record -/

/-- The items that are read from the records of the owner of a record, letter case aside. -/
def itemsBeside {Item : Type} (read? : Record → Option Item) (records : List Record)
    (record : Record) : List Item :=
  ((records.filterMap (paired? read?)).filter (Group.isOf (fold record.owner))).map Prod.snd

/-- The service that a record starts among some records, if it starts one. -/
def Premises.startedBy (premises : Premises) (records : List Record) (record : Record) :
    Service Builtin :=
  match challengeOf? record, aliasOf? record with
  | some (name, challenge), _ => premises.service record name (.challenge challenge)
  | none, some (name, link) => premises.service record name (.link link)
  | none, none =>
    if (exchangerOf? record).isSome then
      premises.service record record.owner
        (.mailExchangers ⟨itemsBeside exchangerOf? records record⟩)
    else if (addressOf? record).isSome then
      premises.service record record.owner (.server ⟨itemsBeside addressOf? records record⟩)
    else
      premises.orphan record

namespace Premises

variable {premises : Premises} {records : List Record} {record : Record}

/-- The service that a record starts has the identifier of that record. -/
theorem id_startedBy :
    (premises.startedBy records record).header.id = ServiceId.ofRecord record := by
  rw [startedBy]
  split
  · rfl
  · rfl
  · split
    · rfl
    · split
      · rfl
      · rfl

theorem startedBy_challenge {name : Text} {challenge : Challenge}
    (found : challengeOf? record = some (name, challenge)) :
    premises.startedBy records record = premises.service record name (.challenge challenge) := by
  rw [startedBy, found]

theorem startedBy_link {name : Text} {link : Alias}
    (found : aliasOf? record = some (name, link)) :
    premises.startedBy records record = premises.service record name (.link link) := by
  have type := type_of_aliasOf? (Option.isSome_of_eq_some found)
  have noChallenge : (challengeOf? record).isSome = false :=
    not_challenge_of_type (by rw [type]; decide)
  rw [Option.isSome_eq_false_iff, Option.isNone_iff_eq_none] at noChallenge
  rw [startedBy, noChallenge, found]

theorem startedBy_mail (found : (exchangerOf? record).isSome = true) :
    premises.startedBy records record =
      premises.service record record.owner
        (.mailExchangers ⟨itemsBeside exchangerOf? records record⟩) := by
  have type := type_of_exchangerOf? found
  have noChallenge : (challengeOf? record).isSome = false :=
    not_challenge_of_type (by rw [type]; decide)
  have noLink : (aliasOf? record).isSome = false := not_alias_of_type (by rw [type]; decide)
  rw [Option.isSome_eq_false_iff, Option.isNone_iff_eq_none] at noChallenge noLink
  rw [startedBy, noChallenge, noLink]
  exact if_pos found

theorem startedBy_server (found : (addressOf? record).isSome = true) :
    premises.startedBy records record =
      premises.service record record.owner
        (.server ⟨itemsBeside addressOf? records record⟩) := by
  have others : record.type ≠ .txt ∧ record.type ≠ .mx ∧ record.type ≠ .cname := by
    rcases type_of_addressOf? found with type | type
    all_goals
      rw [type]
      decide
  have noChallenge := not_challenge_of_type others.1
  have noLink := not_alias_of_type others.2.2
  rw [Option.isSome_eq_false_iff, Option.isNone_iff_eq_none] at noChallenge noLink
  rw [startedBy, noChallenge, noLink]
  dsimp only
  rw [not_exchanger_of_type others.2.1]
  exact if_pos found

theorem startedBy_orphan (kept : premises.keeps record = true) :
    premises.startedBy records record = premises.orphan record := by
  rw [keeps, isRecognized] at kept
  simp only [Bool.and_eq_true, Bool.not_eq_true', Bool.or_eq_false_iff,
    Option.isSome_eq_false_iff, Option.isNone_iff_eq_none] at kept
  rcases kept with ⟨⟨⟨⟨noChallenge, noExchanger⟩, noAddress⟩, noLink⟩, _⟩
  rw [startedBy, noChallenge, noLink, noExchanger, noAddress]
  rfl

/-- Every service is the one that some record starts. -/
theorem exists_startedBy {service : Service Builtin}
    (member : service ∈ premises.services records) :
    ∃ record ∈ records, service = premises.startedBy records record := by
  simp only [services, List.mem_append] at member
  rcases member with (((member | member) | member) | member) | member
  · rcases List.mem_filterMap.mp member with ⟨record, inRecords, found⟩
    rcases Option.map_eq_some_iff.mp found with ⟨claim, read, rfl⟩
    exact ⟨record, inRecords, (startedBy_challenge read).symm⟩
  · rcases List.mem_map.mp member with ⟨group, inGroups, rfl⟩
    rcases mem_entries (Group.isFrom_of_mem inGroups).leader with ⟨inRecords, read⟩
    refine ⟨group.leader, inRecords, ?_⟩
    rw [startedBy_mail (Option.isSome_of_eq_some read), mailService_eq,
      Group.items_of_mem inGroups]
    rfl
  · rcases List.mem_map.mp member with ⟨group, inGroups, rfl⟩
    rcases mem_entries (Group.isFrom_of_mem inGroups).leader with ⟨inRecords, read⟩
    refine ⟨group.leader, inRecords, ?_⟩
    rw [startedBy_server (Option.isSome_of_eq_some read), serverService_eq,
      Group.items_of_mem inGroups]
    rfl
  · rcases List.mem_filterMap.mp member with ⟨record, inRecords, found⟩
    rcases Option.map_eq_some_iff.mp found with ⟨claim, read, rfl⟩
    exact ⟨record, inRecords, (startedBy_link read).symm⟩
  · rcases List.mem_map.mp member with ⟨record, kept, rfl⟩
    rcases List.mem_filter.mp kept with ⟨inRecords, keeps⟩
    exact ⟨record, inRecords, (startedBy_orphan keeps).symm⟩

end Premises

/-! ## Services of one identifier -/

/-- Whether canonical texts of some records have the same digest only if they are the same. -/
def AreToldApart (records : List Record) : Prop :=
  ∀ first ∈ records, ∀ second ∈ records,
    Sha1.digest (Utf8.encode first.write) = Sha1.digest (Utf8.encode second.write) →
      first.write = second.write

instance (records : List Record) : Decidable (AreToldApart records) :=
  inferInstanceAs (Decidable (∀ first ∈ records, ∀ second ∈ records, _ → _))

section

variable {premises : Premises} {records : List Record}
  (read : ∀ record ∈ records, ∃ line, Record.read line = .ok record)
  (apart : AreToldApart records)

include read apart

/-- Among records that are told apart, the identifier tells which record it is. -/
theorem eq_of_ofRecord_eq {first second : Record} (inFirst : first ∈ records)
    (inSecond : second ∈ records) (same : ServiceId.ofRecord first = ServiceId.ofRecord second) :
    first = second := by
  rcases read first inFirst with ⟨firstLine, readFirst⟩
  rcases read second inSecond with ⟨secondLine, readSecond⟩
  have sameText : first.write = second.write :=
    apart first inFirst second inSecond (congrArg ServiceId.octets same)
  exact Record.eq_of_write_eq (Record.isRead_of_read readFirst) (Record.isRead_of_read readSecond)
    sameText

/-- Services with the same identifier have the same first record, and are thus the same. -/
theorem Premises.eq_of_id_eq {first second : Service Builtin}
    (inFirst : first ∈ premises.services records) (inSecond : second ∈ premises.services records)
    (same : first.header.id = second.header.id) : first = second := by
  rcases exists_startedBy inFirst with ⟨record, member, rfl⟩
  rcases exists_startedBy inSecond with ⟨other, otherMember, rfl⟩
  rw [id_startedBy, id_startedBy] at same
  rw [eq_of_ofRecord_eq read apart member otherMember same]

end

/-- Where services with the same identifier are the same, each is found under its own. -/
theorem Zone.find?_id {zone : Zone Builtin}
    (identified : ∀ first ∈ zone.allServices, ∀ second ∈ zone.allServices,
      first.header.id = second.header.id → first = second)
    {service : Service Builtin} (member : service ∈ zone.allServices) :
    zone.find? service.header.id = some service := by
  cases found : zone.find? service.header.id with
  | none =>
      have missed := List.find?_eq_none.mp found service member
      exact absurd (beq_self_eq_true _) missed
  | some other =>
      have inZone := List.mem_of_find?_eq_some found
      have same : (other.header.id == service.header.id) = true := by
        simpa using List.find?_some found
      rw [identified other inZone service member (beq_iff_eq.mp same)]

/--
Services of an analysis with the same identifier are the same, and each is found under its
identifier in the zone, provided that no two canonical texts of the records collide.
-/
theorem services_identified (settings : Settings) (origin : Text) (records : List Record)
    (within : records.length ≤ settings.maxRecords)
    (read : ∀ record ∈ records, ∃ line, Record.read line = .ok record)
    (apart : AreToldApart records) :
    ∃ analysis,
      (Registry.builtin : Registry Unit Builtin).analyze settings origin records = .ok analysis
        ∧ (∀ first ∈ analysis.allServices, ∀ second ∈ analysis.allServices,
          first.header.id = second.header.id → first = second)
        ∧ ∀ now, ∀ service ∈ (Zone.ofAnalysis analysis now).allServices,
          (Zone.ofAnalysis analysis now).find? service.header.id = some service := by
  have goesThrough : ∃ analysis, (Registry.builtin : Registry Unit Builtin).analyze settings origin
      records = .ok analysis := ⟨_, analyze_builtin settings origin records within⟩
  rcases goesThrough with ⟨analysis, analyzed⟩
  have listed := perm_allServices analyzed
  have identified : ∀ first ∈ analysis.allServices, ∀ second ∈ analysis.allServices,
      first.header.id = second.header.id → first = second := by
    intro first inFirst second inSecond
    exact Premises.eq_of_id_eq read apart (listed.mem_iff.mp inFirst) (listed.mem_iff.mp inSecond)
  refine ⟨analysis, analyzed, identified, ?_⟩
  intro now service member
  have sameServices : (Zone.ofAnalysis analysis now).allServices = analysis.allServices := rfl
  exact Zone.find?_id (sameServices ▸ identified) member

/-- An alias that occurs twice, and the addresses of a name of which the first occurs twice. -/
def repeatedZone : List Record :=
  [ ⟨"www.example.com.".toList, .a, 300, "192.0.2.1".toList⟩,
    ⟨"ftp.example.com.".toList, .cname, 300, "www.example.com.".toList⟩,
    ⟨"WWW.example.com.".toList, .a, 300, "192.0.2.2".toList⟩,
    ⟨"ftp.example.com.".toList, .cname, 300, "www.example.com.".toList⟩,
    ⟨"www.example.com.".toList, .a, 300, "192.0.2.1".toList⟩ ]

theorem services_identified_of_repeatedZone :
    repeatedZone.length ≤ ({} : Settings).maxRecords
      ∧ (∀ record ∈ repeatedZone, ∃ line, Record.read line = .ok record)
      ∧ AreToldApart repeatedZone
      ∧ ∃ analysis,
        (Registry.builtin : Registry Unit Builtin).analyze {} "example.com".toList repeatedZone =
            .ok analysis
          ∧ analysis.allServices.map (·.body) =
            [ .link ⟨"www.example.com.".toList⟩, .link ⟨"www.example.com.".toList⟩,
              .server ⟨[.v4 ⟨192, 0, 2, 1⟩, .v4 ⟨192, 0, 2, 2⟩, .v4 ⟨192, 0, 2, 1⟩]⟩ ]
          ∧ ∀ now, ∀ service ∈ (Zone.ofAnalysis analysis now).allServices,
            (Zone.ofAnalysis analysis now).find? service.header.id = some service := by
  have within : repeatedZone.length ≤ ({} : Settings).maxRecords := by decide +kernel
  have read : ∀ record ∈ repeatedZone, ∃ line, Record.read line = .ok record := by
    have written : ∀ record ∈ repeatedZone, Record.read record.write = .ok record := by
      decide +kernel
    intro record member
    exact ⟨record.write, written record member⟩
  have apart : AreToldApart repeatedZone := by decide +kernel
  rcases services_identified {} "example.com".toList repeatedZone within read apart with
    ⟨analysis, analyzed, _, found⟩
  refine ⟨within, read, apart, analysis, analyzed, ?_, found⟩
  cases (analyze_builtin _ _ _ within).symm.trans analyzed
  decide +kernel

end ZoneServices
