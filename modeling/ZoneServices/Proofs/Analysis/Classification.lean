import ZoneServices.Analysis.Pass
import ZoneServices.Kind.Builtin
import ZoneServices.Proofs.Analysis.Claiming

/-!
# What becomes of every record

Whether the built-in recognizers claim a record, and which of them does, is settled by the record
alone.  So the services of an analysis can be listed without running it: the challenges, the mail
exchangers, the servers, the aliases and the orphans, each in the order of their records.  The
main theorem says that an analysis within the limit succeeds and files exactly these services.
-/

namespace ZoneServices

open Directory

/-! ## What the recognizers read of a record -/

/-- Whether a record passes one of some filters. -/
def passes (filters : List RecordFilter) (record : Record) : Bool :=
  filters.any (·.accepts record)

/-- The filters of challenges. -/
def challengeFilters : List RecordFilter :=
  [{ type := some .txt, ownerStart := Challenge.ownerStart }]

/-- The challenge that a text record holds and the name that it stands on. -/
def readChallenge? (record : Record) : Option (Text × Challenge) :=
  if record.strings?.isSome then
    some (record.owner.drop Challenge.ownerStart.length, ⟨record.joinedText⟩)
  else
    none

/-- The challenge of a record and the name that it stands on. -/
def challengeOf? : Record → Option (Text × Challenge) :=
  among (passes challengeFilters) readChallenge?

/-- The mail exchanger of a record. -/
def exchangerOf? : Record → Option MailExchanger :=
  among (passes [.ofType .mx]) fun record => MailExchanger.ofPayload? record.payload

/-- The address of a record. -/
def addressOf? : Record → Option Address :=
  among (passes [.ofType .a, .ofType .aaaa]) Server.address?

/-- The alias that a record makes of its owner. -/
def readAlias? (record : Record) : Option (Text × Alias) :=
  if record.target.isEmpty then none else some (record.owner, ⟨record.target⟩)

/-- The alias of a record and the name that it stands on. -/
def aliasOf? : Record → Option (Text × Alias) :=
  among (passes [.ofType .cname]) readAlias?

/-- Whether one of the recognizers claims a record. -/
def isRecognized (record : Record) : Bool :=
  (challengeOf? record).isSome || (exchangerOf? record).isSome || (addressOf? record).isSome
    || (aliasOf? record).isSome

/-- Whether a record is dropped. -/
def Premises.drops (premises : Premises) (record : Record) : Bool :=
  record.type.isSigning
    || record.type == .txt
      && Text.sameFolded record.owner (bookkeepingLabel ++ '.' :: premises.origin)

/-- Whether a record is kept as an orphan. -/
def Premises.keeps (premises : Premises) (record : Record) : Bool :=
  !isRecognized record && !premises.drops record

/-! ## The services of a zone -/

/-- The mail exchangers among some records, by owner. -/
def mailGroups (records : List Record) : List (Group MailExchanger) :=
  Group.ofEntries (records.filterMap (paired? exchangerOf?))

/-- The addresses among some records, by owner. -/
def serverGroups (records : List Record) : List (Group Address) :=
  Group.ofEntries (records.filterMap (paired? addressOf?))

namespace Premises

variable (premises : Premises) (records : List Record)

/-- The challenges among some records. -/
def challenges : List (Service Builtin) :=
  records.filterMap (premises.serviceOf? challengeOf?)

/-- The service of the mail exchangers of one owner. -/
def mailService (group : Group MailExchanger) : Service Builtin :=
  premises.groupService (fun exchanger => MailExchangers.mk [exchanger]) MailExchangers.add group

/-- The service of the addresses of one owner. -/
def serverService (group : Group Address) : Service Builtin :=
  premises.groupService (fun address => Server.mk [address]) Server.add group

/-- The aliases among some records. -/
def aliases : List (Service Builtin) :=
  records.filterMap (premises.serviceOf? aliasOf?)

/-- The orphan that is made of a record. -/
def orphan (record : Record) : Service Builtin :=
  premises.service record record.owner (.orphan (Orphan.ofRecord record))

/-- The records that are kept as orphans. -/
def orphans : List Record :=
  records.filter premises.keeps

/-- All services of some records, in the order in which they are filed. -/
def services : List (Service Builtin) :=
  premises.challenges records
    ++ (mailGroups records).map premises.mailService
    ++ (serverGroups records).map premises.serverService
    ++ premises.aliases records
    ++ (premises.orphans records).map premises.orphan

end Premises

/-! ## Types of recognized records -/

theorem startsWithFolded_nil (text : Text) : RecordFilter.startsWithFolded text [] = true := by
  have cut : Text.splitAtOctet? text (Text.octetSize []) = some ([], text) :=
    Text.splitAtOctet?_eq_some_iff.mpr ⟨rfl, rfl⟩
  rw [RecordFilter.startsWithFolded, cut]
  rfl

/-- A text starts with another up to letter case if it can be cut behind such a start. -/
theorem startsWithFolded_iff {text start : Text} :
    RecordFilter.startsWithFolded text start = true ↔
      ∃ head tail, text = head ++ tail ∧ Text.fold head = Text.fold start := by
  rw [RecordFilter.startsWithFolded]
  constructor
  · intro starts
    split at starts
    · rename_i head tail cut
      exact ⟨head, tail, (Text.splitAtOctet?_eq_some_iff.mp cut).1, Text.sameFolded_iff.mp starts⟩
    · cases starts
  · rintro ⟨head, tail, cut, same⟩
    rw [Text.splitAtOctet?_eq_some_iff.mpr ⟨cut, Text.octetSize_eq_of_fold_eq same⟩]
    exact Text.sameFolded_iff.mpr same

/-- Starts are compared as those of texts in lower case. -/
theorem startsWithFolded_iff_fold {text start : Text} :
    RecordFilter.startsWithFolded text start = true ↔ Text.fold start <+: Text.fold text := by
  rw [startsWithFolded_iff]
  constructor
  · rintro ⟨head, tail, rfl, same⟩
    rw [Text.fold_append, same]
    exact List.prefix_append _ _
  · rintro ⟨rest, cut⟩
    refine ⟨text.take start.length, text.drop start.length, (List.take_append_drop _ _).symm, ?_⟩
    rw [Text.fold, List.map_take, ← Text.fold, ← cut]
    exact List.take_left' (Text.length_fold start)

theorem startsWithFolded_of_fold_eq {left right : Text} (same : Text.fold left = Text.fold right)
    {start : Text} (starts : RecordFilter.startsWithFolded left start = true) :
    RecordFilter.startsWithFolded right start = true := by
  rw [startsWithFolded_iff_fold] at starts ⊢
  rwa [← same]

theorem endsWithFolded_nil (text : Text) : RecordFilter.endsWithFolded text [] = true := by
  have cut : Text.splitAtOctet? text (Text.octetSize text - Text.octetSize []) = some (text, []) :=
    Text.splitAtOctet?_eq_some_iff.mpr ⟨(List.append_nil text).symm, rfl⟩
  rw [RecordFilter.endsWithFolded, cut]
  rfl

theorem passes_ofType (type : RecordType) (record : Record) :
    passes [.ofType type] record = (record.type == type) := by
  rw [passes, List.any_cons, List.any_nil, Bool.or_false, RecordFilter.accepts]
  simp only [RecordFilter.ofType, startsWithFolded_nil, endsWithFolded_nil]
  simp

theorem passes_addressTypes (record : Record) :
    passes [.ofType .a, .ofType .aaaa] record = (record.type == .a || record.type == .aaaa) := by
  rw [← passes_ofType, ← passes_ofType]
  simp [passes]

/-- The recognizer of challenges asks for texts whose owners start with its label. -/
theorem passes_challengeFilters (record : Record) :
    passes challengeFilters record =
      (RecordFilter.startsWithFolded record.owner Challenge.ownerStart && record.type == .txt) := by
  rw [challengeFilters, passes, List.any_cons, List.any_nil, Bool.or_false, RecordFilter.accepts]
  simp only [endsWithFolded_nil]
  simp

theorem type_of_challengeOf? {record : Record} (found : (challengeOf? record).isSome = true) :
    record.type = .txt := by
  rcases Option.isSome_iff_exists.mp found with ⟨claim, read⟩
  have passed := (among_eq_some_iff.mp read).1
  rw [passes_challengeFilters, Bool.and_eq_true, beq_iff_eq] at passed
  exact passed.2

theorem type_of_exchangerOf? {record : Record} (found : (exchangerOf? record).isSome = true) :
    record.type = .mx := by
  rcases Option.isSome_iff_exists.mp found with ⟨exchanger, read⟩
  have passed := (among_eq_some_iff.mp read).1
  rwa [passes_ofType, beq_iff_eq] at passed

theorem type_of_addressOf? {record : Record} (found : (addressOf? record).isSome = true) :
    record.type = .a ∨ record.type = .aaaa := by
  rcases Option.isSome_iff_exists.mp found with ⟨address, read⟩
  have passed := (among_eq_some_iff.mp read).1
  rwa [passes_addressTypes, Bool.or_eq_true, beq_iff_eq, beq_iff_eq] at passed

theorem type_of_aliasOf? {record : Record} (found : (aliasOf? record).isSome = true) :
    record.type = .cname := by
  rcases Option.isSome_iff_exists.mp found with ⟨claim, read⟩
  have passed := (among_eq_some_iff.mp read).1
  rwa [passes_ofType, beq_iff_eq] at passed

theorem not_challenge_of_type {record : Record} (other : record.type ≠ .txt) :
    (challengeOf? record).isSome = false :=
  Bool.eq_false_iff.mpr fun found => other (type_of_challengeOf? found)

theorem not_exchanger_of_type {record : Record} (other : record.type ≠ .mx) :
    (exchangerOf? record).isSome = false :=
  Bool.eq_false_iff.mpr fun found => other (type_of_exchangerOf? found)

theorem not_address_of_type {record : Record} (other : ¬ (record.type = .a ∨ record.type = .aaaa)) :
    (addressOf? record).isSome = false :=
  Bool.eq_false_iff.mpr fun found => other (type_of_addressOf? found)

theorem not_alias_of_type {record : Record} (other : record.type ≠ .cname) :
    (aliasOf? record).isSome = false :=
  Bool.eq_false_iff.mpr fun found => other (type_of_aliasOf? found)

/-! ## Running the recognizers -/

variable {Memory Body : Type} [ServiceBody Body]

/-- A search finds the records that pass, with their places, if none of them has been claimed. -/
theorem run_search (premises : Premises) {isTaken : Record → Bool} {filters : List RecordFilter}
    (free : ∀ record, passes filters record = true → isTaken record = false)
    (records : List Record) (filed : List (Service Body)) (running : Text) (memory : Memory) :
    (Recognition.search filters : Recognition Memory Body (List (Nat × Record))).run
        (premises.scene (cellsOf isTaken records) filed running memory) =
      (.ok (placed (passes filters) 0 records),
        premises.scene (cellsOf isTaken records) filed running memory) := by
  have found := search_standing premises free records filed running
  simp only [Recognition.search, Recognition.run, Command.perform, Premises.scene, found]
  rfl

/-- The recognizer of challenges uses each record that it reads a token from. -/
theorem claimEach_challenge [Hosts Body Challenge] (found : List (Nat × Record)) :
    (Challenge.claimEach found : Recognizer Memory Body) = useEach readChallenge? found := by
  induction found with
  | nil => rfl
  | cons entry rest step =>
      rw [Challenge.claimEach, useEach, readChallenge?, step]
      split
      · rfl
      · rfl

/-- The recognizer of aliases uses each record that it reads a target from. -/
theorem claimEach_alias [Hosts Body Alias] (found : List (Nat × Record)) :
    (Alias.claimEach found : Recognizer Memory Body) = useEach readAlias? found := by
  induction found with
  | nil => rfl
  | cons entry rest step =>
      rw [Alias.claimEach, useEach, readAlias?, step]
      cases entry.2.target.isEmpty with
      | true => rfl
      | false => rfl

variable (premises : Premises) (records : List Record) (filed : List (Service Body))
  (running : Text) (memory : Memory)

/-- The challenges of some records become services, in the order of the records. -/
theorem run_challenges [Hosts Body Challenge] :
    (Challenge.recognizer : Recognizer Memory Body).run
        (premises.scene (cellsOf (fun _ => false) records) filed running memory) =
      (.ok (), premises.scene (cellsOf (fun record => (challengeOf? record).isSome) records)
        (filed ++ records.filterMap (premises.serviceOf? challengeOf?)) running memory) := by
  have free : ∀ record, passes challengeFilters record = true → (fun _ => false) record = false :=
    fun _ _ => rfl
  refine (Recognition.run_bind (run_search premises free records filed running memory)).trans ?_
  rw [claimEach_challenge]
  exact run_useEach premises free running memory readChallenge? records [] filed

/-- The exchangers of each owner become one service, in the order of the first records. -/
theorem run_mailExchangers [Hosts Body MailExchangers] {isTaken : Record → Bool}
    (free : ∀ record, record.type = .mx → isTaken record = false) :
    (MailExchangers.recognizer : Recognizer Memory Body).run
        (premises.scene (cellsOf isTaken records) filed running memory) =
      (.ok (), premises.scene
        (cellsOf (fun record => isTaken record || (exchangerOf? record).isSome) records)
        (filed ++ (mailGroups records).map
          (premises.groupService (fun exchanger => MailExchangers.mk [exchanger])
            MailExchangers.add))
        running memory) := by
  have free : ∀ record, passes [.ofType .mx] record = true → isTaken record = false := by
    intro record passed
    rw [passes_ofType, beq_iff_eq] at passed
    exact free record passed
  refine (Recognition.run_bind (run_search premises free records filed running memory)).trans ?_
  have gathered := run_gather premises free running memory
    (fun record => MailExchanger.ofPayload? record.payload)
    (fun exchanger => MailExchangers.mk [exchanger]) MailExchangers.add filed records [] [] []
    (fun _ => rfl)
  rwa [List.map_nil, List.append_nil] at gathered

/-- The addresses of each owner become one service, in the order of the first records. -/
theorem run_servers [Hosts Body Server] {isTaken : Record → Bool}
    (free : ∀ record, record.type = .a ∨ record.type = .aaaa → isTaken record = false) :
    (Server.recognizer : Recognizer Memory Body).run
        (premises.scene (cellsOf isTaken records) filed running memory) =
      (.ok (), premises.scene
        (cellsOf (fun record => isTaken record || (addressOf? record).isSome) records)
        (filed ++ (serverGroups records).map
          (premises.groupService (fun address => Server.mk [address]) Server.add))
        running memory) := by
  have free : ∀ record,
      passes [.ofType .a, .ofType .aaaa] record = true → isTaken record = false := by
    intro record passed
    rw [passes_addressTypes, Bool.or_eq_true, beq_iff_eq, beq_iff_eq] at passed
    exact free record passed
  refine (Recognition.run_bind (run_search premises free records filed running memory)).trans ?_
  have gathered := run_gather premises free running memory
    Server.address? (fun address => Server.mk [address]) Server.add filed records [] [] []
    (fun _ => rfl)
  rwa [List.map_nil, List.append_nil] at gathered

/-- The aliases of some records become services, in the order of the records. -/
theorem run_aliases [Hosts Body Alias] {isTaken : Record → Bool}
    (free : ∀ record, record.type = .cname → isTaken record = false) :
    (Alias.recognizer : Recognizer Memory Body).run
        (premises.scene (cellsOf isTaken records) filed running memory) =
      (.ok (), premises.scene
        (cellsOf (fun record => isTaken record || (aliasOf? record).isSome) records)
        (filed ++ records.filterMap (premises.serviceOf? aliasOf?)) running memory) := by
  have free : ∀ record, passes [.ofType .cname] record = true → isTaken record = false := by
    intro record passed
    rw [passes_ofType, beq_iff_eq] at passed
    exact free record passed
  refine (Recognition.run_bind (run_search premises free records filed running memory)).trans ?_
  rw [claimEach_alias]
  exact run_useEach premises free running memory readAlias? records [] filed

/-! ## Running the registry -/

/-- The built-in kinds by priority, which is also the order of their registration. -/
theorem entries_builtin [Hosts Body Challenge] [Hosts Body MailExchangers] [Hosts Body Server]
    [Hosts Body Alias] [Hosts Body Orphan] :
    (Registry.builtin : Registry Memory Body).entries =
      [ { Challenge.registration with sequence := 0 },
        { MailExchangers.registration with sequence := 1 },
        { Server.registration with sequence := 2 },
        { Alias.registration with sequence := 3 },
        { Orphan.registration with sequence := 4 } ] := by
  rfl

/-- A recognizer that succeeds leaves the others what it has made. -/
theorem runRecognizers_cons {entry : RegistryEntry Memory Body}
    {recognizer : Recognizer Memory Body} (has : entry.recognizer = some recognizer)
    {cells after : List Cell} {filed later : List (Service Body)}
    (run : recognizer.run (premises.scene cells filed entry.kind memory) =
      (.ok (), premises.scene after later entry.kind memory))
    (rest : List (RegistryEntry Memory Body)) :
    Registry.runRecognizers (premises.scene cells filed running memory) (entry :: rest) =
      Registry.runRecognizers (premises.scene after later entry.kind memory) rest := by
  let ready : Scene Memory Body :=
    { premises.scene cells filed running memory with
      analyzer := { (premises.scene cells filed running memory).analyzer with
        running := entry.kind } }
  have ran : recognizer.run ready = (.ok (), premises.scene after later entry.kind memory) := run
  rw [Registry.runRecognizers, has]
  dsimp only
  rw [ran]

end ZoneServices
