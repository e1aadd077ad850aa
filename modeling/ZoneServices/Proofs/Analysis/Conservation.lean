import ZoneServices.Proofs.Analysis.Classification

/-!
# Conservation of records

Every record of a zone is accounted for: it is dropped, or exactly one service stands for it.
The recognizers and the sweep are first put together to the whole analysis, which is given in
closed form.  The resources of its services are then counted kind by kind; that the kinds share
no record is seen from the record types.
-/

namespace ZoneServices

open Directory

/-! ## The sweep -/

section Sweep

variable (premises : Premises) (cells : List Cell) (running : Text)

/-- An analysis that has dropped some records. -/
def Premises.sweeping (filed : List (Service Builtin)) (dropped : Nat) : Analyzer Builtin :=
  { (premises.standing cells filed running : Analyzer Builtin) with dropped := dropped }

theorem Premises.file_sweeping (filed : List (Service Builtin)) (dropped : Nat)
    (service : Service Builtin) :
    (premises.sweeping cells running filed dropped).file service =
      premises.sweeping cells running (filed ++ [service]) dropped := by
  unfold Premises.sweeping
  rw [← premises.file_standing filed running cells service]
  rfl

/-- The sweep drops records or keeps them as orphans, unless a recognizer has claimed them. -/
theorem foldl_sweepCell (records : List Record) (filed : List (Service Builtin))
    (dropped orphans : Nat) :
    (cellsOf isRecognized records).foldl Analyzer.sweepCell
        (premises.sweeping cells running filed dropped, orphans) =
      (premises.sweeping cells running (filed ++ (premises.orphans records).map premises.orphan)
          (dropped + records.countP fun record => !isRecognized record && premises.drops record),
        orphans + (premises.orphans records).length) := by
  induction records generalizing filed dropped orphans with
  | nil => simp [cellsOf, Premises.orphans]
  | cons record rest step =>
      rw [cellsOf_cons, List.foldl_cons, Analyzer.sweepCell]
      dsimp only
      have dropsSame : (premises.sweeping cells running filed dropped).isDropped record =
          premises.drops record := rfl
      have orphanSame : (premises.sweeping cells running filed dropped).orphanOf record =
          premises.orphan record := rfl
      rw [dropsSame, List.countP_cons, Premises.orphans, List.filter_cons, ← Premises.orphans,
        Premises.keeps]
      cases recognized : isRecognized record with
      | true =>
          rw [if_pos rfl, step]
          simp
      | false =>
          cases unkept : premises.drops record with
          | true =>
              rw [if_neg Bool.false_ne_true, if_pos rfl]
              refine (step filed (dropped + 1) orphans).trans ?_
              simp [Nat.add_assoc, Nat.add_comm 1]
          | false =>
              rw [if_neg Bool.false_ne_true, if_neg Bool.false_ne_true, Premises.file_sweeping]
              refine (step _ dropped (orphans + 1)).trans ?_
              rw [orphanSame]
              simp [Nat.add_assoc, Nat.add_comm 1]

end Sweep

/-! ## Recognized records are not dropped -/

/-- The owner of a challenge is not that of the books of a zone. -/
theorem not_bookkeeping_of_challenge {record : Record} (found : (challengeOf? record).isSome = true)
    (origin : Text) :
    Text.sameFolded record.owner (bookkeepingLabel ++ '.' :: origin) = false := by
  rcases Option.isSome_iff_exists.mp found with ⟨claim, read⟩
  have passed := (among_eq_some_iff.mp read).1
  rw [passes_challengeFilters, Bool.and_eq_true] at passed
  rcases startsWithFolded_iff.mp passed.1 with ⟨head, tail, cut, same⟩
  rw [Text.sameFolded_eq_false_iff, cut, Text.fold_append, Text.fold_append, same]
  intro equal
  have starts := congrArg (List.take 2) equal
  rw [List.take_append_of_le_length (by decide), List.take_append_of_le_length (by decide)]
    at starts
  exact absurd starts (by decide)

theorem not_isSigning_of_isRecognized {record : Record} (recognized : isRecognized record = true) :
    record.type.isSigning = false := by
  simp only [isRecognized, Bool.or_eq_true] at recognized
  rcases recognized with ((found | found) | found) | found
  · rw [type_of_challengeOf? found]
    rfl
  · rw [type_of_exchangerOf? found]
    rfl
  · rcases type_of_addressOf? found with type | type
    · rw [type]
      rfl
    · rw [type]
      rfl
  · rw [type_of_aliasOf? found]
    rfl

/-- Of the recognizers only that of challenges claims text records. -/
theorem isRecognized_txt {record : Record} (text : record.type = .txt) :
    isRecognized record = (challengeOf? record).isSome := by
  rw [isRecognized, not_exchanger_of_type (by rw [text]; decide),
    not_address_of_type (by rw [text]; decide), not_alias_of_type (by rw [text]; decide),
    Bool.or_false, Bool.or_false, Bool.or_false]

/-- What a recognizer claims is never what the sweep drops. -/
theorem not_drops_of_isRecognized (premises : Premises) {record : Record}
    (recognized : isRecognized record = true) : premises.drops record = false := by
  rw [Premises.drops, not_isSigning_of_isRecognized recognized, Bool.false_or]
  by_cases text : record.type = .txt
  · rw [isRecognized_txt text] at recognized
    rw [not_bookkeeping_of_challenge recognized, Bool.and_false]
  · rw [beq_eq_false_iff_ne.mpr text, Bool.false_and]

/-! ## The whole analysis -/

/-- The built-in recognizers claim just the recognized records, kind after kind. -/
theorem run_builtin (premises : Premises) (records : List Record) :
    Registry.runRecognizers (premises.scene (cellsOf (fun _ => false) records) [] [] ())
        (Registry.builtin : Registry Unit Builtin).entries =
      (.ok (), premises.scene (cellsOf isRecognized records)
        (premises.challenges records
          ++ (mailGroups records).map premises.mailService
          ++ (serverGroups records).map premises.serverService
          ++ premises.aliases records) (ServiceKind.key Alias) ()) := by
  rw [entries_builtin]
  rw [runRecognizers_cons premises _ _ rfl (run_challenges premises records _ _ _)]
  rw [runRecognizers_cons premises _ _ rfl (run_mailExchangers premises records _ _ _
    fun record type => not_challenge_of_type (by rw [type]; decide))]
  rw [runRecognizers_cons premises _ _ rfl (run_servers premises records _ _ _ (by
    rintro record (type | type)
    all_goals
      rw [not_challenge_of_type (by rw [type]; decide),
        not_exchanger_of_type (by rw [type]; decide)]
      rfl))]
  rw [runRecognizers_cons premises _ _ rfl (run_aliases premises records _ _ _ (by
    intro record type
    rw [not_challenge_of_type (by rw [type]; decide),
      not_exchanger_of_type (by rw [type]; decide), not_address_of_type (by rw [type]; decide)]
    rfl))]
  rfl

/--
The sweep files all orphans behind the services that are there, and counts the rest as dropped.
-/
theorem sweep_standing (premises : Premises) (records : List Record)
    (filed : List (Service Builtin)) (running : Text) :
    (premises.standing (cellsOf isRecognized records) filed running).sweep =
      { services := collect Premises.subdomain
          (filed ++ (premises.orphans records).map premises.orphan)
        defaultTtl := premises.zoneTtl
        dropped := records.countP premises.drops
        orphans := (premises.orphans records).length } := by
  have swept := foldl_sweepCell premises (cellsOf isRecognized records) running records filed 0 0
  rw [Nat.zero_add, Nat.zero_add] at swept
  have dropped : (records.countP fun record => !isRecognized record && premises.drops record) =
      records.countP premises.drops := by
    apply List.countP_congr
    intro record _
    constructor
    · intro both
      exact ((Bool.and_eq_true _ _).mp both).2
    · intro drops
      rw [drops, Bool.and_true, Bool.not_eq_true']
      apply Bool.eq_false_iff.mpr
      intro recognized
      rw [not_drops_of_isRecognized premises recognized] at drops
      cases drops
  rw [dropped] at swept
  have folded : (premises.standing (cellsOf isRecognized records) filed running).cells.foldl
      Analyzer.sweepCell (premises.standing (cellsOf isRecognized records) filed running, 0) =
      (premises.sweeping (cellsOf isRecognized records) running
          (filed ++ (premises.orphans records).map premises.orphan)
          (records.countP premises.drops),
        (premises.orphans records).length) := swept
  rw [Analyzer.sweep, folded]
  rfl

/-- Within the limit an analysis goes through and files exactly the services of its records. -/
theorem analyze_builtin (settings : Settings) (origin : Text) (records : List Record)
    (within : records.length ≤ settings.maxRecords) :
    (Registry.builtin : Registry Unit Builtin).analyze settings origin records =
      .ok
        { services := collect Premises.subdomain
            ((Premises.ofZone origin records settings.emptyTtl).services records)
          defaultTtl := (Premises.ofZone origin records settings.emptyTtl).zoneTtl
          dropped := records.countP (Premises.ofZone origin records settings.emptyTtl).drops
          orphans :=
            ((Premises.ofZone origin records settings.emptyTtl).orphans records).length } := by
  have start : (Analyzer.start origin records settings.emptyTtl : Analyzer Builtin) =
      (Premises.ofZone origin records settings.emptyTtl).standing
        (cellsOf (fun _ => false) records) [] [] :=
    Premises.start_eq_standing origin records settings.emptyTtl
  generalize Premises.ofZone origin records settings.emptyTtl = premises at start ⊢
  have recognized := run_builtin premises records
  rw [Premises.scene, Premises.scene] at recognized
  rw [Registry.analyze, Registry.analyzeIn_of_fits _ within, start, recognized]
  dsimp only [Except.map]
  rw [sweep_standing, Premises.services]

/-! ## Counting resources -/

/-- Number of records that some services stand for. -/
def resourcesOf (services : List (Service Builtin)) : Nat :=
  services.foldr (fun service total => service.header.resources + total) 0

@[simp]
theorem resourcesOf_append (left right : List (Service Builtin)) :
    resourcesOf (left ++ right) = resourcesOf left + resourcesOf right := by
  induction left with
  | nil => simp [resourcesOf]
  | cons service rest step =>
      simp only [resourcesOf, List.cons_append, List.foldr_cons] at step ⊢
      omega

theorem resourcesOf_perm {left right : List (Service Builtin)} (same : left.Perm right) :
    resourcesOf left = resourcesOf right := by
  induction same with
  | nil => rfl
  | cons service _ step => simp only [resourcesOf, List.foldr_cons] at step ⊢; omega
  | swap first second rest => simp only [resourcesOf, List.foldr_cons]; omega
  | trans _ _ first second => exact first.trans second

theorem resourcesOf_of_one {services : List (Service Builtin)}
    (one : ∀ service ∈ services, service.header.resources = 1) :
    resourcesOf services = services.length := by
  induction services with
  | nil => rfl
  | cons service rest step =>
      rcases List.forall_mem_cons.mp one with ⟨first, others⟩
      rw [resourcesOf, List.foldr_cons, ← resourcesOf, step others, first, List.length_cons,
        Nat.add_comm]

/-- Services of groups stand for as many records as the groups have items. -/
theorem resourcesOf_groups {Item : Type} (group : Group Item → Service Builtin)
    (counts : ∀ members, (group members).header.resources = members.items.length)
    (groups : List (Group Item)) :
    resourcesOf (groups.map group) = Group.itemCount groups := by
  induction groups with
  | nil => rfl
  | cons first rest step =>
      rw [List.map_cons, resourcesOf, List.foldr_cons, ← resourcesOf, step, counts]
      exact List.length_append.symm

theorem length_filterMap {Value : Type} (read? : Record → Option Value) (records : List Record) :
    (records.filterMap read?).length = records.countP fun record => (read? record).isSome :=
  List.length_filterMap_eq_countP

theorem resourcesOf_each {Kind : Type} [ServiceKind Kind] [Hosts Builtin Kind]
    (premises : Premises) {read? : Record → Option (Text × Kind)}
    (one : ∀ kind : Kind, ServiceBody.resourceCount (Hosts.inject kind : Builtin) = 1)
    (records : List Record) :
    resourcesOf (records.filterMap (premises.serviceOf? read?)) =
      records.countP fun record => (read? record).isSome := by
  rw [resourcesOf_of_one, length_filterMap]
  · simp [Premises.serviceOf?]
  · intro service member
    rcases List.mem_filterMap.mp member with ⟨record, _, found⟩
    rcases Option.map_eq_some_iff.mp found with ⟨claim, _, rfl⟩
    exact one claim.2

theorem mailService_eq (premises : Premises) (group : Group MailExchanger) :
    premises.mailService group =
      premises.service group.leader group.leader.owner (.mailExchangers ⟨group.items⟩) :=
  groupService_eq premises (fun _ _ => rfl) group

theorem serverService_eq (premises : Premises) (group : Group Address) :
    premises.serverService group =
      premises.service group.leader group.leader.owner (.server ⟨group.items⟩) :=
  groupService_eq premises (fun _ _ => rfl) group

theorem itemCount_groups {Item : Type} (read? : Record → Option Item) (records : List Record) :
    Group.itemCount (Group.ofEntries (records.filterMap (paired? read?))) =
      records.countP fun record => (read? record).isSome := by
  rw [Group.itemCount_ofEntries, length_filterMap]
  simp [paired?]

/-- A record is of exactly one class: recognized by one kind, kept or dropped. -/
theorem one_class (premises : Premises) (record : Record) :
    (challengeOf? record).isSome.toNat + (exchangerOf? record).isSome.toNat
        + (addressOf? record).isSome.toNat + (aliasOf? record).isSome.toNat
        + (premises.keeps record).toNat + (premises.drops record).toNat = 1 := by
  have notDropped : isRecognized record = true → premises.drops record = false :=
    not_drops_of_isRecognized premises
  rw [Premises.keeps]
  -- The kinds are told apart by the types of their records.
  cases challenge : (challengeOf? record).isSome with
  | true =>
      have type := type_of_challengeOf? challenge
      have exchanger : (exchangerOf? record).isSome = false :=
        not_exchanger_of_type (by rw [type]; decide)
      have address : (addressOf? record).isSome = false :=
        not_address_of_type (by rw [type]; decide)
      have link : (aliasOf? record).isSome = false := not_alias_of_type (by rw [type]; decide)
      simp_all [isRecognized]
  | false =>
      cases exchanger : (exchangerOf? record).isSome with
      | true =>
          have type := type_of_exchangerOf? exchanger
          have address : (addressOf? record).isSome = false :=
            not_address_of_type (by rw [type]; decide)
          have link : (aliasOf? record).isSome = false :=
            not_alias_of_type (by rw [type]; decide)
          simp_all [isRecognized]
      | false =>
          cases address : (addressOf? record).isSome with
          | true =>
              have link : (aliasOf? record).isSome = false := by
                apply not_alias_of_type
                rcases type_of_addressOf? address with type | type
                all_goals
                  rw [type]
                  decide
              simp_all [isRecognized]
          | false =>
              cases link : (aliasOf? record).isSome with
              | true => simp_all [isRecognized]
              | false => cases dropped : premises.drops record <;> simp_all [isRecognized]

theorem countP_cons_toNat (holds : Record → Bool) (record : Record) (rest : List Record) :
    (record :: rest).countP holds = rest.countP holds + (holds record).toNat := by
  rw [List.countP_cons]
  cases holds record <;> rfl

/-- The classes of records share the records among them. -/
theorem countP_classes (premises : Premises) (records : List Record) :
    (records.countP fun record => (challengeOf? record).isSome)
        + (records.countP fun record => (exchangerOf? record).isSome)
        + (records.countP fun record => (addressOf? record).isSome)
        + (records.countP fun record => (aliasOf? record).isSome)
        + records.countP premises.keeps + records.countP premises.drops = records.length := by
  induction records with
  | nil => rfl
  | cons record rest step =>
      have one := one_class premises record
      simp only [countP_cons_toNat, List.length_cons]
      omega

/-- Every record is stood for by a service or dropped. -/
theorem resourcesOf_services (premises : Premises) (records : List Record) :
    resourcesOf (premises.services records) + records.countP premises.drops = records.length := by
  rw [← countP_classes premises records, Premises.services]
  simp only [resourcesOf_append]
  rw [Premises.challenges, resourcesOf_each premises (fun _ => rfl),
    resourcesOf_groups premises.mailService (fun members => by rw [mailService_eq]; rfl),
    resourcesOf_groups premises.serverService (fun members => by rw [serverService_eq]; rfl),
    mailGroups, itemCount_groups, serverGroups, itemCount_groups, Premises.aliases,
    resourcesOf_each premises (fun _ => rfl)]
  rw [resourcesOf_of_one, List.length_map, Premises.orphans, ← List.countP_eq_length_filter]
  intro service member
  rcases List.mem_map.mp member with ⟨record, _, rfl⟩
  rfl

/--
An analysis within the limit goes through, no matter what its records are.  Its services and the
dropped records account for every record, and what is dropped is known beforehand: the records
that the signing of a zone makes, and the text record in which it keeps its books.
-/
theorem analyze_conserves_records (settings : Settings) (origin : Text) (records : List Record)
    (within : records.length ≤ settings.maxRecords) :
    ∃ analysis,
      (Registry.builtin : Registry Unit Builtin).analyze settings origin records = .ok analysis
        ∧ analysis.resourceCount + analysis.dropped = records.length
        ∧ analysis.dropped = records.countP fun record =>
            record.type.isSigning
              || record.type == .txt
                && Text.sameFolded record.owner
                  (bookkeepingLabel ++ '.' :: Owner.qualified origin) := by
  refine ⟨_, analyze_builtin settings origin records within, ?_, rfl⟩
  rw [← resourcesOf_services (Premises.ofZone origin records settings.emptyTtl) records]
  exact congrArg (· + _) (resourcesOf_perm (perm_inOrder_collect _))

/-- A small signed zone: an alias, an exchanger that cannot be read, a signature and the books. -/
def signedZone : List Record :=
  [ ⟨"www.example.com.".toList, .cname, 300, "host.example.net.".toList⟩,
    ⟨"example.com.".toList, .mx, 300, "mail".toList⟩,
    ⟨"example.com.".toList, ⟨46⟩, 300, []⟩,
    ⟨"__DNSSEC.example.com.".toList, .txt, 60, []⟩ ]

theorem analyze_conserves_records_of_signedZone :
    signedZone.length ≤ ({} : Settings).maxRecords ∧ ∃ analysis,
      (Registry.builtin : Registry Unit Builtin).analyze {} "example.com".toList signedZone =
          .ok analysis
        ∧ analysis.resourceCount = 2 ∧ analysis.dropped = 2 := by
  have within : signedZone.length ≤ ({} : Settings).maxRecords := by decide
  rcases analyze_conserves_records {} "example.com".toList signedZone within with
    ⟨analysis, analyzed, total, dropped⟩
  have two : analysis.dropped = 2 := dropped.trans (by decide)
  refine ⟨within, analysis, analyzed, ?_, two⟩
  rw [two] at total
  exact Nat.add_right_cancel total

end ZoneServices
