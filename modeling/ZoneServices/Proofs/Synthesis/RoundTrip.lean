import ZoneServices.Proofs.Synthesis.Regeneration

/-!
# The round trip of a zone

A service that is found again has a settled body, and the settled body shows the same comment and
writes the same records.  So a zone that was imported and written is imported again with the same
services, as far as a zone shows them, and from then on its records stay as they are.
-/

namespace ZoneServices

open Directory Text

/-! ## Settled bodies -/

/-- Whether a body has all that its records need. -/
def Builtin.IsWritable : Builtin → Prop
  | .mailExchangers mail => ∀ exchanger ∈ mail.exchangers, ∃ exchange, exchanger.IsNamed exchange
  | .link body => body.target ≠ []
  | .challenge _ | .server _ | .orphan _ => True

namespace Builtin

variable {body : Builtin}

theorem kindKey_settled (body : Builtin) :
    ServiceBody.kindKey body.settled = ServiceBody.kindKey body := by
  cases body <;> rfl

theorem resourceCount_settled (body : Builtin) :
    ServiceBody.resourceCount body.settled = ServiceBody.resourceCount body := by
  cases body with
  | mailExchangers mail => exact List.length_map _
  | challenge _ | server _ | link _ | orphan _ => rfl

/-- Comments leave out the dots that make targets absolute. -/
theorem comment_settled (writable : body.IsWritable) (origin : Text) :
    ServiceBody.comment body.settled origin = ServiceBody.comment body origin := by
  cases body with
  | mailExchangers mail =>
      change joined _ ((mail.exchangers.map MailExchanger.settled).map _) = joined _ _
      rw [List.map_map]
      congr 1
      apply List.map_congr_left
      intro exchanger member
      rcases writable exchanger member with ⟨exchange, named⟩
      exact MailExchanger.trimEndDots_settled named
  | link body => exact Owner.trimEndDots_qualified body.target
  | challenge _ | server _ | orphan _ => rfl

/-- A settled body is written like the body itself. -/
theorem records_settled (writable : body.IsWritable) (subdomain : Text) (ttl : UInt32)
    (origin : Text) :
    ServiceBody.records body.settled subdomain ttl origin =
      ServiceBody.records body subdomain ttl origin := by
  cases body with
  | mailExchangers mail =>
      have named : ∀ exchanger ∈ mail.exchangers.map MailExchanger.settled,
          ∃ exchange, exchanger.IsNamed exchange := by
        intro exchanger member
        rcases List.mem_map.mp member with ⟨other, inMail, rfl⟩
        rcases writable other inMail with ⟨exchange, isNamed⟩
        exact ⟨_, MailExchanger.isNamed_settled isNamed⟩
      have again := MailExchangers.records_eq ⟨mail.exchangers.map MailExchanger.settled⟩ named
        subdomain ttl origin
      refine again.trans (Eq.trans ?_ (mail.records_eq writable subdomain ttl origin).symm)
      rw [List.map_map]
      apply congrArg Except.ok
      apply List.map_congr_left
      intro exchanger member
      rcases writable exchanger member with ⟨exchange, isNamed⟩
      rw [Function.comp_apply, MailExchanger.writtenPayload_settled isNamed]
  | link body =>
      have nonempty : body.target ≠ [] := writable
      have settledNonempty := Owner.qualified_ne_nil nonempty
      change Alias.records ⟨Owner.qualified body.target⟩ subdomain ttl origin =
        body.records subdomain ttl origin
      rw [Alias.records, Alias.records, if_neg (by simpa using settledNonempty),
        if_neg (by simpa using nonempty), Owner.qualified_qualified]
  | challenge _ | server _ | orphan _ => rfl

end Builtin

/-! ## Services that are found again -/

/-- What a zone shows of a service. -/
structure ServiceOutline where
  subdomain : Text
  kind : Text
  comment : Text
  resources : Nat
deriving DecidableEq, Repr

/-- The outline of a service. -/
def Service.outline {Body : Type} (service : Service Body) : ServiceOutline where
  subdomain := service.header.subdomain
  kind := service.header.kind
  comment := service.header.comment
  resources := service.header.resources

namespace Premises

variable {premises next : Premises} {records : List Record} {service : Service Builtin}

/-- A service stands on one of the records it is made of. -/
theorem exists_record_of_isMade (made : IsMade premises records service) :
    ∃ record ∈ records, ∃ name, service = premises.service record name service.body := by
  cases made with
  | challenge member _ => exact ⟨_, member, _, rfl⟩
  | mail isFrom => exact ⟨_, (mem_entries isFrom.leader).1, _, rfl⟩
  | server isFrom => exact ⟨_, (mem_entries isFrom.leader).1, _, rfl⟩
  | link member _ => exact ⟨_, member, _, rfl⟩
  | orphan member _ => exact ⟨_, member, _, rfl⟩

theorem isWritable_of_isMade (made : IsMade premises records service)
    (settles : (premises.synthesis service).isComplete = true) : service.body.IsWritable := by
  cases made with
  | @mail group isFrom =>
      intro exchanger inGroup
      rcases isFrom.items exchanger inGroup with ⟨record, inEntries⟩
      apply exists_named (mem_entries inEntries).2
      intro empty
      cases (not_settles_mail inGroup empty _ _).symm.trans settles
  | @link record name link member found =>
      rcases target_of_aliasOf? found with ⟨_, target, nonempty⟩
      change link.target ≠ []
      rwa [target]
  | challenge _ _ | server _ | orphan _ _ => trivial

/-- A zone shows the same of a service that is found again. -/
theorem outline_revisited (origin : next.origin = premises.origin)
    (made : IsMade premises records service)
    (settles : (premises.synthesis service).isComplete = true) :
    (premises.revisited next service).outline = service.outline := by
  rcases exists_record_of_isMade made with ⟨record, _, name, shape⟩
  rw [revisited]
  split
  · rfl
  · have comment := Builtin.comment_settled (isWritable_of_isMade made settles) premises.origin
    simp only [Service.outline, Service.ofBody, Builtin.kindKey_settled,
      Builtin.resourceCount_settled, origin, comment]
    rw [shape]
    rfl

theorem recordsOf_eq (premises : Premises) (service : Service Builtin) :
    premises.recordsOf service =
      (service.records premises.zoneTtl premises.origin).toOption.getD [] := by
  rw [recordsOf, synthesis, Service.synthesize_eq]
  split
  · rename_i records ok
    rw [ok]
    rfl
  · rename_i error failed
    rw [failed]
    rfl

theorem recordsOf_eq_nil (fails : (premises.synthesis service).isComplete = false) :
    premises.recordsOf service = [] := by
  rw [synthesis, Service.synthesize_eq] at fails
  rw [recordsOf_eq]
  split at fails
  · cases fails
  · rename_i error failed
    rw [failed]
    rfl

theorem written_eq :
    premises.written records =
      (inOrder (collect subdomain (premises.services records))).flatMap premises.recordsOf :=
  flatMap_filter fun _ _ fails => recordsOf_eq_nil fails

/-- A time to live other than zero is kept, whatever that of the zone is. -/
theorem writtenTtl_eq {record : Record} (nonzero : record.ttl ≠ 0) :
    premises.writtenTtl record = record.ttl := by
  rw [writtenTtl, storedTtl]
  split
  · rename_i default
    rw [if_pos rfl, default]
  · rfl

/-- Without records at zero, no service is written at zero. -/
theorem effectiveTtl_ne_zero (nonzero : ∀ record ∈ records, record.ttl ≠ 0)
    (made : IsMade premises records service) :
    service.header.effectiveTtl premises.zoneTtl ≠ 0 := by
  rcases exists_record_of_isMade made with ⟨record, member, name, shape⟩
  have kept : service.header.effectiveTtl premises.zoneTtl = premises.writtenTtl record := by
    rw [shape]
    rfl
  rw [kept, writtenTtl_eq (nonzero record member)]
  exact nonzero record member

/-- A service that is found again writes the same records again. -/
theorem recordsOf_revisited (origin : next.origin = premises.origin)
    (nonzero : ∀ record ∈ records, record.ttl ≠ 0) (made : IsMade premises records service)
    (settles : (premises.synthesis service).isComplete = true)
    (reproduced : premises.IsReproduced next service) :
    next.recordsOf (premises.revisited next service) = premises.recordsOf service := by
  rw [recordsOf_eq, recordsOf_eq, revisited]
  split
  · rename_i none
    have found := reproduced.found
    have nothing : ∀ record ∈ ([] : List Record), next.sortOf? record ≠ some service.body.sort :=
      fun record member => absurd member List.not_mem_nil
    rw [none, servicesOf_eq_nil nothing] at found
    cases found
  · rename_i first others some
    have ttl : first.ttl = service.header.effectiveTtl premises.zoneTtl :=
      reproduced.timed first (by rw [some]; exact List.mem_cons_self)
    have kept : next.writtenTtl first = service.header.effectiveTtl premises.zoneTtl := by
      rw [writtenTtl_eq (by rw [ttl]; exact effectiveTtl_ne_zero nonzero made), ttl]
    change (ServiceBody.records service.body.settled service.header.subdomain
      (next.writtenTtl first) next.origin).toOption.getD [] = _
    rw [kept, origin, Builtin.records_settled (isWritable_of_isMade made settles)]
    rfl

section Second

variable (origin : next.origin = premises.origin)
  (zone : Record.checkOwner premises.origin = .ok ())
  (regular : ∀ record ∈ records, record.IsRegular)

include origin zone regular in
/-- If all services can be written, a zone shows the same after the second analysis. -/
theorem map_outline_written
    (settles : ∀ service ∈ premises.services records,
      (premises.synthesis service).isComplete = true) :
    (collect subdomain (next.services (premises.written records))).map
        (List.map Service.outline) =
      (collect subdomain (premises.services records)).map (List.map Service.outline) := by
  apply ext_get?
  intro key
  have all : under subdomain key (premises.writable records) =
      under subdomain key (premises.services records) := by
    rw [under_writable]
    exact List.filter_eq_self.mpr fun service member => settles service (mem_under.mp member).1
  have found := under_services_written origin zone regular key
  rw [all] at found
  have outlines : ∀ service ∈ under subdomain key (premises.services records),
      (Service.outline ∘ premises.revisited next) service = service.outline := by
    intro service member
    have inServices := (mem_under.mp member).1
    exact outline_revisited origin (isMade_of_mem inServices) (settles service inServices)
  rw [get?_map, get?_map, get?_collect, get?_collect, found]
  by_cases none : under subdomain key (premises.services records) = []
  · rw [none, List.map_nil, if_pos rfl]
  · rw [if_neg none, if_neg (by simpa using none), Option.map_some, Option.map_some,
      List.map_map, List.map_congr_left outlines]

include origin zone regular in
/-- Without a time to live of zero, the second analysis writes what the first one wrote. -/
theorem written_written (nonzero : ∀ record ∈ records, record.ttl ≠ 0) :
    next.written (premises.written records) = premises.written records := by
  rw [written_eq, inOrder_services_written origin zone regular, List.flatMap_map]
  apply List.flatMap_congr
  intro service member
  rcases mem_writable member with ⟨made, settles⟩
  exact recordsOf_revisited origin nonzero made settles
    (isReproduced_of_mem_writable origin zone regular member)

end Second

end Premises

/-! ## The round trip -/

section Zones

variable {origin : Text} {records : List Record}

/-- What is asked of records for the round trip, put together. -/
theorem isRegular_of_read (read : ∀ record ∈ records, ∃ line, Record.read line = .ok record)
    (noEscape : ∀ record ∈ records, '\\' ∉ record.owner)
    (notBare : ∀ record ∈ records, record.type = .txt → fold record.owner ≠ Challenge.ownerStart)
    (exchanges : ∀ record ∈ records, record.type = .mx → ∀ preference exchange,
      (Payload.tokens? record.payload).bind Payload.exchanger? = some (preference, exchange) →
        Name.readInternational? ({ exchange with absolute := true } : Name).write =
          some { exchange with absolute := true }) :
    ∀ record ∈ records, record.IsRegular := by
  intro record member
  rcases read record member with ⟨line, written⟩
  exact
    { toIsSound := Record.isSound_of_read written (noEscape record member)
      notBare := notBare record member
      exchange := exchanges record member }

theorem checkOwner_ofZone (zone : Record.checkOwner origin = .ok ()) (records : List Record)
    (emptyTtl : UInt32) :
    Record.checkOwner (Premises.ofZone origin records emptyTtl).origin = .ok () := by
  rw [← qualified_of_checkOwner zone] at zone
  exact zone

/-- The records of an imported zone are those of its services. -/
theorem records_generate (settings : Settings) {analysis : Analysis Builtin} (now : Timestamp)
    (within : records.length ≤ settings.maxRecords)
    (analyzed : (Registry.builtin : Registry Unit Builtin).analyze settings origin records =
      .ok analysis) :
    ((Zone.ofAnalysis analysis now).generate origin).records =
      (Premises.ofZone origin records settings.emptyTtl).written records := by
  rw [analyze_builtin settings origin records within] at analyzed
  cases analyzed
  rw [Zone.generate_eq, Premises.written_eq]
  rfl

/-- The records of an imported zone can be analysed under the same limit. -/
theorem length_written_le_maxRecords (settings : Settings)
    (zone : Record.checkOwner origin = .ok ()) (within : records.length ≤ settings.maxRecords)
    (regular : ∀ record ∈ records, record.IsRegular) :
    ((Premises.ofZone origin records settings.emptyTtl).written records).length ≤
      settings.maxRecords :=
  Nat.le_trans (Premises.length_written_le (checkOwner_ofZone zone _ _) regular) within

/--
The round trip.  If an imported zone writes all of its records, then the analysis of what it wrote
goes through and drops nothing, and each subdomain has the same services in the same order, as far
as subdomain, kind, comment and number of records go.

The records are to be read ones whose owners have no escapes, and none of them a text that is owned
by the bare label of challenges, letter case aside.  Of the exchangers it is asked that their names
are read back from their absolute forms.
-/
theorem analyze_generate (settings : Settings) (now : Timestamp)
    (zone : Record.checkOwner origin = .ok ()) (within : records.length ≤ settings.maxRecords)
    (read : ∀ record ∈ records, ∃ line, Record.read line = .ok record)
    (noEscape : ∀ record ∈ records, '\\' ∉ record.owner)
    (notBare : ∀ record ∈ records, record.type = .txt → fold record.owner ≠ Challenge.ownerStart)
    (exchanges : ∀ record ∈ records, record.type = .mx → ∀ preference exchange,
      (Payload.tokens? record.payload).bind Payload.exchanger? = some (preference, exchange) →
        Name.readInternational? ({ exchange with absolute := true } : Name).write =
          some { exchange with absolute := true })
    {first : Analysis Builtin}
    (analyzed : (Registry.builtin : Registry Unit Builtin).analyze settings origin records =
      .ok first)
    (complete : ((Zone.ofAnalysis first now).generate origin).isComplete = true) :
    ∃ second,
      (Registry.builtin : Registry Unit Builtin).analyze settings origin
          ((Zone.ofAnalysis first now).generate origin).records = .ok second
        ∧ second.dropped = 0
        ∧ second.services.map (List.map Service.outline) =
          first.services.map (List.map Service.outline) := by
  have regular := isRegular_of_read read noEscape notBare exchanges
  have fits := length_written_le_maxRecords settings zone within regular
  have zone := checkOwner_ofZone zone records settings.emptyTtl
  have generated := records_generate settings now within analyzed
  -- The premises of the two analyses differ in the time to live of the zone, and in nothing that
  -- decides what is found.
  rw [isComplete_generate] at complete
  rw [analyze_builtin settings origin records within] at analyzed
  cases analyzed
  rw [generated]
  refine ⟨_, analyze_builtin settings origin _ fits, ?_⟩
  have same : (Premises.ofZone origin
      ((Premises.ofZone origin records settings.emptyTtl).written records)
        settings.emptyTtl).origin = (Premises.ofZone origin records settings.emptyTtl).origin := rfl
  dsimp only
  constructor
  · exact Premises.countP_drops_written same zone regular
  · apply Premises.map_outline_written same zone regular
    intro service member
    exact complete service ((perm_inOrder_collect _).mem_iff.mpr member)

theorem exchanges_of_plainZone :
    ∀ record ∈ plainZone, record.type = .mx → ∀ preference exchange,
      (Payload.tokens? record.payload).bind Payload.exchanger? = some (preference, exchange) →
        Name.readInternational? ({ exchange with absolute := true } : Name).write =
          some { exchange with absolute := true } := by
  have only : ∀ record ∈ plainZone, record.type = .mx →
      (Payload.tokens? record.payload).bind Payload.exchanger? =
        some (10, ⟨["mail".toList, "example".toList, "net".toList], false⟩) := by
    decide +kernel
  intro record member mail preference exchange read
  cases (only record member mail).symm.trans read
  decide +kernel

/-- The zone with a service of each kind has these services, and each writes its record. -/
theorem generate_of_plainZone :
    ∀ first ∈ ((Registry.builtin : Registry Unit Builtin).analyze {} "example.com.".toList
        plainZone).toOption,
      first.serviceCount = 5
        ∧ ((Zone.ofAnalysis first .epoch).generate "example.com.".toList).records.length = 5
        ∧ ((Zone.ofAnalysis first .epoch).generate "example.com.".toList).isComplete = true := by
  decide +kernel

theorem analyze_generate_of_plainZone :
    ∃ first second,
      (Registry.builtin : Registry Unit Builtin).analyze {} "example.com.".toList plainZone =
          .ok first
        ∧ first.serviceCount = 5
        ∧ ((Zone.ofAnalysis first .epoch).generate "example.com.".toList).records.length = 5
        ∧ ((Zone.ofAnalysis first .epoch).generate "example.com.".toList).isComplete = true
        ∧ (Registry.builtin : Registry Unit Builtin).analyze {} "example.com.".toList
            ((Zone.ofAnalysis first .epoch).generate "example.com.".toList).records = .ok second
        ∧ second.dropped = 0
        ∧ second.services.map (List.map Service.outline) =
          first.services.map (List.map Service.outline) := by
  have within : plainZone.length ≤ ({} : Settings).maxRecords := by decide
  have analyzed := analyze_builtin {} "example.com.".toList plainZone within
  have found := generate_of_plainZone
  rw [analyzed] at found
  rcases found _ rfl with ⟨services, written, complete⟩
  obtain ⟨second, again, dropped, same⟩ := analyze_generate {} .epoch (by decide +kernel) within
    read_of_mem_plainZone (by decide) (by decide) exchanges_of_plainZone analyzed complete
  exact ⟨_, second, analyzed, services, written, complete, again, dropped, same⟩

/--
What an imported zone writes does not change any more.  If no time to live is zero, then the zone
that is made of its records writes exactly these records again, whether or not some services of the
first zone could not be written.
-/
theorem generate_analyze_generate (settings : Settings) (now later : Timestamp)
    (zone : Record.checkOwner origin = .ok ()) (within : records.length ≤ settings.maxRecords)
    (read : ∀ record ∈ records, ∃ line, Record.read line = .ok record)
    (nonzero : ∀ record ∈ records, record.ttl ≠ 0)
    (noEscape : ∀ record ∈ records, '\\' ∉ record.owner)
    (notBare : ∀ record ∈ records, record.type = .txt → fold record.owner ≠ Challenge.ownerStart)
    (exchanges : ∀ record ∈ records, record.type = .mx → ∀ preference exchange,
      (Payload.tokens? record.payload).bind Payload.exchanger? = some (preference, exchange) →
        Name.readInternational? ({ exchange with absolute := true } : Name).write =
          some { exchange with absolute := true }) :
    ∃ first,
      (Registry.builtin : Registry Unit Builtin).analyze settings origin records = .ok first
        ∧ ∃ second,
          (Registry.builtin : Registry Unit Builtin).analyze settings origin
              ((Zone.ofAnalysis first now).generate origin).records = .ok second
            ∧ ((Zone.ofAnalysis second later).generate origin).records =
              ((Zone.ofAnalysis first now).generate origin).records := by
  have regular := isRegular_of_read read noEscape notBare exchanges
  -- No more records are written than were read, so the second analysis is within its limit.
  have fits := length_written_le_maxRecords settings zone within regular
  have zone := checkOwner_ofZone zone records settings.emptyTtl
  obtain ⟨first, analyzed⟩ : ∃ first,
      (Registry.builtin : Registry Unit Builtin).analyze settings origin records = .ok first :=
    ⟨_, analyze_builtin settings origin records within⟩
  have generated := records_generate settings now within analyzed
  obtain ⟨second, again⟩ : ∃ second,
      (Registry.builtin : Registry Unit Builtin).analyze settings origin
        ((Premises.ofZone origin records settings.emptyTtl).written records) = .ok second :=
    ⟨_, analyze_builtin settings origin _ fits⟩
  refine ⟨first, analyzed, second, ?_, ?_⟩
  · rw [generated]
    exact again
  · rw [generated, records_generate settings later fits again]
    exact Premises.written_written rfl zone regular nonzero

theorem generate_analyze_generate_of_plainZone :
    ∃ first second,
      (Registry.builtin : Registry Unit Builtin).analyze {} "example.com.".toList plainZone =
          .ok first
        ∧ first.serviceCount = 5
        ∧ ((Zone.ofAnalysis first .epoch).generate "example.com.".toList).records.length = 5
        ∧ (Registry.builtin : Registry Unit Builtin).analyze {} "example.com.".toList
            ((Zone.ofAnalysis first .epoch).generate "example.com.".toList).records = .ok second
        ∧ ((Zone.ofAnalysis second .epoch).generate "example.com.".toList).records =
          ((Zone.ofAnalysis first .epoch).generate "example.com.".toList).records := by
  have zone : Record.checkOwner "example.com.".toList = .ok () := by decide +kernel
  obtain ⟨first, analyzed, second, again, same⟩ := generate_analyze_generate {} .epoch .epoch zone
    (by decide) read_of_mem_plainZone (by decide) (by decide) (by decide) exchanges_of_plainZone
  have found := generate_of_plainZone
  rw [analyzed] at found
  rcases found _ rfl with ⟨services, written, _⟩
  exact ⟨first, second, analyzed, services, written, again, same⟩

end Zones

end ZoneServices
