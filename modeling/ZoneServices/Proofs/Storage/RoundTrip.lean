import ZoneServices.Proofs.Analysis.Pass
import ZoneServices.Proofs.Kind.Codec
import ZoneServices.Proofs.Storage.Codec
import ZoneServices.Proofs.Storage.Loading
import ZoneServices.Proofs.Synthesis.Grouped

/-!
# Zones that are read back

A zone is written as a JSON text, compactly or over lines, and is read back in two steps: the text
as a stored zone, and this as a zone, for which a registry revives the services.  Both steps yield
what was written, if the registry covers every service: a kind is registered under the key that
the service carries, which is the key of its body, and the kind restores the body.

Built-in kinds restore all their bodies, and the services of an analysis carry the keys of their
bodies.  So every zone that an analysis with the built-in kinds makes is read back.
-/

namespace ZoneServices

open ServiceBody (IsRestoredBy)
open Directory

variable {Memory Body : Type}

/-! ## Services of a zone -/

theorem Directory.map_map_eq_self {Value Other : Type} {change : Value → Other}
    {undo : Other → Value} {directory : Directory Value}
    (undone : ∀ entry ∈ directory.entries, undo (change entry.2) = entry.2) :
    (directory.map change).map undo = directory := by
  rcases directory with ⟨entries, sorted⟩
  rw [Directory.map, Directory.map]
  congr 1
  rw [List.map_map]
  conv_rhs => rw [← List.map_id entries]
  apply List.map_congr_left
  intro entry member
  exact Prod.ext rfl (undone entry member)

theorem Zone.mem_allServices {zone : Zone Body} {entry : Text × List (Service Body)}
    (isEntry : entry ∈ zone.services.entries) {service : Service Body}
    (member : service ∈ entry.2) : service ∈ zone.allServices := by
  rw [allServices, Directory.values]
  exact List.mem_flatten.mpr ⟨entry.2, List.mem_map_of_mem isEntry, member⟩

theorem exists_slot_of_mem {services : Directory (List (Service Body))} {service : Service Body}
    (member : service ∈ inOrder services) : ∃ slot : Slot, slot.find? services = some service := by
  rw [inOrder_eq_flatMap] at member
  rcases List.mem_flatMap.mp member with ⟨entry, isEntry, listed⟩
  rcases List.mem_iff_getElem?.mp listed with ⟨index, found⟩
  refine ⟨⟨entry.1, index⟩, ?_⟩
  rw [Slot.find?, mem_entries_iff.mp isEntry, Option.getD_some, found]

variable [ServiceBody Body]

/-! ## Covered services -/

/-- A body is one of a built-in kind, and this kind is the registered one. -/
inductive RegistryEntry.IsBuiltinOf (entry : RegistryEntry Memory Body) : Body → Prop
  | challenge [Hosts Body Challenge] (body : Challenge)
      (registered : entry.toRegistration = Challenge.registration) :
      IsBuiltinOf entry (Hosts.inject body)
  | mailExchangers [Hosts Body MailExchangers] (body : MailExchangers)
      (registered : entry.toRegistration = MailExchangers.registration) :
      IsBuiltinOf entry (Hosts.inject body)
  | server [Hosts Body Server] (body : Server)
      (registered : entry.toRegistration = Server.registration) :
      IsBuiltinOf entry (Hosts.inject body)
  | link [Hosts Body Alias] (body : Alias)
      (registered : entry.toRegistration = Alias.registration) :
      IsBuiltinOf entry (Hosts.inject body)
  | orphan [Hosts Body Orphan] (body : Orphan)
      (registered : entry.toRegistration = Orphan.registration) :
      IsBuiltinOf entry (Hosts.inject body)

/-- A built-in kind restores every body of it. -/
theorem RegistryEntry.IsBuiltinOf.isRestored {entry : RegistryEntry Memory Body} {body : Body}
    (builtin : entry.IsBuiltinOf body) : IsRestoredBy entry.decode? body := by
  cases builtin with
  | challenge body registered =>
      rw [registered]
      exact body.isRestored.inject
  | mailExchangers body registered =>
      rw [registered]
      exact body.isRestored.inject
  | server body registered =>
      rw [registered]
      exact body.isRestored.inject
  | link body registered =>
      rw [registered]
      exact body.isRestored.inject
  | orphan body registered =>
      rw [registered]
      exact body.isRestored.inject

/-- The kind that is registered under the key of a body is built in, or restores the body. -/
def Registry.Knows (registry : Registry Memory Body) (body : Body) : Prop :=
  ∃ entry, registry.find (ServiceBody.kindKey body) = .ok entry
    ∧ (entry.IsBuiltinOf body ∨ IsRestoredBy entry.decode? body)

/-- A service carries the key of its body, which the registry knows. -/
structure Registry.Covers (registry : Registry Memory Body) (service : Service Body) : Prop where
  carried : service.header.kind = ServiceBody.kindKey service.body
  known : registry.Knows service.body
  /-- The number of records is one of 64 bits. -/
  counted : service.header.resources < UInt64.size

namespace Registry.Covers

variable {registry : Registry Memory Body} {service : Service Body}

/-- The registry knows the kind of a covered service and restores its body. -/
theorem exists_entry (covers : registry.Covers service) :
    ∃ entry, registry.find service.header.kind = .ok entry
      ∧ IsRestoredBy entry.decode? service.body := by
  rcases covers.known with ⟨entry, found, builtin | restored⟩
  · exact ⟨entry, covers.carried ▸ found, builtin.isRestored⟩
  · exact ⟨entry, covers.carried ▸ found, restored⟩

/-- A covered service is revived as itself. -/
theorem revive_store (covers : registry.Covers service) :
    registry.revive service.store = .ok service := by
  rcases covers.exists_entry with ⟨entry, found, restored⟩
  have decoded : entry.decode service.store.body = .ok service.body := by
    rw [RegistryEntry.decode, Service.store, restored.decoded]
  have kind : service.store.header.kind = service.header.kind := rfl
  rw [Registry.revive, kind, found]
  change (entry.decode service.store.body).bind _ = _
  rw [decoded]
  rfl

theorem storable (covers : registry.Covers service) :
    (ServiceBody.encode service.body).IsStorable Json.bodyDepthLimit := by
  rcases covers.exists_entry with ⟨entry, _, restored⟩
  exact restored.storable

theorem decode?_encode (covers : registry.Covers service) :
    StoredService.decode? service.store.encode = some service.store :=
  StoredService.decode?_encode covers.counted (Json.normalize_normalize covers.storable.plain)

theorem isStorable_encode (covers : registry.Covers service) :
    service.store.encode.IsStorable (Json.bodyDepthLimit + 1) :=
  StoredService.isStorable_encode covers.counted covers.storable.normalize

end Registry.Covers

/-! ## Covered zones -/

/-- What holds of every service of a zone as it is stored holds of all that the zone stores. -/
theorem Zone.forall_stored {zone : Zone Body} {holds : StoredService → Prop}
    (each : ∀ service ∈ zone.allServices, holds service.store) :
    ∀ entry ∈ zone.store.services.entries, ∀ stored ∈ entry.2, holds stored := by
  intro entry isEntry stored isStored
  rcases List.mem_map.mp isEntry with ⟨source, isSource, rfl⟩
  rcases List.mem_map.mp isStored with ⟨service, isService, rfl⟩
  exact each service (mem_allServices isSource isService)

/-- A zone is read back from either text that it is written as. -/
structure Registry.ReadsBack (registry : Registry Memory Body) (zone : Zone Body) : Prop where
  compact : StoredZone.read? zone.encode.write = some zone.store
  overLines : StoredZone.read? zone.encode.pretty = some zone.store
  loaded : registry.load zone.store = .ok zone

namespace Registry

variable {registry : Registry Memory Body} {zone : Zone Body}

section

variable (covered : ∀ service ∈ zone.allServices, registry.Covers service)

include covered in
theorem isStorable_encode_of_covers : zone.encode.IsStorable Json.depthLimit :=
  StoredZone.isStorable_encode
    (Zone.forall_stored fun service member => (covered service member).isStorable_encode)

include covered in
/-- A text that has the JSON form of a covered zone is read as its stored form. -/
theorem read?_of_covers {text : Text} (read : Json.read? text = some zone.encode) :
    StoredZone.read? text = some zone.store := by
  have whole : Json.wholeDocument? zone.encode = some zone.encode :=
    Json.wholeDocument?_eq (isStorable_encode_of_covers covered)
  have decoded : StoredZone.decode? zone.encode = some zone.store :=
    StoredZone.decode?_encode
      (Zone.forall_stored fun service member => (covered service member).decode?_encode)
  rw [StoredZone.read?, read]
  change (Json.wholeDocument? zone.encode).bind StoredZone.decode? = _
  rw [whole, Option.bind_some, decoded]

include covered in
theorem revived_map_store {services : List (Service Body)}
    (among : ∀ service ∈ services, service ∈ zone.allServices) :
    registry.revived (services.map Service.store) = services := by
  have each : ∀ service ∈ services,
      (registry.revive service.store).toOption = some service := by
    intro service member
    rw [(covered service (among service member)).revive_store]
    rfl
  rw [revived, List.filterMap_map]
  exact (List.filterMap_congr each).trans List.filterMap_some

include covered in
/-- A zone whose services are all covered is loaded without a refusal. -/
theorem refusals_store : registry.refusals zone.store.allServices = [] := by
  have each : ∀ entry ∈ zone.store.services.entries, ∀ stored ∈ entry.2,
      registry.refusal? stored = none := by
    apply Zone.forall_stored
    intro service member
    rw [refusal?, (covered service member).revive_store]
  rw [StoredZone.allServices, inOrder_eq_flatMap]
  apply List.filterMap_eq_nil_iff.mpr
  intro stored member
  rcases List.mem_flatMap.mp member with ⟨entry, isEntry, isStored⟩
  exact each entry isEntry stored isStored

include covered in
/-- Storing and reviving a zone gives the zone itself. -/
theorem revivedZone_store : registry.revivedZone zone.store = zone := by
  have services : (zone.services.map (List.map Service.store)).map registry.revived =
      zone.services := by
    apply map_map_eq_self
    intro entry isEntry
    exact revived_map_store covered fun service member => Zone.mem_allServices isEntry member
  rw [revivedZone, Zone.store, services]

include covered in
/-- A zone is read back if its registry covers all its services. -/
theorem readsBack_of_covers : registry.ReadsBack zone where
  compact :=
    read?_of_covers covered (Json.read?_write (isStorable_encode_of_covers covered).plain)
  overLines :=
    read?_of_covers covered (Json.read?_pretty (isStorable_encode_of_covers covered).plain)
  loaded := by
    rw [load_eq, refusals_store covered, revivedZone_store covered]
    rfl

end

end Registry

/-! ## Zones of an analysis -/

namespace Registry

/-- The services of an analysis are summed up: they carry the keys of their bodies. -/
theorem isSummedUp_of_analyzeIn [Hosts Body Orphan] {registry : Registry Memory Body}
    {settings : Settings} {memory : Memory} {origin : Text} {records : List Record}
    {analysis : Analysis Body}
    (analyzed : (registry.analyzeIn settings memory origin records).1 = .ok analysis)
    {service : Service Body} (member : service ∈ analysis.allServices) :
    service.IsSummedUp (Owner.qualified origin) := by
  rcases areFiled_of_analyzeIn analyzed with ⟨filed, _⟩
  rcases exists_slot_of_mem member with ⟨slot, found⟩
  exact (filed.summedUp found).2

/-- The zone of an analysis is read back if the registry knows all bodies. -/
theorem readsBack_of_analyzeIn [Hosts Body Orphan] {registry : Registry Memory Body}
    {settings : Settings} {memory : Memory} {origin : Text} {records : List Record}
    {analysis : Analysis Body}
    (analyzed : (registry.analyzeIn settings memory origin records).1 = .ok analysis)
    (known : ∀ service ∈ analysis.allServices,
      registry.Knows service.body ∧ ServiceBody.resourceCount service.body < UInt64.size)
    (now : Timestamp) : registry.ReadsBack (Zone.ofAnalysis analysis now) := by
  apply readsBack_of_covers
  intro service member
  have summedUp := isSummedUp_of_analyzeIn analyzed member
  rcases known service member with ⟨known, counted⟩
  exact ⟨summedUp.kind, known, summedUp.resources.symm ▸ counted⟩

theorem knows_builtin (body : Builtin) : (builtin : Registry Unit Builtin).Knows body := by
  cases body with
  | challenge body => exact ⟨_, rfl, .inl (.challenge body rfl)⟩
  | mailExchangers body => exact ⟨_, rfl, .inl (.mailExchangers body rfl)⟩
  | server body => exact ⟨_, rfl, .inl (.server body rfl)⟩
  | link body => exact ⟨_, rfl, .inl (.link body rfl)⟩
  | orphan body => exact ⟨_, rfl, .inl (.orphan body rfl)⟩

theorem resources_le_resourcesOf {services : List (Service Builtin)} {service : Service Builtin}
    (member : service ∈ services) : service.header.resources ≤ resourcesOf services := by
  induction services with
  | nil => cases member
  | cons first rest step =>
      rw [resourcesOf, List.foldr_cons, ← resourcesOf]
      rcases List.mem_cons.mp member with rfl | later
      · exact Nat.le_add_right _ _
      · exact (step later).trans (Nat.le_add_left _ _)

section

variable {settings : Settings} {origin : Text} {records : List Record}
  {analysis : Analysis Builtin}
  (analyzed : (builtin : Registry Unit Builtin).analyze settings origin records = .ok analysis)

include analyzed in
/-- No service of an analysis counts more records than were given. -/
theorem resources_le_length {service : Service Builtin}
    (member : service ∈ analysis.allServices) : service.header.resources ≤ records.length := by
  have total := resourcesOf_services (Premises.ofZone origin records settings.emptyTtl) records
  have listed := (perm_allServices analyzed).mem_iff.mp member
  have within := resources_le_resourcesOf listed
  omega

include analyzed in
/-- The zone of an analysis with the built-in kinds is covered by them. -/
theorem covers_of_analyze (fits : records.length < UInt64.size) {service : Service Builtin}
    (member : service ∈ analysis.allServices) :
    (builtin : Registry Unit Builtin).Covers service where
  carried := (isSummedUp_of_analyzeIn analyzed member).kind
  known := knows_builtin service.body
  counted := (resources_le_length analyzed member).trans_lt fits

end

end Registry

end ZoneServices
