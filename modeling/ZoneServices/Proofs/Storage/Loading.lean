import ZoneServices.Proofs.Filing
import ZoneServices.Zone.Storage
import ZoneServices.Zone.Synthesis

/-!
# Strict and lenient loading

A stored zone is loaded strictly or leniently.  Both visit its services by subdomain and then in
their order, and both ask the registry to revive each of them.  So what either makes of a zone is
told by two lists: the services that are revived, and the refusals of the others.

The main theorem says that strict loading succeeds exactly if there is no refusal, and then agrees
with lenient loading, and that it fails with the first refusal otherwise.  Lenient loading keeps
every service that can be revived, and nothing else, and reports every other one.
-/

namespace ZoneServices

open Directory

variable {Memory Body : Type}

/-! ## Directories of lists -/

namespace Directory

variable {Value Other : Type}

/-- The values that are listed under a text, none where nothing is filed. -/
def listed (directory : Directory (List Value)) (key : Text) : List Value :=
  (directory.get? key).getD []

/-- A directory without the texts that have an empty list. -/
def pruned (directory : Directory (List Value)) : Directory (List Value) :=
  ⟨directory.entries.filter fun entry => !entry.2.isEmpty, directory.sorted.filter _⟩

/-- The values of a directory in order are the lists of its entries, one after another. -/
theorem inOrder_eq_flatMap (directory : Directory (List Value)) :
    inOrder directory = directory.entries.flatMap Prod.snd := by
  rw [inOrder, Directory.values, List.flatMap]

theorem inOrder_map (change : List Value → List Other) (directory : Directory (List Value)) :
    inOrder (directory.map change) = directory.entries.flatMap fun entry => change entry.2 := by
  rw [inOrder_eq_flatMap, Directory.map, List.flatMap_map]

theorem listed_map (directory : Directory (List Value)) {change : List Value → List Other}
    (empty : change [] = []) (key : Text) :
    (directory.map change).listed key = change (directory.listed key) := by
  rw [listed, listed, get?_map]
  cases directory.get? key with
  | none => exact empty.symm
  | some list => rfl

/-- Pruning takes no value away. -/
theorem inOrder_pruned (directory : Directory (List Value)) :
    inOrder directory.pruned = inOrder directory := by
  rw [inOrder_eq_flatMap, inOrder_eq_flatMap]
  change (directory.entries.filter fun entry => !entry.2.isEmpty).flatMap Prod.snd = _
  induction directory.entries with
  | nil => rfl
  | cons first rest step =>
      rw [List.flatMap_cons, ← step, List.filter_cons]
      cases empty : first.2 with
      | nil => rfl
      | cons value others =>
          rw [← empty, empty, List.isEmpty_cons, Bool.not_false, if_pos rfl, List.flatMap_cons,
            empty]

/-- Pruning keeps the keys with a list that is not empty. -/
theorem get?_pruned_eq_some_iff (directory : Directory (List Value)) (key : Text)
    (list : List Value) :
    directory.pruned.get? key = some list ↔ directory.get? key = some list ∧ list ≠ [] := by
  rw [← mem_entries_iff, ← mem_entries_iff, pruned, List.mem_filter, Bool.not_eq_true',
    List.isEmpty_eq_false_iff]

theorem listed_pruned (directory : Directory (List Value)) (key : Text) :
    directory.pruned.listed key = directory.listed key := by
  rw [listed, listed]
  cases kept : directory.pruned.get? key with
  | some list =>
      rw [((directory.get?_pruned_eq_some_iff key list).mp kept).1]
  | none =>
      cases found : directory.get? key with
      | none => rfl
      | some list =>
          have empty : list = [] := by
            by_contra nonempty
            cases kept.symm.trans
              ((directory.get?_pruned_eq_some_iff key list).mpr ⟨found, nonempty⟩)
          rw [empty]
          rfl

end Directory

/-- The services of a zone on a subdomain, in their order. -/
def Zone.servicesOn (zone : Zone Body) (subdomain : Text) : List (Service Body) :=
  zone.services.listed subdomain

/-- The stored services on a subdomain, in their order. -/
def StoredZone.servicesOn (stored : StoredZone) (subdomain : Text) : List StoredService :=
  stored.services.listed subdomain

/-- The stored services of a zone, by subdomain and then in their order. -/
def StoredZone.allServices (stored : StoredZone) : List StoredService :=
  inOrder stored.services

/-! ## Services that are revived, and refusals -/

namespace Registry

variable [ServiceBody Body]

/-- Why a stored service cannot be revived, if it cannot. -/
def refusal? (registry : Registry Memory Body) (stored : StoredService) : Option RegistryError :=
  match registry.revive stored with
  | .ok _ => none
  | .error error => some error

/-- The services that stored services are revived as, in their order. -/
def revived (registry : Registry Memory Body) (stored : List StoredService) :
    List (Service Body) :=
  stored.filterMap fun service => (registry.revive service).toOption

/-- The refusals among stored services, in their order. -/
def refusals (registry : Registry Memory Body) (stored : List StoredService) :
    List RegistryError :=
  stored.filterMap registry.refusal?

variable (registry : Registry Memory Body)

/-- A service that is revived stands in front of the others and adds no refusal. -/
theorem revived_cons_of_ok {stored : StoredService} {service : Service Body}
    (revives : registry.revive stored = .ok service) (rest : List StoredService) :
    registry.revived (stored :: rest) = service :: registry.revived rest
      ∧ registry.refusals (stored :: rest) = registry.refusals rest := by
  constructor
  · rw [revived, List.filterMap_cons, revives]
    rfl
  · rw [refusals, List.filterMap_cons, refusal?, revives]
    rfl

/-- A refused service is skipped, and its refusal stands in front of the others. -/
theorem revived_cons_of_error {stored : StoredService} {error : RegistryError}
    (refused : registry.revive stored = .error error) (rest : List StoredService) :
    registry.revived (stored :: rest) = registry.revived rest
      ∧ registry.refusals (stored :: rest) = error :: registry.refusals rest := by
  constructor
  · rw [revived, List.filterMap_cons, refused]
    rfl
  · rw [refusals, List.filterMap_cons, refusal?, refused]
    rfl

/-- Every stored service is either revived or refused. -/
theorem length_revived_add_refusals (stored : List StoredService) :
    (registry.revived stored).length + (registry.refusals stored).length = stored.length := by
  induction stored with
  | nil => rfl
  | cons first rest step =>
      cases revives : registry.revive first with
      | ok service =>
          rw [(registry.revived_cons_of_ok revives rest).1,
            (registry.revived_cons_of_ok revives rest).2, List.length_cons, List.length_cons]
          omega
      | error error =>
          rw [(registry.revived_cons_of_error revives rest).1,
            (registry.revived_cons_of_error revives rest).2, List.length_cons, List.length_cons]
          omega

/-- Every refusal of a stored service is one that the lenient loader may skip. -/
theorem isRecoverable_of_revive {stored : StoredService} {error : RegistryError}
    (refused : registry.revive stored = .error error) : error.isRecoverable = true := by
  rw [revive, find] at refused
  split at refused
  · rename_i entry found
    change (entry.decode stored.body).bind _ = _ at refused
    rw [RegistryEntry.decode] at refused
    split at refused
    · cases refused
    · cases refused
      rfl
  · cases refused
    rfl

/-- A refusal to revive a service concerns this service alone. -/
theorem isRecoverable_of_mem_refusals {stored : List StoredService} {error : RegistryError}
    (member : error ∈ registry.refusals stored) : error.isRecoverable = true := by
  rcases List.mem_filterMap.mp member with ⟨service, _, refused⟩
  rw [refusal?] at refused
  split at refused
  · cases refused
  · rename_i known found
    cases refused
    exact registry.isRecoverable_of_revive found

/-! ## Lists of stored services -/

/-- A result, unless something was refused: then the first refusal. -/
def unlessRefused {Result : Type} (refusals : List RegistryError) (result : Result) :
    Except RegistryError Result :=
  match refusals with
  | [] => .ok result
  | error :: _ => .error error

/--
The strict loop gives what is revived unless something is refused, and then the first refusal.
-/
theorem reviveAll_eq (stored : List StoredService) :
    registry.reviveAll stored = unlessRefused (registry.refusals stored)
      (registry.revived stored) := by
  rw [reviveAll]
  induction stored with
  | nil => rfl
  | cons first rest step =>
      rw [List.mapM_cons, step]
      cases revives : registry.revive first with
      | ok service =>
          rw [(registry.revived_cons_of_ok revives rest).1,
            (registry.revived_cons_of_ok revives rest).2]
          cases registry.refusals rest <;> rfl
      | error error =>
          rw [(registry.revived_cons_of_error revives rest).2]
          rfl

/-- The lenient loop gives what is revived beside all refusals. -/
theorem reviveSome_eq (stored : List StoredService) :
    registry.reviveSome stored = (registry.revived stored, registry.refusals stored) := by
  induction stored with
  | nil => rfl
  | cons first rest step =>
      rw [reviveSome, step]
      cases revives : registry.revive first with
      | ok service =>
          rw [(registry.revived_cons_of_ok revives rest).1,
            (registry.revived_cons_of_ok revives rest).2]
      | error error =>
          rw [(registry.revived_cons_of_error revives rest).1,
            (registry.revived_cons_of_error revives rest).2]

/-! ## Stored zones -/

theorem refusals_append (first second : List StoredService) :
    registry.refusals (first ++ second) = registry.refusals first ++ registry.refusals second :=
  List.filterMap_append ..

theorem mapM_reviveAll_eq (entries : List (Text × List StoredService)) :
    (entries.mapM fun entry => do return (entry.1, ← registry.reviveAll entry.2)) =
      unlessRefused (registry.refusals (entries.flatMap Prod.snd))
        (entries.map fun entry => (entry.1, registry.revived entry.2)) := by
  induction entries with
  | nil => rfl
  | cons first rest step =>
      rw [List.mapM_cons, step, List.flatMap_cons, refusals_append, reviveAll_eq]
      cases registry.refusals first.2 with
      | nil =>
          rw [List.nil_append]
          cases registry.refusals (rest.flatMap Prod.snd) <;> rfl
      | cons error others => rfl

/-- The zone of the services that are revived, on every subdomain that something was stored on. -/
def revivedZone (stored : StoredZone) : Zone Body :=
  { header := stored.header, services := stored.services.map registry.revived }

/-- The strict loader gives the revived zone, or the first refusal. -/
theorem load_eq (stored : StoredZone) :
    registry.load stored =
      unlessRefused (registry.refusals stored.allServices) (registry.revivedZone stored) := by
  have made : Directory.ofList
      (stored.services.entries.map fun entry => (entry.1, registry.revived entry.2)) =
        stored.services.map registry.revived :=
    ofList_entries (stored.services.map registry.revived)
  rw [load, loadEntries, mapM_reviveAll_eq, StoredZone.allServices, inOrder_eq_flatMap]
  cases registry.refusals (stored.services.entries.flatMap Prod.snd) with
  | nil =>
      change Except.ok _ = Except.ok _
      rw [made]
      rfl
  | cons error others => rfl

theorem filterMap_nonempty_eq (entries : List (Text × List StoredService)) :
    ((entries.map fun entry => (entry.1, registry.reviveSome entry.2)).filterMap fun entry =>
        if entry.2.1.isEmpty then none else some (entry.1, entry.2.1)) =
      (entries.map fun entry => (entry.1, registry.revived entry.2)).filter
        fun entry => !entry.2.isEmpty := by
  induction entries with
  | nil => rfl
  | cons first rest step =>
      rw [List.map_cons, List.map_cons, List.filterMap_cons, List.filter_cons, step, reviveSome_eq]
      cases (registry.revived first.2).isEmpty <;> rfl

theorem flatMap_refusals_eq (entries : List (Text × List StoredService)) :
    ((entries.map fun entry => (entry.1, registry.reviveSome entry.2)).flatMap
        fun entry => entry.2.2) = registry.refusals (entries.flatMap Prod.snd) := by
  induction entries with
  | nil => rfl
  | cons first rest step =>
      rw [List.map_cons, List.flatMap_cons, step, List.flatMap_cons, refusals_append,
        reviveSome_eq]

/-- The lenient loader gives the revived zone without the keys left empty, beside all refusals. -/
theorem loadLenient_eq (stored : StoredZone) :
    registry.loadLenient stored =
      ({ header := stored.header, services := (registry.revivedZone stored).services.pruned },
        registry.refusals stored.allServices) := by
  have made : Directory.ofList
      ((stored.services.entries.map fun entry => (entry.1, registry.revived entry.2)).filter
        fun entry => !entry.2.isEmpty) = (registry.revivedZone stored).services.pruned :=
    ofList_entries (registry.revivedZone stored).services.pruned
  rw [loadLenient, filterMap_nonempty_eq, flatMap_refusals_eq, made, StoredZone.allServices,
    inOrder_eq_flatMap]

theorem allServices_revivedZone (stored : StoredZone) :
    (registry.revivedZone stored).allServices = registry.revived stored.allServices := by
  have everywhere := inOrder_map registry.revived stored.services
  rw [StoredZone.allServices, inOrder_eq_flatMap, revived, List.filterMap_flatMap]
  exact everywhere

theorem servicesOn_revivedZone (stored : StoredZone) (subdomain : Text) :
    (registry.revivedZone stored).servicesOn subdomain =
      registry.revived (stored.servicesOn subdomain) :=
  listed_map stored.services rfl subdomain

/-! ## Agreement -/

/-- How strict and lenient loading of a stored zone go together. -/
structure LoadsAlike (registry : Registry Memory Body) (stored : StoredZone) : Prop where
  /-- Strict loading succeeds just if lenient loading leaves nothing out. -/
  complete : (∃ strict, registry.load stored = .ok strict) ↔ (registry.loadLenient stored).2 = []
  /-- What strict loading yields is what lenient loading yields, but for empty subdomains. -/
  same : ∀ strict, registry.load stored = .ok strict →
    strict.header = (registry.loadLenient stored).1.header
      ∧ (∀ subdomain, strict.servicesOn subdomain =
        (registry.loadLenient stored).1.servicesOn subdomain)
      ∧ ∀ origin, strict.generate origin = (registry.loadLenient stored).1.generate origin
  /-- Strict loading fails with the first error that lenient loading reports. -/
  refused : ∀ error others, (registry.loadLenient stored).2 = error :: others →
    registry.load stored = .error error
  header : (registry.loadLenient stored).1.header = stored.header
  /-- Lenient loading keeps the services that are revived, in the order in which they are stored. -/
  kept : (registry.loadLenient stored).1.allServices =
    stored.allServices.filterMap fun service => (registry.revive service).toOption
  keptOn : ∀ subdomain, (registry.loadLenient stored).1.servicesOn subdomain =
    (stored.servicesOn subdomain).filterMap fun service => (registry.revive service).toOption
  /-- Lenient loading leaves out the subdomains on which no service is revived. -/
  nonempty : ∀ subdomain,
    (registry.loadLenient stored).1.services.get? subdomain ≠ some []
  count : (registry.loadLenient stored).1.serviceCount + (registry.loadLenient stored).2.length =
    stored.allServices.length
  recoverable : ∀ error ∈ (registry.loadLenient stored).2, error.isRecoverable = true

/-- The synthesis of a zone depends on its header and on its services in order only. -/
theorem generate_congr {first second : Zone Body} (header : first.header = second.header)
    (services : first.allServices = second.allServices) (origin : Text) :
    first.generate origin = second.generate origin := by
  rw [Zone.generate_eq, Zone.generate_eq, header, services]

/-- A key left empty and pruned takes no service away. -/
theorem allServices_loadLenient (stored : StoredZone) :
    (registry.loadLenient stored).1.allServices = registry.revived stored.allServices := by
  rw [loadLenient_eq, ← allServices_revivedZone]
  exact inOrder_pruned _

theorem servicesOn_loadLenient (stored : StoredZone) (subdomain : Text) :
    (registry.loadLenient stored).1.servicesOn subdomain =
      registry.revived (stored.servicesOn subdomain) := by
  rw [loadLenient_eq, ← servicesOn_revivedZone]
  exact listed_pruned _ subdomain

theorem eq_revivedZone_of_load {stored : StoredZone} {zone : Zone Body}
    (succeeded : registry.load stored = .ok zone) : zone = registry.revivedZone stored := by
  rw [load_eq] at succeeded
  cases refusals : registry.refusals stored.allServices with
  | nil =>
      rw [refusals] at succeeded
      cases succeeded
      rfl
  | cons error others =>
      rw [refusals] at succeeded
      cases succeeded

/--
Strict and lenient loading agree, as far as strict loading succeeds; it does unless a service cannot
be revived, which lenient loading leaves out and reports.
-/
theorem loadsAlike (registry : Registry Memory Body) (stored : StoredZone) :
    registry.LoadsAlike stored := by
  have lenient := registry.loadLenient_eq stored
  have strict := registry.load_eq stored
  constructor
  case complete =>
    rw [strict, lenient]
    cases registry.refusals stored.allServices with
    | nil => exact ⟨fun _ => rfl, fun _ => ⟨_, rfl⟩⟩
    | cons error others =>
        constructor
        · rintro ⟨zone, succeeded⟩
          cases succeeded
        · intro none
          cases none
  case same =>
    intro zone succeeded
    rw [registry.eq_revivedZone_of_load succeeded]
    have header : (registry.revivedZone stored).header =
        (registry.loadLenient stored).1.header := by
      rw [lenient]
      rfl
    refine ⟨header, ?_, ?_⟩
    · intro subdomain
      rw [servicesOn_loadLenient, servicesOn_revivedZone]
    · intro origin
      apply generate_congr header
      rw [allServices_loadLenient, allServices_revivedZone]
  -- Both loaders meet the same refusals in the same order, so the first one is the same.
  case refused =>
    intro error others reported
    rw [lenient] at reported
    have first : registry.refusals stored.allServices = error :: others := reported
    rw [strict, first]
    rfl
  case header =>
    rw [lenient]
  case kept => exact registry.allServices_loadLenient stored
  case keptOn => exact registry.servicesOn_loadLenient stored
  case nonempty =>
    intro subdomain found
    rw [lenient] at found
    exact ((get?_pruned_eq_some_iff _ _ _).mp found).2 rfl
  case count =>
    rw [Zone.serviceCount, allServices_loadLenient, lenient]
    exact registry.length_revived_add_refusals stored.allServices
  case recoverable =>
    intro error member
    rw [lenient] at member
    exact registry.isRecoverable_of_mem_refusals member

end Registry

end ZoneServices
