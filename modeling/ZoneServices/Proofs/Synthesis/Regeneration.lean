import ZoneServices.Proofs.Synthesis.Again

/-!
# Zones found again

What a zone has written is analysed again.  The second analysis files exactly the services that
could be written, sort by sort, each in the form in which it is found again; so a zone lists them
in the same order as before.  It drops none of the records, and there are no more of them than the
zone was made of.
-/

namespace ZoneServices

open Directory Text

/-! ## Services by sort -/

/-- Some services, sort by sort. -/
def bySort (services : List (Service Builtin)) : List (Service Builtin) :=
  ServiceSort.all.flatMap fun sort => services.filter (·.body.sort == sort)

theorem bySort_filter (keeps : Service Builtin → Bool) (services : List (Service Builtin)) :
    bySort (services.filter keeps) = (bySort services).filter keeps := by
  rw [bySort, bySort, List.filter_flatMap]
  apply List.flatMap_congr
  intro sort _
  rw [List.filter_filter, List.filter_filter]
  exact List.filter_congr fun service _ => Bool.and_comm _ _

namespace Premises

variable {premises next : Premises} {records : List Record}

theorem sort_of_mem_servicesOf {sort : ServiceSort} {service : Service Builtin}
    (member : service ∈ premises.servicesOf sort records) : service.body.sort = sort := by
  cases sort with
  | challenge =>
      rcases List.mem_filterMap.mp member with ⟨record, _, found⟩
      rcases Option.map_eq_some_iff.mp found with ⟨claim, _, rfl⟩
      rfl
  | mail =>
      rcases List.mem_map.mp member with ⟨group, _, rfl⟩
      rw [mailService_eq]
      rfl
  | server =>
      rcases List.mem_map.mp member with ⟨group, _, rfl⟩
      rw [serverService_eq]
      rfl
  | link =>
      rcases List.mem_filterMap.mp member with ⟨record, _, found⟩
      rcases Option.map_eq_some_iff.mp found with ⟨claim, _, rfl⟩
      rfl
  | orphan =>
      rcases List.mem_map.mp member with ⟨record, _, rfl⟩
      rfl

theorem filter_servicesOf (sort other : ServiceSort) :
    (premises.servicesOf other records).filter (·.body.sort == sort) =
      if other = sort then premises.servicesOf sort records else [] := by
  split
  · rename_i same
    subst same
    apply List.filter_eq_self.mpr
    intro service member
    exact beq_iff_eq.mpr (sort_of_mem_servicesOf member)
  · rename_i different
    apply List.filter_eq_nil_iff.mpr
    intro service member sorted
    exact different ((sort_of_mem_servicesOf member).symm.trans (beq_iff_eq.mp sorted))

theorem filter_services (sort : ServiceSort) :
    (premises.services records).filter (·.body.sort == sort) =
      premises.servicesOf sort records := by
  rw [services_eq, List.filter_flatMap]
  simp only [filter_servicesOf, ServiceSort.all]
  cases sort <;> simp

/-- The services of an analysis are filed sort by sort. -/
theorem bySort_services : bySort (premises.services records) = premises.services records := by
  rw [bySort, services_eq]
  apply List.flatMap_congr
  intro sort _
  rw [← services_eq, filter_services]

/-! ## Records of many services -/

theorem flatMap_filter {Value Result : Type} {values : List Value} {isWanted : Value → Bool}
    {results : Value → List Result}
    (none : ∀ value ∈ values, isWanted value = false → results value = []) :
    (values.filter isWanted).flatMap results = values.flatMap results := by
  induction values with
  | nil => rfl
  | cons value rest step =>
      rcases List.forall_mem_cons.mp none with ⟨first, others⟩
      cases wanted : isWanted value with
      | true =>
          rw [List.filter_cons_of_pos wanted, List.flatMap_cons, List.flatMap_cons, step others]
      | false =>
          rw [List.filter_cons_of_neg (by simp [wanted]), List.flatMap_cons, first wanted,
            step others, List.nil_append]

/-- The owner of the records of a service that gathers them, in lower case. -/
def ownerOf (premises : Premises) (service : Service Builtin) : Text :=
  fold (Owner.resolve service.header.subdomain premises.origin)

/-- The records that a service writes. -/
def recordsOf (premises : Premises) (service : Service Builtin) : List Record :=
  (premises.synthesis service).records

section Written

variable {services : List (Service Builtin)} {sort : ServiceSort}
  (reproduced : ∀ service ∈ services, premises.IsReproduced next service)
  (distinct : ∀ sort : ServiceSort, sort.isGrouped = true →
    ((services.filter (·.body.sort == sort)).map premises.ownerOf).Nodup)

include reproduced in
/-- The records of a service of another sort are not recognized as of this one. -/
theorem sort_of_mem_recordsOf {service : Service Builtin} (member : service ∈ services)
    (other : (service.body.sort == sort) = false) {record : Record}
    (written : record ∈ premises.recordsOf service) : next.sortOf? record ≠ some sort := by
  rw [(reproduced service member).sorted record written]
  intro same
  rw [Option.some.inj same, beq_self_eq_true] at other
  cases other

include reproduced distinct in
/-- The groups made of the written records are those of each service for itself. -/
theorem ofEntries_recordsOf (sort : ServiceSort) {Item : Type} {read? : Record → Option Item}
    (grouped : sort.isGrouped = true)
    (sorts : ∀ record, (read? record).isSome = true → next.sortOf? record = some sort) :
    Group.ofEntries ((services.flatMap premises.recordsOf).filterMap (paired? read?)) =
      services.flatMap fun service =>
        Group.ofEntries ((premises.recordsOf service).filterMap (paired? read?)) := by
  have unread : ∀ service ∈ services, (service.body.sort == sort) = false →
      (premises.recordsOf service).filterMap (paired? read?) = [] := by
    intro service member other
    apply filterMap_paired?_eq_nil
    intro record written
    apply Bool.eq_false_iff.mpr
    intro found
    exact sort_of_mem_recordsOf reproduced member other written (sorts record found)
  have owned : ∀ service ∈ services.filter (·.body.sort == sort),
      ∀ entry ∈ (premises.recordsOf service).filterMap (paired? read?),
        fold entry.1.owner = premises.ownerOf service := by
    intro service member entry inEntries
    rcases List.mem_filter.mp member with ⟨inServices, sorted⟩
    have gathers : service.body.sort.isGrouped = true := by
      rw [beq_iff_eq.mp sorted]
      exact grouped
    exact (reproduced service inServices).owned gathers entry.1 (mem_entries inEntries).1
  -- Without the services of other sorts, each of which writes nothing to read here, every service
  -- is a block of its own.
  rw [List.filterMap_flatMap, ← flatMap_filter unread,
    Group.ofEntries_flatMap premises.ownerOf _ owned (distinct sort grouped)]
  apply flatMap_filter
  intro service member other
  rw [unread service member other]
  rfl

include reproduced distinct in
/-- What a sort of services is found to be does not change when records of others stand around. -/
theorem servicesOf_flatMap :
    next.servicesOf sort (services.flatMap premises.recordsOf) =
      services.flatMap fun service => next.servicesOf sort (premises.recordsOf service) := by
  cases sort with
  | challenge => exact List.filterMap_flatMap ..
  | mail =>
      rw [servicesOf, mailGroups, ofEntries_recordsOf reproduced distinct .mail rfl
        fun _ found => sortOf?_of_exchanger found, List.map_flatMap]
      rfl
  | server =>
      rw [servicesOf, serverGroups, ofEntries_recordsOf reproduced distinct .server rfl
        fun _ found => sortOf?_of_address found, List.map_flatMap]
      rfl
  | link => exact List.filterMap_flatMap ..
  | orphan =>
      rw [servicesOf, orphans, List.filter_flatMap, List.map_flatMap]
      rfl

include reproduced distinct in
/-- The services that are found in the records of some services are these services, by sort. -/
theorem services_flatMap :
    next.services (services.flatMap premises.recordsOf) =
      (bySort services).map (premises.revisited next) := by
  have ofSort : ∀ sort, next.servicesOf sort (services.flatMap premises.recordsOf) =
      (services.filter (·.body.sort == sort)).map (premises.revisited next) := by
    intro sort
    have others : ∀ service ∈ services, (service.body.sort == sort) = false →
        next.servicesOf sort (premises.recordsOf service) = [] := by
      intro service member other
      exact servicesOf_eq_nil fun record written =>
        sort_of_mem_recordsOf reproduced member other written
    rw [servicesOf_flatMap reproduced distinct, ← flatMap_filter others, List.map_eq_flatMap]
    apply List.flatMap_congr
    intro service member
    rcases List.mem_filter.mp member with ⟨inServices, sorted⟩
    rw [← beq_iff_eq.mp sorted]
    exact (reproduced service inServices).found
  rw [services_eq, bySort, List.map_flatMap]
  exact List.flatMap_congr fun sort _ => ofSort sort

end Written

/-! ## The services of a zone -/

/-- The services that a zone lists and that can write their records. -/
def writable (premises : Premises) (records : List Record) : List (Service Builtin) :=
  (inOrder (collect subdomain (premises.services records))).filter fun service =>
    (premises.synthesis service).isComplete

/-- The writable services are, up to their order, those of the classification that settle. -/
theorem perm_writable :
    (premises.writable records).Perm ((premises.services records).filter fun service =>
      (premises.synthesis service).isComplete) :=
  (perm_inOrder_collect _).filter _

/-- A writable service is made of the records and settles. -/
theorem mem_writable {service : Service Builtin} (member : service ∈ premises.writable records) :
    IsMade premises records service ∧ (premises.synthesis service).isComplete = true := by
  rcases List.mem_filter.mp (perm_writable.mem_iff.mp member) with ⟨inServices, settles⟩
  exact ⟨isMade_of_mem inServices, settles⟩

theorem under_filter (key : Text) (keeps : Service Builtin → Bool)
    (services : List (Service Builtin)) :
    under subdomain key (services.filter keeps) = (under subdomain key services).filter keeps := by
  rw [under, under, List.filter_filter, List.filter_filter]
  exact List.filter_congr fun service _ => Bool.and_comm _ _

theorem under_writable (key : Text) :
    under subdomain key (premises.writable records) =
      (under subdomain key (premises.services records)).filter fun service =>
        (premises.synthesis service).isComplete := by
  rw [writable, under_filter, under_inOrder_collect]

/-- Under one subdomain the writable services already stand in the order of their sorts. -/
theorem bySort_under_writable (key : Text) :
    bySort (under subdomain key (premises.writable records)) =
      under subdomain key (premises.writable records) := by
  rw [under_writable, bySort_filter, under, bySort_filter, bySort_services]

/-- No two groups are written on the same owner. -/
theorem nodup_ownerOf_groups (zone : Record.checkOwner premises.origin = .ok ())
    (sound : ∀ record ∈ records, record.IsSound) {Item : Type} {read? : Record → Option Item}
    (service : Group Item → Service Builtin)
    (place : ∀ group, (service group).header.subdomain =
      Owner.relativeTo group.leader.owner premises.origin) :
    (((Group.ofEntries (records.filterMap (paired? read?))).map service).map
      premises.ownerOf).Nodup := by
  have same : ∀ group ∈ Group.ofEntries (records.filterMap (paired? read?)),
      (premises.ownerOf ∘ service) group = group.owner := by
    intro group member
    have leads := (mem_entries (Group.isFrom_of_mem member).leader).1
    rw [Function.comp_apply, ownerOf, place, fold_resolve_relativeTo (sound _ leads).plain zone]
    rfl
  rw [List.map_map, List.map_congr_left same]
  exact Group.nodup_owners _

/-- No two grouped services of one sort are written on the same owner. -/
theorem nodup_ownerOf_servicesOf (zone : Record.checkOwner premises.origin = .ok ())
    (sound : ∀ record ∈ records, record.IsSound) {sort : ServiceSort}
    (grouped : sort.isGrouped = true) :
    ((premises.servicesOf sort records).map premises.ownerOf).Nodup := by
  cases sort with
  | mail =>
      apply nodup_ownerOf_groups zone sound
      intro group
      rw [mailService_eq]
      rfl
  | server =>
      apply nodup_ownerOf_groups zone sound
      intro group
      rw [serverService_eq]
      rfl
  | challenge => cases grouped
  | link => cases grouped
  | orphan => cases grouped

theorem nodup_ownerOf_writable (zone : Record.checkOwner premises.origin = .ok ())
    (sound : ∀ record ∈ records, record.IsSound) (sort : ServiceSort)
    (grouped : sort.isGrouped = true) :
    (((premises.writable records).filter (·.body.sort == sort)).map premises.ownerOf).Nodup := by
  have all := nodup_ownerOf_servicesOf zone sound grouped
  rw [← filter_services] at all
  have fewer : (((premises.services records).filter fun service =>
      (premises.synthesis service).isComplete).filter (·.body.sort == sort)).Sublist
      ((premises.services records).filter (·.body.sort == sort)) :=
    List.filter_sublist.filter _
  exact ((perm_writable.filter _).map _).nodup_iff.mpr (all.sublist (fewer.map _))

/-! ## The second analysis -/

section Second

variable (origin : next.origin = premises.origin)
  (zone : Record.checkOwner premises.origin = .ok ())
  (regular : ∀ record ∈ records, record.IsRegular)

include origin zone regular in
/-- The second analysis makes the same of the records of a writable service. -/
theorem isReproduced_of_mem_writable {service : Service Builtin}
    (member : service ∈ premises.writable records) : premises.IsReproduced next service :=
  isReproduced_of_isMade origin zone regular (mem_writable member).1 (mem_writable member).2

/-- The records that a zone writes. -/
def written (premises : Premises) (records : List Record) : List Record :=
  (premises.writable records).flatMap premises.recordsOf

theorem subdomain_revisited (service : Service Builtin) :
    subdomain (premises.revisited next service) = subdomain service := by
  rw [revisited]
  split
  · rfl
  · rfl

include origin zone regular in
/-- Under each subdomain the services that can be written are found again, in their order. -/
theorem under_services_written (key : Text) :
    under subdomain key (next.services (premises.written records)) =
      (under subdomain key (premises.writable records)).map (premises.revisited next) := by
  have sound : ∀ record ∈ records, record.IsSound :=
    fun record member => (regular record member).toIsSound
  rw [written, services_flatMap
    (fun _ member => isReproduced_of_mem_writable origin zone regular member)
    (nodup_ownerOf_writable zone sound), under_map fun service _ => subdomain_revisited service]
  rw [under, ← bySort_filter, ← under, bySort_under_writable]

include origin zone regular in
/-- A zone lists the services that it wrote in the order in which they were written. -/
theorem inOrder_services_written :
    inOrder (collect subdomain (next.services (premises.written records))) =
      (premises.writable records).map (premises.revisited next) := by
  have sorted : ((premises.writable records).map (premises.revisited next)).Pairwise
      fun earlier later => ¬ subdomain later < subdomain earlier := by
    apply List.pairwise_map.mpr
    simp only [subdomain_revisited]
    exact (sorted_inOrder_collect _).filter _
  apply eq_of_sorted_of_under_eq (sorted_inOrder_collect _) sorted
  intro key
  rw [under_inOrder_collect, under_services_written origin zone regular,
    under_map fun service _ => subdomain_revisited service]

include origin zone regular in
/-- No written record is dropped by the second analysis. -/
theorem not_drops_of_mem_written {record : Record} (member : record ∈ premises.written records) :
    next.drops record = false := by
  rcases List.mem_flatMap.mp member with ⟨service, inServices, ofService⟩
  have reproduced := isReproduced_of_mem_writable origin zone regular inServices
  exact not_drops_of_sortOf? (reproduced.sorted record ofService)

include origin zone regular in
theorem countP_drops_written : (premises.written records).countP next.drops = 0 :=
  List.countP_eq_zero.mpr fun _ member =>
    Bool.eq_false_iff.mp (not_drops_of_mem_written origin zone regular member)

theorem resourcesOf_sublist {left right : List (Service Builtin)} (fewer : left.Sublist right) :
    resourcesOf left ≤ resourcesOf right := by
  induction fewer with
  | slnil => exact Nat.le_refl _
  | cons service _ step => exact Nat.le_add_left_of_le step
  | cons_cons service _ step => exact Nat.add_le_add_left step _

/-- A reproduced service is written as exactly as many records as it counts. -/
theorem length_flatMap_recordsOf {services : List (Service Builtin)}
    (reproduced : ∀ service ∈ services, premises.IsReproduced next service) :
    (services.flatMap premises.recordsOf).length = resourcesOf services := by
  induction services with
  | nil => rfl
  | cons service rest step =>
      rcases List.forall_mem_cons.mp reproduced with ⟨first, others⟩
      rw [List.flatMap_cons, List.length_append, step others]
      exact congrArg (· + _) first.size

include zone regular in
/-- A zone does not write more records than it was made of. -/
theorem length_written_le : (premises.written records).length ≤ records.length := by
  have reproduced : ∀ service ∈ premises.writable records,
      premises.IsReproduced premises service :=
    fun _ member => isReproduced_of_mem_writable rfl zone regular member
  have total := resourcesOf_services premises records
  calc (premises.written records).length
      = resourcesOf (premises.writable records) := length_flatMap_recordsOf reproduced
    _ = resourcesOf ((premises.services records).filter _) := resourcesOf_perm perm_writable
    _ ≤ resourcesOf (premises.services records) := resourcesOf_sublist List.filter_sublist
    _ ≤ records.length := by omega

end Second

end Premises

end ZoneServices
