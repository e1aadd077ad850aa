import Mathlib.Data.List.Nodup
import ZoneServices.Proofs.Analysis.Standing

/-!
# What claims do to an analysis

A claim that goes through is on a free record, which it marks as claimed; and it drops the record,
makes a service of it, or adds it to a service.  Everything else that a recognizer does leaves the
analysis as it is.  So an analysis always accords with the list of its claims: the marks are on the
claimed records, and every service is where it was filed and still has the identifier, the
subdomain, the kind and the time to live that it was filed with.
-/

namespace ZoneServices

open Directory

variable {Body : Type}

/-! ## Marks -/

/-- Whether the record at a place is marked as claimed. -/
def isMarked (cells : List Cell) (id : Nat) : Bool :=
  (cells[id]?).any (·.claimed)

/-- Whether just the records at some places are marked as claimed, each of them claimed once. -/
structure AreMarked (records : List Record) (places : List Nat) (cells : List Cell) : Prop where
  records : cells.map (·.record) = records
  claimed : ∀ id, isMarked cells id = true ↔ id ∈ places
  once : places.Nodup
  count : cells.countP (·.claimed) = places.length

namespace AreMarked

variable {records : List Record} {places : List Nat} {cells : List Cell} {id : Nat}
  {record : Record}

theorem start (records : List Record) :
    AreMarked records [] (records.map fun record => ⟨record, false⟩) where
  records := by
    rw [List.map_map]
    exact List.map_id records
  claimed id := by
    rw [isMarked, List.getElem?_map]
    cases records[id]? with
    | none => simp
    | some record => simp
  once := List.nodup_nil
  count := by
    rw [List.countP_map]
    exact List.countP_eq_zero.mpr fun _ _ claimed => Bool.false_ne_true claimed

/-- Claims change no record. -/
theorem record_eq (marked : AreMarked records places cells) {cell : Cell}
    (found : cells[id]? = some cell) : records[id]? = some cell.record := by
  rw [← marked.records, List.getElem?_map, found]
  rfl

/-- A free record is claimed for the first time. -/
theorem claim (marked : AreMarked records places cells)
    (free : cells[id]? = some ⟨record, false⟩) :
    AreMarked records (places ++ [id]) (cells.set id ⟨record, true⟩) where
  records := by
    have bound := (List.getElem?_eq_some_iff.mp free).1
    rw [← marked.records]
    apply List.ext_getElem?
    intro other
    rw [List.getElem?_map, List.getElem?_map, List.getElem?_set]
    split
    · rename_i same
      rw [← same, free]
      rfl
    · rfl
  claimed other := by
    rw [List.mem_append, List.mem_singleton, ← marked.claimed other, isMarked, isMarked]
    by_cases same : id = other
    · subst same
      rw [List.getElem?_set_self (List.getElem?_eq_some_iff.mp free).1]
      exact ⟨fun _ => .inr rfl, fun _ => rfl⟩
    · rw [List.getElem?_set_ne same]
      exact (or_iff_left (Ne.symm same)).symm
  once := by
    have new : id ∉ places := by
      intro known
      have claimed := (marked.claimed id).mpr known
      rw [isMarked, free] at claimed
      cases claimed
    rw [← List.concat_eq_append]
    exact marked.once.concat new
  count := by
    obtain ⟨bound, found⟩ := List.getElem?_eq_some_iff.mp free
    rw [List.countP_set bound, found, marked.count, List.length_append]
    rfl

end AreMarked

/-! ## Claims that go through -/

/-- The service at a place among services by subdomain. -/
def Slot.find? (slot : Slot) (services : Directory (List (Service Body))) :
    Option (Service Body) :=
  ((services.get? slot.subdomain).getD [])[slot.index]?

/-- The next place on a subdomain is still empty. -/
theorem Slot.find?_next (services : Directory (List (Service Body))) (subdomain : Text) :
    Slot.find? ⟨subdomain, ((services.get? subdomain).getD []).length⟩ services = none :=
  List.getElem?_eq_none (Nat.le_refl _)

namespace Analyzer

/-- What the services of an analysis depend on beside their records. -/
def premises (analyzer : Analyzer Body) : Premises where
  origin := analyzer.origin
  zoneTtl := analyzer.defaultTtl

/-- An analysis in which the record at a place is claimed. -/
def mark (analyzer : Analyzer Body) (id : Nat) (record : Record) : Analyzer Body :=
  { analyzer with cells := analyzer.cells.set id ⟨record, true⟩ }

variable {analyzer next : Analyzer Body} {id : Nat} {record : Record} {slot : Slot}

/-- A claim succeeds exactly if its record is free, and marks it. -/
theorem claim_eq_ok_iff :
    analyzer.claim id = .ok (record, next) ↔
      analyzer.cells[id]? = some ⟨record, false⟩ ∧ next = analyzer.mark id record := by
  rw [claim]
  constructor
  · intro claimed
    split at claimed
    · cases claimed
    · rename_i cell found
      rcases cell with ⟨known, isClaimed⟩
      cases isClaimed with
      | true => cases claimed
      | false =>
          cases claimed
          exact ⟨found, rfl⟩
  · rintro ⟨free, rfl⟩
    rw [free]
    rfl

theorem drop_eq_ok (dropped : analyzer.drop id = .ok next) :
    ∃ record, analyzer.cells[id]? = some ⟨record, false⟩
      ∧ next = { analyzer.mark id record with dropped := analyzer.dropped + 1 } := by
  rw [drop] at dropped
  cases claimed : analyzer.claim id with
  | error error =>
      rw [claimed] at dropped
      cases dropped
  | ok outcome =>
      rcases outcome with ⟨record, after⟩
      rcases claim_eq_ok_iff.mp claimed with ⟨free, rfl⟩
      rw [claimed] at dropped
      cases dropped
      exact ⟨record, free, rfl⟩

/-- A search finds the records that no claim went through on. -/
theorem search_eq {records : List Record} {places : List Nat}
    (marked : AreMarked records places analyzer.cells) (filters : List RecordFilter) :
    analyzer.search filters = records.zipIdx.filterMap fun (record, id) =>
      if id ∉ places ∧ filters.any (·.accepts record) then some (id, record) else none := by
  rw [search, ← marked.records, List.zipIdx_map, List.filterMap_map]
  apply List.filterMap_congr
  rintro ⟨cell, id⟩ member
  have free : cell.claimed = false ↔ id ∉ places := by
    rw [← marked.claimed id, isMarked, List.mem_zipIdx_iff_getElem?.mp member, Bool.not_eq_true]
    rfl
  simp [Bool.and_eq_true, free]

/-- A filed service is found behind those of its subdomain. -/
theorem find?_file (service : Service Body) :
    slot.find? (analyzer.file service).services =
      if slot = ⟨service.header.subdomain,
          (analyzer.servicesOn service.header.subdomain).length⟩ then some service
      else slot.find? analyzer.services := by
  rcases slot with ⟨subdomain, index⟩
  rw [Slot.find?, file, get?_alter]
  dsimp only
  by_cases same : subdomain = service.header.subdomain
  · subst same
    rw [if_pos rfl, Option.getD_some, ← servicesOn]
    by_cases last : index = (analyzer.servicesOn service.header.subdomain).length
    · rw [last, if_pos rfl, List.getElem?_concat_length]
    · rw [if_neg (fun equal => last (congrArg Slot.index equal)), Slot.find?,
        List.getElem?_append]
      split
      · rfl
      · rename_i beyond
        rw [← servicesOn, List.getElem?_eq_none (Nat.not_lt.mp beyond), List.getElem?_eq_none]
        rw [List.length_singleton]
        omega
  · rw [if_neg same, if_neg (fun equal => same (congrArg Slot.subdomain equal))]
    rfl

variable [ServiceBody Body]

/-- A use that succeeds files a service behind those on its subdomain. -/
theorem use_eq_ok {name : Text} {body : Body}
    (used : analyzer.use id name body = .ok (slot, next)) :
    ∃ record, analyzer.cells[id]? = some ⟨record, false⟩
      ∧ slot = ⟨Owner.relativeTo name analyzer.origin,
        (analyzer.servicesOn (Owner.relativeTo name analyzer.origin)).length⟩
      ∧ next = (analyzer.mark id record).file (analyzer.serviceOf record name body) := by
  rw [use] at used
  cases claimed : analyzer.claim id with
  | error error =>
      rw [claimed] at used
      cases used
  | ok outcome =>
      rcases outcome with ⟨record, after⟩
      rcases claim_eq_ok_iff.mp claimed with ⟨free, rfl⟩
      rw [claimed] at used
      cases used
      exact ⟨record, free, rfl, rfl⟩

/-- An extension that succeeds revises the service at its place. -/
theorem extend_eq_ok {extension : Extension Body}
    (extended : analyzer.extend id slot extension = .ok next) :
    ∃ record service revise, analyzer.cells[id]? = some ⟨record, false⟩
      ∧ analyzer.serviceAt? slot = some service ∧ extension.revise? service.body = some revise
      ∧ next = (analyzer.mark id record).reviseAt slot (revise record) := by
  rw [extend] at extended
  split at extended
  · cases extended
  · rename_i revise found
    rcases Option.bind_eq_some_iff.mp found with ⟨service, placed, revises⟩
    cases claimed : analyzer.claim id with
    | error error =>
        rw [claimed] at extended
        cases extended
    | ok outcome =>
        rcases outcome with ⟨record, after⟩
        rcases claim_eq_ok_iff.mp claimed with ⟨free, rfl⟩
        rw [claimed] at extended
        cases extended
        exact ⟨record, service, revise, free, placed, revises, rfl⟩

/-- Another body changes the service at one place alone. -/
theorem find?_reviseAt (body : Body) (other : Slot) :
    other.find? (analyzer.reviseAt slot body).services =
      if other = slot then
        (slot.find? analyzer.services).map fun service => service.revise body analyzer.origin
      else other.find? analyzer.services := by
  rcases slot with ⟨subdomain, index⟩
  rcases other with ⟨key, place⟩
  rw [Slot.find?, reviseAt, get?_alter]
  dsimp only
  by_cases same : key = subdomain
  · subst same
    rw [if_pos rfl, Option.getD_some, List.getElem?_modify]
    by_cases here : index = place
    · subst here
      rw [if_pos rfl]
      simp [Slot.find?]
    · rw [if_neg (fun equal => here (congrArg Slot.index equal).symm)]
      simp [Slot.find?, here]
  · rw [if_neg same, if_neg (fun equal => same (congrArg Slot.subdomain equal))]
    rfl

end Analyzer

/-- A claim that went through. -/
inductive Claim where
  /-- A record became a service of a kind, which was filed at a place. -/
  | service (id : Nat) (slot : Slot) (kind : Text)
  | drop (id : Nat)
  /-- A record was added to the service at a place. -/
  | extension (id : Nat) (slot : Slot)
deriving DecidableEq, Repr

namespace Claim

/-- The claimed record. -/
def id : Claim → Nat
  | .service id _ _ => id
  | .drop id => id
  | .extension id _ => id

/-- The place of the service that a claim has made. -/
def place? : Claim → Option Slot
  | .service _ slot _ => some slot
  | .drop _ => none
  | .extension _ _ => none

/-- Whether a claim makes a service. -/
def isService (claim : Claim) : Bool :=
  claim.place?.isSome

/-- Whether a claim drops its record. -/
def isDrop : Claim → Bool
  | .drop _ => true
  | _ => false

/-- Whether a claim adds its record to a service. -/
def isExtension : Claim → Bool
  | .extension _ _ => true
  | _ => false

end Claim

variable [ServiceBody Body]

/-- What an exchange does to an analysis: nothing, or what a claim on a free record does. -/
inductive Analyzer.Effect (analyzer : Analyzer Body) : Option Claim → Analyzer Body → Prop
  | nothing : Effect analyzer none analyzer
  | service {id : Nat} {record : Record} (free : analyzer.cells[id]? = some ⟨record, false⟩)
      (name : Text) (body : Body) :
      Effect analyzer
        (some (.service id
          ⟨Owner.relativeTo name analyzer.origin,
            (analyzer.servicesOn (Owner.relativeTo name analyzer.origin)).length⟩
          (ServiceBody.kindKey body)))
        ((analyzer.mark id record).file (analyzer.serviceOf record name body))
  | drop {id : Nat} {record : Record} (free : analyzer.cells[id]? = some ⟨record, false⟩) :
      Effect analyzer (some (.drop id))
        { analyzer.mark id record with dropped := analyzer.dropped + 1 }
  | extension {id : Nat} {record : Record} (free : analyzer.cells[id]? = some ⟨record, false⟩)
      {slot : Slot} {service : Service Body} (found : slot.find? analyzer.services = some service)
      {body : Body} (same : ServiceBody.kindKey body = ServiceBody.kindKey service.body) :
      Effect analyzer (some (.extension id slot))
        ((analyzer.mark id record).reviseAt slot body)

/-! ## Services that stay where they are -/

namespace Service

/-- Whether the header of a service sums its body up. -/
structure IsSummedUp (service : Service Body) (origin : Text) : Prop where
  kind : service.header.kind = ServiceBody.kindKey service.body
  comment : service.header.comment = ServiceBody.comment service.body origin
  resources : service.header.resources = ServiceBody.resourceCount service.body

/-- Whether a service was made of a record, with a kind, on a subdomain. -/
structure StemsFrom (service : Service Body) (premises : Premises) (record : Record)
    (subdomain kind : Text) : Prop where
  id : service.header.id = .ofRecord record
  subdomain : service.header.subdomain = subdomain
  kind : service.header.kind = kind
  ttl : service.header.ttl = premises.storedTtl record

variable {service : Service Body} {premises : Premises} {record : Record}
  {subdomain kind origin : Text}

/-- A service with another body of its kind is summed up anew. -/
theorem IsSummedUp.revise (summedUp : service.IsSummedUp origin) {body : Body}
    (same : ServiceBody.kindKey body = ServiceBody.kindKey service.body) :
    (service.revise body origin).IsSummedUp origin where
  kind := summedUp.kind.trans same.symm
  comment := rfl
  resources := rfl

theorem StemsFrom.revise (stems : service.StemsFrom premises record subdomain kind) (body : Body)
    (origin : Text) : (service.revise body origin).StemsFrom premises record subdomain kind :=
  ⟨stems.id, stems.subdomain, stems.kind, stems.ttl⟩

end Service

/-- Whether services by subdomain are those that some claims have made. -/
structure AreFiled (premises : Premises) (records : List Record) (claims : List Claim)
    (services : Directory (List (Service Body))) : Prop where
  nonempty : ∀ {key : Text} {listed : List (Service Body)},
    services.get? key = some listed → listed ≠ []
  /-- Every service belongs to its subdomain and is summed up. -/
  summedUp : ∀ {slot : Slot} {service : Service Body}, slot.find? services = some service →
    service.header.subdomain = slot.subdomain ∧ service.IsSummedUp premises.origin
  count : (inOrder services).length = claims.countP Claim.isService
  /-- Each service is still at the place where it was filed. -/
  kept : ∀ {id : Nat} {slot : Slot} {kind : Text}, .service id slot kind ∈ claims →
    ∃ record service, records[id]? = some record ∧ slot.find? services = some service
      ∧ service.StemsFrom premises record slot.subdomain kind
  /-- Each service was made by a claim. -/
  made : ∀ {slot : Slot} {service : Service Body}, slot.find? services = some service →
    ∃ id kind, .service id slot kind ∈ claims
  apart : (claims.filterMap Claim.place?).Nodup

namespace AreFiled

variable {premises : Premises} {records : List Record} {claims : List Claim}
  {analyzer : Analyzer Body} {id : Nat} {record : Record} {slot : Slot}

theorem nothing (premises : Premises) (records : List Record) :
    AreFiled premises records [] (∅ : Directory (List (Service Body))) where
  nonempty listed := by cases listed
  summedUp found := by cases found
  count := rfl
  kept member := by cases member
  made found := by cases found
  apart := List.nodup_nil

/-- A claim that makes no service leaves the services where they are. -/
theorem other {services : Directory (List (Service Body))}
    (filed : AreFiled premises records claims services) {claim : Claim}
    (none : claim.place? = none) : AreFiled premises records (claims ++ [claim]) services where
  nonempty := filed.nonempty
  summedUp := filed.summedUp
  count := by
    rw [filed.count, List.countP_append, List.countP_singleton, Claim.isService, none]
    rfl
  kept := by
    intro id slot kind member
    rcases List.mem_append.mp member with earlier | last
    · exact filed.kept earlier
    · rw [← List.mem_singleton.mp last] at none
      cases none
  made := by
    intro slot service found
    rcases filed.made found with ⟨id, kind, member⟩
    exact ⟨id, kind, List.mem_append_left _ member⟩
  apart := by
    rw [List.filterMap_append, List.filterMap_cons, none, List.filterMap_nil, List.append_nil]
    exact filed.apart

/-- A record becomes a service at a place where there was none. -/
theorem service (filed : AreFiled premises records claims analyzer.services)
    (known : records[id]? = some record) (name : Text) (body : Body) :
    AreFiled premises records
      (claims ++
        [.service id
          ⟨Owner.relativeTo name premises.origin,
            (analyzer.servicesOn (Owner.relativeTo name premises.origin)).length⟩
          (ServiceBody.kindKey body)])
      (analyzer.file (premises.service record name body)).services where
  nonempty := by
    intro key listed found
    rw [Analyzer.file, get?_alter] at found
    split at found
    · cases found
      exact List.append_ne_nil_of_right_ne_nil _ (List.cons_ne_nil _ _)
    · exact filed.nonempty found
  summedUp := by
    intro slot service found
    rw [Analyzer.find?_file] at found
    split at found
    · rename_i here
      cases found
      rw [here]
      exact ⟨rfl, rfl, rfl, rfl⟩
    · exact filed.summedUp found
  count := by
    have counted := length_inOrder_alter analyzer.services
      (premises.service record name body).header.subdomain
      fun listed => listed.getD [] ++ [premises.service record name body]
    rw [List.length_append, ← Nat.add_assoc, Nat.add_right_comm] at counted
    rw [Analyzer.file, Nat.add_right_cancel counted, filed.count, List.countP_append]
    rfl
  -- A service that is filed already cannot be at the new place, where nothing was found.
  kept := by
    intro other slot kind member
    rw [Analyzer.find?_file]
    rcases List.mem_append.mp member with earlier | last
    · rcases filed.kept earlier with ⟨founder, service, foundersPlace, found, stems⟩
      rw [if_neg, found]
      · exact ⟨founder, service, foundersPlace, rfl, stems⟩
      · rintro rfl
        cases found.symm.trans (Slot.find?_next _ _)
    · cases List.mem_singleton.mp last
      exact ⟨record, premises.service record name body, known, if_pos rfl, rfl, rfl, rfl, rfl⟩
  made := by
    intro slot service found
    rw [Analyzer.find?_file] at found
    split at found
    · rename_i here
      rw [here]
      exact ⟨id, _, List.mem_append_right _ (List.mem_singleton.mpr rfl)⟩
    · rcases filed.made found with ⟨other, kind, member⟩
      exact ⟨other, kind, List.mem_append_left _ member⟩
  apart := by
    rw [List.filterMap_append]
    refine List.nodup_append.mpr ⟨filed.apart, List.pairwise_singleton _ _, ?_⟩
    intro slot earlier last new
    rw [List.mem_singleton.mp new]
    rintro rfl
    rcases List.mem_filterMap.mp earlier with ⟨claim, member, place⟩
    cases claim with
    | service other slot kind =>
        cases place
        rcases filed.kept member with ⟨_, service, _, found, _⟩
        cases found.symm.trans (Slot.find?_next _ _)
    | drop other => cases place
    | extension other slot => cases place

/-- A service that gets another body of its kind is the same service. -/
theorem reviseAt (filed : AreFiled premises records claims analyzer.services)
    (origin : analyzer.origin = premises.origin) {service : Service Body}
    (placed : slot.find? analyzer.services = some service) {body : Body}
    (same : ServiceBody.kindKey body = ServiceBody.kindKey service.body) :
    AreFiled premises records claims (analyzer.reviseAt slot body).services where
  nonempty := by
    intro key listed found
    rw [Analyzer.reviseAt, get?_alter] at found
    split at found
    · cases found
      intro none
      rw [List.modify_eq_nil_iff] at none
      rw [Slot.find?, none] at placed
      cases placed
    · exact filed.nonempty found
  summedUp := by
    intro other changed found
    rw [Analyzer.find?_reviseAt] at found
    split at found
    · rename_i here
      rw [placed] at found
      cases found
      rcases filed.summedUp placed with ⟨subdomain, summedUp⟩
      rw [here, origin]
      exact ⟨subdomain, summedUp.revise same⟩
    · exact filed.summedUp found
  count := by
    have counted := length_inOrder_alter analyzer.services slot.subdomain fun listed =>
      (listed.getD []).modify slot.index fun service => service.revise body analyzer.origin
    rw [List.length_modify] at counted
    rw [Analyzer.reviseAt, Nat.add_right_cancel counted, filed.count]
  kept := by
    intro id other kind member
    rcases filed.kept member with ⟨record, founded, known, found, stems⟩
    rw [Analyzer.find?_reviseAt]
    split
    · rename_i here
      rw [← here, found]
      exact ⟨record, _, known, rfl, stems.revise _ _⟩
    · exact ⟨record, founded, known, found, stems⟩
  made := by
    intro other changed found
    rw [Analyzer.find?_reviseAt] at found
    split at found
    · rename_i here
      rw [here]
      exact filed.made placed
    · exact filed.made found
  apart := filed.apart

end AreFiled

/-! ## Analyses and their claims -/

/-- Whether an analysis of some records is what the claims that went through have made of it. -/
structure Accords (premises : Premises) (records : List Record) (claims : List Claim)
    (analyzer : Analyzer Body) : Prop where
  under : analyzer.premises = premises
  marked : AreMarked records (claims.map Claim.id) analyzer.cells
  dropped : analyzer.dropped = claims.countP Claim.isDrop
  filed : AreFiled premises records claims analyzer.services

namespace Accords

variable {premises : Premises} {records : List Record} {claims : List Claim}
  {analyzer next : Analyzer Body}

theorem start (origin : Text) (records : List Record) (emptyTtl : UInt32) :
    Accords (.ofZone origin records emptyTtl) records []
      (Analyzer.start origin records emptyTtl : Analyzer Body) where
  under := rfl
  marked := .start records
  dropped := rfl
  filed := .nothing _ records

/-- One more claim marks one more record. -/
theorem marked_claim (accords : Accords premises records claims analyzer) {record : Record}
    (claim : Claim) (free : analyzer.cells[claim.id]? = some ⟨record, false⟩) :
    AreMarked records ((claims ++ [claim]).map Claim.id)
      (analyzer.cells.set claim.id ⟨record, true⟩) := by
  rw [List.map_append]
  exact accords.marked.claim free

/-- An analysis that accords with its claims does so after one more of them. -/
theorem effect (accords : Accords premises records claims analyzer) {claim? : Option Claim}
    (effect : analyzer.Effect claim? next) :
    Accords premises records (claims ++ claim?.toList) next := by
  obtain rfl := accords.under
  cases effect with
  | nothing =>
      rw [Option.toList_none, List.append_nil]
      exact accords
  | @service id record free name body =>
      exact
        { under := rfl
          marked := accords.marked_claim (.service id _ _) free
          dropped := by
            rw [Option.toList_some, List.countP_append]
            exact accords.dropped
          filed := accords.filed.service (accords.marked.record_eq free) name body }
  | @drop id record free =>
      exact
        { under := rfl
          marked := accords.marked_claim (.drop id) free
          dropped := by
            rw [Option.toList_some, List.countP_append, ← accords.dropped]
            rfl
          filed := accords.filed.other rfl }
  | @extension id record free slot service found body same =>
      exact
        { under := rfl
          marked := accords.marked_claim (.extension id slot) free
          dropped := by
            rw [Option.toList_some, List.countP_append]
            exact accords.dropped
          filed := (accords.filed.other rfl).reviseAt rfl found same }

end Accords

end ZoneServices
