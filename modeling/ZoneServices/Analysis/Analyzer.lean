import ZoneServices.Analysis.Error
import ZoneServices.Record.Filter
import ZoneServices.Service.Basic

/-!
# The state of an analysis

During an analysis every record of the zone is either free or claimed.  Claiming a record makes
a service of it, adds it to a service that was made before, or drops it.  A claim on a record
that is unknown or claimed already is refused, and so is adding a record to a service of another
kind; a refused claim changes nothing, because it yields no new state.
-/

namespace ZoneServices

/-- A record of the zone under analysis. -/
structure Cell where
  record : Record
  claimed : Bool
deriving DecidableEq, Repr

/-- The place of a service among those of an analysis. -/
structure Slot where
  subdomain : Text
  /-- Number of services before it on the subdomain. -/
  index : Nat
deriving DecidableEq, Repr

/-- How a record is added to a service of a kind. -/
structure Extension (Body : Type) [ServiceBody Body] where
  kind : Text
  /-- What a record makes of a body, if the body is of the kind. -/
  revise? : Body → Option (Record → Body)
  kindKey_revise : ∀ {body revise} record, revise? body = some revise →
    ServiceBody.kindKey (revise record) = ServiceBody.kindKey body

/-- Adds a record to the bodies of a kind in the way of an update; the other bodies are refused. -/
def Extension.ofUpdate {Body : Type} [ServiceBody Body] (Kind : Type) [ServiceKind Kind]
    [Hosts Body Kind] (update : Kind → Record → Kind) : Extension Body where
  kind := ServiceKind.key Kind
  revise? body :=
    (Hosts.project? body).map fun kind record => Hosts.inject (update kind record)
  kindKey_revise {body revise} record found := by
    obtain ⟨kind, projected, rfl⟩ := Option.map_eq_some_iff.mp found
    rw [← Hosts.inject_of_project? projected, Hosts.kindKey_inject, Hosts.kindKey_inject]

/-- The state of an analysis. -/
structure Analyzer (Body : Type) where
  origin : Text
  /-- The records of the zone; a record is known by its place here. -/
  cells : List Cell
  services : Directory (List (Service Body))
  defaultTtl : UInt32
  dropped : Nat
  /-- Key of the kind whose recognizer runs, empty if none does. -/
  running : Text

/-- Number of times that a time to live occurs. -/
def countTtl (ttls : List UInt32) (ttl : UInt32) : Nat :=
  ttls.count ttl

/-- The more frequent of two times to live, the lower one if they are equally frequent. -/
def preferredTtl (ttls : List UInt32) (left right : UInt32) : UInt32 :=
  if countTtl ttls left < countTtl ttls right
      ∨ (countTtl ttls left = countTtl ttls right ∧ right < left) then
    right
  else
    left

/--
The most frequent time to live of some records, the lowest of those that are equally frequent.
-/
def mostUsedTtl (records : List Record) : Option UInt32 :=
  match records.map (·.ttl) with
  | [] => none
  | first :: rest => some (rest.foldl (preferredTtl (first :: rest)) first)

namespace Analyzer

variable {Body : Type}

/-- An analysis with all records free and without services, at the most frequent time to live. -/
def start (origin : Text) (records : List Record) (emptyTtl : UInt32) : Analyzer Body :=
  { origin := Owner.qualified origin
    cells := records.map fun record => ⟨record, false⟩
    services := ∅
    defaultTtl := (mostUsedTtl records).getD emptyTtl
    dropped := 0
    running := [] }

/-- The free records that match one of some filters, with their places. -/
def search (analyzer : Analyzer Body) (filters : List RecordFilter) : List (Nat × Record) :=
  analyzer.cells.zipIdx.filterMap fun (cell, id) =>
    if !cell.claimed && filters.any (·.accepts cell.record) then some (id, cell.record) else none

/-- The record at a place, free or claimed. -/
def record? (analyzer : Analyzer Body) (id : Nat) : Option Record :=
  (analyzer.cells[id]?).map (·.record)

/-- A refused claim, put down to the kind whose recognizer runs. -/
def refusal (analyzer : Analyzer Body) (fault : ClaimFault) : AnalysisError :=
  .claimInconsistency analyzer.running fault

/-- The free record at a place, and the state in which it is claimed. -/
def claim (analyzer : Analyzer Body) (id : Nat) : Except AnalysisError (Record × Analyzer Body) :=
  match analyzer.cells[id]? with
  | none => .error (analyzer.refusal (.unknown id))
  | some cell =>
    if cell.claimed then
      .error (analyzer.refusal (.taken id))
    else
      .ok (cell.record,
        { analyzer with cells := analyzer.cells.set id { cell with claimed := true } })

/-- The time to live that a service keeps for its first record: zero for that of the zone. -/
def storedTtl (analyzer : Analyzer Body) (record : Record) : UInt32 :=
  if record.ttl = analyzer.defaultTtl then 0 else record.ttl

/-- Claims a record for no service, and counts it as dropped. -/
def drop (analyzer : Analyzer Body) (id : Nat) : Except AnalysisError (Analyzer Body) := do
  let (_, analyzer) ← analyzer.claim id
  return { analyzer with dropped := analyzer.dropped + 1 }

variable [ServiceBody Body]

/-- The services on a subdomain, in the order in which they were made. -/
def servicesOn (analyzer : Analyzer Body) (subdomain : Text) : List (Service Body) :=
  (analyzer.services.get? subdomain).getD []

/-- Another service, behind those on its subdomain. -/
def file (analyzer : Analyzer Body) (service : Service Body) : Analyzer Body :=
  { analyzer with
    services := analyzer.services.alter service.header.subdomain fun listed =>
      listed.getD [] ++ [service] }

/--
The service that a record makes with a body: it takes its identifier from the record, and its
subdomain from a name.
-/
def serviceOf (analyzer : Analyzer Body) (record : Record) (name : Text) (body : Body) :
    Service Body :=
  .ofBody body (.ofRecord record) (Owner.relativeTo name analyzer.origin)
    (analyzer.storedTtl record) analyzer.origin

/-- Claims a record and makes a service of it; yields where the service is filed. -/
def use (analyzer : Analyzer Body) (id : Nat) (name : Text) (body : Body) :
    Except AnalysisError (Slot × Analyzer Body) := do
  let (record, analyzer) ← analyzer.claim id
  let service := analyzer.serviceOf record name body
  let subdomain := service.header.subdomain
  return (⟨subdomain, (analyzer.servicesOn subdomain).length⟩, analyzer.file service)

/-- The service at a place, if there is one. -/
def serviceAt? (analyzer : Analyzer Body) (slot : Slot) : Option (Service Body) :=
  (analyzer.servicesOn slot.subdomain)[slot.index]?

/-- Another body for the service at a place, which is summed up anew. -/
def reviseAt (analyzer : Analyzer Body) (slot : Slot) (body : Body) : Analyzer Body :=
  { analyzer with
    services := analyzer.services.alter slot.subdomain fun listed =>
      (listed.getD []).modify slot.index fun service => service.revise body analyzer.origin }

/--
Claims a record and adds it to the service at a place; a service of another kind is refused before
the record is looked at.
-/
def extend (analyzer : Analyzer Body) (id : Nat) (slot : Slot) (extension : Extension Body) :
    Except AnalysisError (Analyzer Body) :=
  match (analyzer.serviceAt? slot).bind fun service => extension.revise? service.body with
  | none => .error (analyzer.refusal (.otherKind extension.kind slot.index slot.subdomain))
  | some revise => do
    let (record, analyzer) ← analyzer.claim id
    return analyzer.reviseAt slot (revise record)

end Analyzer

end ZoneServices
