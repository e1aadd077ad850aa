import ZoneServices.Analysis.Recognition
import ZoneServices.Proofs.Filing

/-!
# How an analysis stands

What an analysis makes of a single record depends on two things alone, its premises: the origin
of the zone and its default time to live.  Where an analysis stands is then told by its cells and
by the services in the order in which they were filed.  Questions and claims are described here
as steps from one standing to the next; a claim on a free cell always goes through.
-/

namespace ZoneServices

open Directory

/-- What services depend on beside their records. -/
structure Premises where
  /-- Origin of the zone, with a dot at its end. -/
  origin : Text
  /-- Time to live that the zone has by default. -/
  zoneTtl : UInt32
deriving DecidableEq, Repr

namespace Premises

/-- The premises of an analysis of some records. -/
def ofZone (origin : Text) (records : List Record) (emptyTtl : UInt32) : Premises where
  origin := Owner.qualified origin
  zoneTtl := (mostUsedTtl records).getD emptyTtl

/-- The time to live that a service keeps for its first record. -/
def storedTtl (premises : Premises) (record : Record) : UInt32 :=
  if record.ttl = premises.zoneTtl then 0 else record.ttl

variable {Body : Type}

/-- The subdomain of a service. -/
abbrev subdomain (service : Service Body) : Text :=
  service.header.subdomain

/-- An analysis with some cells that has filed some services. -/
def standing (premises : Premises) (cells : List Cell) (filed : List (Service Body))
    (running : Text) : Analyzer Body where
  origin := premises.origin
  cells := cells
  services := collect subdomain filed
  defaultTtl := premises.zoneTtl
  dropped := 0
  running := running

/-- Every analysis starts with free cells and without services. -/
theorem start_eq_standing (origin : Text) (records : List Record) (emptyTtl : UInt32) :
    (Analyzer.start origin records emptyTtl : Analyzer Body) =
      (ofZone origin records emptyTtl).standing (records.map fun record => ⟨record, false⟩) [] [] :=
  rfl

variable (premises : Premises) (finished rest : List Cell) (cell : Cell)
  (filed : List (Service Body)) (running : Text)

/-! ## Claims -/

theorem claim_standing (free : cell.claimed = false) :
    (premises.standing (finished ++ cell :: rest) filed running).claim finished.length =
      .ok (cell.record,
        premises.standing (finished ++ ⟨cell.record, true⟩ :: rest) filed running) := by
  have found : (finished ++ cell :: rest)[finished.length]? = some cell := by simp
  have marked : (finished ++ cell :: rest).set finished.length ⟨cell.record, true⟩ =
      finished ++ ⟨cell.record, true⟩ :: rest := by simp
  unfold Analyzer.claim
  simp only [standing, found, free, Bool.false_eq_true, if_false, marked]

theorem servicesOn_standing (cells : List Cell) (key : Text) :
    (premises.standing cells filed running).servicesOn key = under subdomain key filed :=
  getD_get?_collect filed key

theorem file_standing (cells : List Cell) (service : Service Body) :
    (premises.standing cells filed running).file service =
      premises.standing cells (filed ++ [service]) running := by
  unfold standing
  rw [collect_append_singleton]
  rfl

variable [ServiceBody Body]

/-- The service that a record starts on the subdomain of a name. -/
def service (premises : Premises) (record : Record) (name : Text) (body : Body) : Service Body :=
  .ofBody body (.ofRecord record) (Owner.relativeTo name premises.origin)
    (premises.storedTtl record) premises.origin

/-- A free record becomes a service behind all others. -/
theorem use_standing (free : cell.claimed = false) (name : Text) (body : Body) :
    (premises.standing (finished ++ cell :: rest) filed running).use finished.length name body =
      .ok (⟨Owner.relativeTo name premises.origin,
          (under subdomain (Owner.relativeTo name premises.origin) filed).length⟩,
        premises.standing (finished ++ ⟨cell.record, true⟩ :: rest)
          (filed ++ [premises.service cell.record name body]) running) := by
  unfold Analyzer.use
  rw [claim_standing premises finished rest cell filed running free]
  change Except.ok (_, _) = _
  rw [file_standing, servicesOn_standing]
  rfl

variable {Kind : Type} [ServiceKind Kind] [Hosts Body Kind]

/-- A service that gets another body of its kind is the service of that body. -/
theorem revise_service (record : Record) (name : Text) (kind other : Kind) :
    (premises.service record name (Hosts.inject kind : Body)).revise (Hosts.inject other)
        premises.origin =
      premises.service record name (Hosts.inject other) := by
  unfold service Service.revise Service.refresh Service.ofBody
  rw [Hosts.kindKey_inject, Hosts.kindKey_inject]

theorem reviseAt_standing (cells : List Cell) (before after : List (Service Body))
    (service : Service Body) (body : Body) :
    (premises.standing cells (before ++ service :: after) running).reviseAt
        ⟨subdomain service, (under subdomain (subdomain service) before).length⟩ body =
      premises.standing cells (before ++ service.revise body premises.origin :: after) running := by
  have keeps : subdomain (service.revise body premises.origin) = subdomain service := rfl
  have altered := @alter_collect _ subdomain before after service
    (fun service => service.revise body premises.origin) keeps
  unfold standing Analyzer.reviseAt
  rw [← altered]

/-- A free record is added to a service that is found behind those filed before it. -/
theorem extend_standing (free : cell.claimed = false) (before after : List (Service Body))
    (leader : Record) (name : Text) (kind : Kind) (update : Kind → Record → Kind) :
    (premises.standing (finished ++ cell :: rest)
          (before ++ premises.service leader name (Hosts.inject kind) :: after) running).extend
        finished.length
        ⟨Owner.relativeTo name premises.origin,
          (under subdomain (Owner.relativeTo name premises.origin) before).length⟩
        (.ofUpdate Kind update) =
      .ok (premises.standing (finished ++ ⟨cell.record, true⟩ :: rest)
        (before ++ premises.service leader name (Hosts.inject (update kind cell.record)) :: after)
        running) := by
  have place : subdomain (premises.service leader name (Hosts.inject kind : Body)) =
      Owner.relativeTo name premises.origin := rfl
  have found : (premises.standing (finished ++ cell :: rest)
        (before ++ premises.service leader name (Hosts.inject kind) :: after) running).serviceAt?
      ⟨Owner.relativeTo name premises.origin,
        (under subdomain (Owner.relativeTo name premises.origin) before).length⟩ =
      some (premises.service leader name (Hosts.inject kind : Body)) := by
    rw [Analyzer.serviceAt?, servicesOn_standing, under_append, under_cons_of_eq place]
    simp
  have revised : (Extension.ofUpdate Kind update).revise?
      (premises.service leader name (Hosts.inject kind : Body)).body =
      some fun record => (Hosts.inject (update kind record) : Body) := by
    change (Hosts.project? (Hosts.inject kind : Body)).map _ = _
    rw [Hosts.project?_inject]
    rfl
  unfold Analyzer.extend
  rw [found, Option.bind_some, revised]
  dsimp only
  rw [claim_standing premises finished rest cell _ running free]
  rw [← place]
  change Except.ok (Analyzer.reviseAt _ _ _) = _
  rw [reviseAt_standing, revise_service]

end Premises

end ZoneServices
