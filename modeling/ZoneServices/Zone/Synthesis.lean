import ZoneServices.Counters
import ZoneServices.Zone.Basic

/-!
# Synthesis of records

The records of a zone are those of its services, by subdomain and then in the order of the
services.  A service that cannot write its records is reported, counted and left out, and the
others are not affected.
-/

namespace ZoneServices

/-- A service that could not write its records. -/
structure SynthesisFailure where
  id : ServiceId
  kind : Text
  subdomain : Text
  error : SynthesisError
deriving DecidableEq, Repr

/-- The records of a zone and the services that could not write theirs. -/
structure Synthesis where
  records : List Record
  failures : List SynthesisFailure
deriving DecidableEq, Repr

namespace Synthesis

/-- Whether every service could write its records. -/
def isComplete (synthesis : Synthesis) : Bool :=
  synthesis.failures.isEmpty

/-- The synthesis of no services. -/
def empty : Synthesis := ⟨[], []⟩

/-- Two syntheses, one after the other. -/
def append (first second : Synthesis) : Synthesis :=
  ⟨first.records ++ second.records, first.failures ++ second.failures⟩

end Synthesis

namespace Service

variable {Body : Type} [ServiceBody Body]

/-- What a service adds to a synthesis; it is counted if it cannot write its records. -/
def synthesizeCounted (service : Service Body) (counters : Counters) (zoneTtl : UInt32)
    (origin : Text) : Synthesis × Counters :=
  match service.records zoneTtl origin with
  | .ok records => (⟨records, []⟩, counters)
  | .error error =>
    (⟨[], [⟨service.header.id, service.header.kind, service.header.subdomain, error⟩]⟩,
      counters.countUnwritten service.header.kind)

/-- What a service adds to a synthesis, apart from the counters. -/
def synthesize (service : Service Body) (zoneTtl : UInt32) (origin : Text) : Synthesis :=
  (service.synthesizeCounted {} zoneTtl origin).1

theorem synthesize_eq (service : Service Body) (zoneTtl : UInt32) (origin : Text) :
    service.synthesize zoneTtl origin =
      match service.records zoneTtl origin with
      | .ok records => ⟨records, []⟩
      | .error error =>
        ⟨[], [⟨service.header.id, service.header.kind, service.header.subdomain, error⟩]⟩ := by
  rw [synthesize, synthesizeCounted]
  cases service.records zoneTtl origin <;> rfl

end Service

/-- Counts the services that a synthesis has reported. -/
def Counters.afterSynthesis (counters : Counters) (synthesis : Synthesis) : Counters :=
  (synthesis.failures.map fun failure => failure.kind).foldl countUnwritten counters

/-- A service is counted exactly if it is reported. -/
theorem Service.synthesizeCounted_eq {Body : Type} [ServiceBody Body] (service : Service Body)
    (counters : Counters) (zoneTtl : UInt32) (origin : Text) :
    service.synthesizeCounted counters zoneTtl origin =
      (service.synthesize zoneTtl origin,
        counters.afterSynthesis (service.synthesize zoneTtl origin)) := by
  rw [synthesize_eq, synthesizeCounted]
  cases service.records zoneTtl origin <;> rfl

namespace Zone

variable {Body : Type} [ServiceBody Body]

/-- The records of some services in their order; counts the services that cannot write theirs. -/
def synthesizeAll (zoneTtl : UInt32) (origin : Text) :
    Counters → List (Service Body) → Synthesis × Counters
  | counters, [] => (.empty, counters)
  | counters, service :: rest =>
    let (made, counters) := service.synthesizeCounted counters zoneTtl origin
    let (others, counters) := synthesizeAll zoneTtl origin counters rest
    (made.append others, counters)

/-- The records of a zone; counts the services that cannot write theirs. -/
def generateCounted (zone : Zone Body) (counters : Counters) (origin : Text) :
    Synthesis × Counters :=
  synthesizeAll zone.header.defaultTtl (Owner.qualified origin) counters zone.allServices

/-- The records of a zone, apart from the counters. -/
def generate (zone : Zone Body) (origin : Text) : Synthesis :=
  (zone.generateCounted {} origin).1

/-- Services are put together piece by piece, and counted if they are reported. -/
theorem synthesizeAll_eq (zoneTtl : UInt32) (origin : Text) (counters : Counters)
    (services : List (Service Body)) :
    synthesizeAll zoneTtl origin counters services =
      let synthesis : Synthesis :=
        ⟨services.flatMap fun service => (service.synthesize zoneTtl origin).records,
          services.flatMap fun service => (service.synthesize zoneTtl origin).failures⟩
      (synthesis, counters.afterSynthesis synthesis) := by
  induction services generalizing counters with
  | nil => rfl
  | cons service rest step =>
      rw [synthesizeAll, service.synthesizeCounted_eq]
      dsimp only
      rw [step]
      simp only [Synthesis.append, Counters.afterSynthesis, List.flatMap_cons, List.map_append,
        List.foldl_append]

theorem generate_eq (zone : Zone Body) (origin : Text) :
    zone.generate origin =
      ⟨zone.allServices.flatMap fun service =>
          (service.synthesize zone.header.defaultTtl (Owner.qualified origin)).records,
        zone.allServices.flatMap fun service =>
          (service.synthesize zone.header.defaultTtl (Owner.qualified origin)).failures⟩ := by
  rw [generate, generateCounted, synthesizeAll_eq]

/-- A synthesis counts just the services that it reports. -/
theorem generateCounted_eq (zone : Zone Body) (counters : Counters) (origin : Text) :
    zone.generateCounted counters origin =
      (zone.generate origin, counters.afterSynthesis (zone.generate origin)) := by
  rw [generate_eq, generateCounted, synthesizeAll_eq]

end Zone

end ZoneServices
