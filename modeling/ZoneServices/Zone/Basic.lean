import ZoneServices.Analysis.Pass
import ZoneServices.Timestamp

/-!
# Zones

A zone is a snapshot of the services of a domain, together with what is known about the
snapshot: who made it and when, what was said about it, and when it was published.
-/

namespace ZoneServices

/-- Identifies a stored zone. -/
structure ZoneId where
  value : Int64
deriving DecidableEq, Repr

/-- Identifies a user. -/
structure UserId where
  value : Int64
deriving DecidableEq, Repr

/-- What is known about a zone beside its services. -/
structure ZoneHeader where
  /-- Identifier, zero before the zone is stored. -/
  id : ZoneId
  author : UserId
  /-- Time to live of the services that keep zero. -/
  defaultTtl : UInt32
  lastModified : Timestamp
  commitMessage : Option Text
  commitDate : Option Timestamp
  published : Option Timestamp
deriving DecidableEq, Repr

/-- A snapshot of the services of a domain. -/
structure Zone (Body : Type) where
  header : ZoneHeader
  services : Directory (List (Service Body))

namespace Zone

variable {Body : Type}

/-- The zone of an analysis, which has neither been stored nor published yet. -/
def ofAnalysis (analysis : Analysis Body) (now : Timestamp) : Zone Body :=
  { header :=
      { id := ⟨0⟩
        author := ⟨0⟩
        defaultTtl := analysis.defaultTtl
        lastModified := now
        commitMessage := none
        commitDate := none
        published := none }
    services := analysis.services }

/-- The services of all subdomains, in the order of the subdomains. -/
def allServices (zone : Zone Body) : List (Service Body) :=
  zone.services.values.flatten

/-- Number of services of a zone. -/
def serviceCount (zone : Zone Body) : Nat :=
  zone.allServices.length

/-- The first service that has an identifier. -/
def find? (zone : Zone Body) (id : ServiceId) : Option (Service Body) :=
  zone.allServices.find? fun service => service.header.id == id

end Zone

end ZoneServices
