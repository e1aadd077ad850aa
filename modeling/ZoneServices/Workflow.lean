import ZoneServices.Domain
import ZoneServices.Zone.Synthesis

/-!
# Import and publication

The records of a domain live at a provider and its zones in a store.  An import takes the
records from the provider, analyses them, stores the zone and notes it in the history of the
domain.  A publication writes the records of a zone and hands them to the provider, also when
some services could not write theirs.

Provider and store are given as actions of any monad, so that what is done to them can be
watched as well as done.
-/

namespace ZoneServices

/--
What a provider or a store says went wrong: messages, each of which the next one is the cause
of.
-/
structure Complaint where
  messages : List Text
deriving DecidableEq, Repr

/-- The messages of a complaint in one line, each before its cause. -/
def Complaint.text (complaint : Complaint) : Text :=
  Text.joined [':', ' '] complaint.messages

/-- The provider that serves the records of domains. -/
structure RecordSource (m : Type → Type) where
  checkDomain : (name : Text) → m (Except Complaint Unit)
  listRecords : (name : Text) → m (Except Complaint (List Record))
  pushRecords : (name : Text) → List Record → m (Except Complaint Unit)

/-- The store of zones and domains. -/
structure ZoneStore (m : Type → Type) (Body : Type) where
  createZone : Zone Body → m (Except Complaint ZoneId)
  updateDomain : Domain → m (Except Complaint Unit)

/-- Why an import fails. -/
inductive ImportError where
  | source (domain : Text) (complaint : Complaint)
  | analysis (error : AnalysisError)
  | storage (domain : Text) (complaint : Complaint)
deriving DecidableEq, Repr

/-- What is said of a failed import. -/
def ImportError.message : ImportError → String
  | .source domain complaint =>
    let domain := Text.quoted domain
    let reason := String.ofList complaint.text
    s!"Unable to retrieve records of {domain}: {reason}"
  | .analysis error => error.message
  | .storage domain complaint =>
    let domain := Text.quoted domain
    let reason := String.ofList complaint.text
    s!"Unable to store zone of {domain}: {reason}"

/-- What an import comes to. -/
structure ImportReport (Memory Body : Type) where
  /-- The identifier of the new zone, or why there is none. -/
  result : Except ImportError ZoneId
  domain : Domain
  analysis : Option (Except AnalysisError (Analysis Body))
  memory : Memory

section Import

variable {m : Type → Type} [Monad m] {Memory Body : Type} [ServiceBody Body] [Hosts Body Orphan]

/--
Imports the records of a domain; the first step that fails ends the import, and the history keeps a
zone that was stored even if the domain itself is not saved.
-/
def importZone (registry : Registry Memory Body) (settings : Settings) (source : RecordSource m)
    (store : ZoneStore m Body) (now : Timestamp) (author : UserId) (memory : Memory)
    (domain : Domain) : m (ImportReport Memory Body) := do
  match ← source.checkDomain domain.name with
  | .error complaint =>
    return { result := .error (.source domain.name complaint), domain, analysis := none, memory }
  | .ok () =>
  match ← source.listRecords domain.name with
  | .error complaint =>
    return { result := .error (.source domain.name complaint), domain, analysis := none, memory }
  | .ok records =>
  let (analysed, memory) := registry.analyzeIn settings memory domain.name records
  match analysed with
  | .error error =>
    return { result := .error (.analysis error), domain, analysis := some (.error error), memory }
  | .ok analysis =>
  let zone := Zone.ofAnalysis analysis now
  let zone := { zone with header := { zone.header with author := author } }
  match ← store.createZone zone with
  | .error complaint =>
    return {
      result := .error (.storage domain.name complaint)
      domain, analysis := some (.ok analysis), memory }
  | .ok id =>
  -- From here on the domain has the zone, and it keeps it when it cannot be saved.
  let domain := domain.push id
  match ← store.updateDomain domain with
  | .error complaint =>
    return {
      result := .error (.storage domain.name complaint)
      domain, analysis := some (.ok analysis), memory }
  | .ok () =>
  return { result := .ok id, domain, analysis := some (.ok analysis), memory }

end Import

/-- A publication that the provider refused. -/
structure PublishError where
  zone : ZoneId
  domain : Text
  complaint : Complaint
deriving DecidableEq, Repr

/-- What is said of a failed publication. -/
def PublishError.message (error : PublishError) : String :=
  let zone := error.zone.value.toInt
  let domain := String.ofList error.domain
  let reason := String.ofList error.complaint.text
  s!"Failed to publish zone {zone} of {domain}: {reason}"

/-- What a publication comes to. -/
structure Publication where
  /-- The records that were handed to the provider, and the services that could not write theirs. -/
  synthesis : Synthesis
  result : Except PublishError Unit

/--
Hands all records of a zone to the provider at once, whether or not each service could write its
own.
-/
def publishZone {m : Type → Type} [Monad m] {Body : Type} [ServiceBody Body]
    (source : RecordSource m) (domain : Domain) (zone : Zone Body) : m Publication := do
  let synthesis := zone.generate domain.name
  match ← source.pushRecords domain.name synthesis.records with
  | .error complaint =>
    return { synthesis, result := .error ⟨zone.header.id, domain.name, complaint⟩ }
  | .ok () => return { synthesis, result := .ok () }

end ZoneServices
