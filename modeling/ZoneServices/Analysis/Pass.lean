import ZoneServices.Counters
import ZoneServices.Kind.Orphan
import ZoneServices.Settings

/-!
# Analysis of a zone

The records of a zone are turned into services.  The recognizers of a registry run in their
order and claim what they recognize.  Then every record that is still free becomes an orphan,
except those that the signing of the zone made and the text record that the signing keeps its
books in: these are dropped.

If a recognizer fails, so does the analysis, and there are no services at all.

Counters go through the analysis.  It ends in one of three ways, and each of them is counted where
the analysis ends.
-/

namespace ZoneServices

/-- The outcome of an analysis. -/
structure Analysis (Body : Type) where
  /-- Services by subdomain; owners outside the zone stay absolute. -/
  services : Directory (List (Service Body))
  defaultTtl : UInt32
  dropped : Nat
  orphans : Nat

namespace Analysis

variable {Body : Type}

/-- The services of all subdomains, in the order of the subdomains. -/
def allServices (analysis : Analysis Body) : List (Service Body) :=
  analysis.services.values.flatten

/-- Number of services, orphans included. -/
def serviceCount (analysis : Analysis Body) : Nat :=
  analysis.allServices.length

/-- Number of records that the services stand for, as they were summed up. -/
def resourceCount (analysis : Analysis Body) : Nat :=
  analysis.allServices.foldr (fun service total => service.header.resources + total) 0

/-- The kinds of the services that recognizers have made; orphans are left out. -/
def recognizedKinds (analysis : Analysis Body) : List Text :=
  (analysis.allServices.map fun service => service.header.kind).filter
    (· != ServiceKind.key Orphan)

end Analysis

/-- The label of the text record in which the signing of a zone keeps its books. -/
def bookkeepingLabel : Text := "__dnssec".toList

namespace Analyzer

variable {Body : Type}

/-- Whether a record is the one in which the signing of the zone keeps its books. -/
def isBookkeeping (analyzer : Analyzer Body) (record : Record) : Bool :=
  record.type == .txt
    && Text.sameFolded record.owner (bookkeepingLabel ++ '.' :: analyzer.origin)

/-- Whether a record that nobody has claimed is left out of the services. -/
def isDropped (analyzer : Analyzer Body) (record : Record) : Bool :=
  record.type.isSigning || analyzer.isBookkeeping record

variable [ServiceBody Body] [Hosts Body Orphan]

/-- The service that keeps a free record as it is. -/
def orphanOf (analyzer : Analyzer Body) (record : Record) : Service Body :=
  analyzer.serviceOf record record.owner (Hosts.inject (Orphan.ofRecord record))

/-- Drops a free record or makes an orphan of it; counts the orphans. -/
def sweepCell (state : Analyzer Body × Nat) (cell : Cell) : Analyzer Body × Nat :=
  let (analyzer, orphans) := state
  if cell.claimed then
    state
  else if analyzer.isDropped cell.record then
    ({ analyzer with dropped := analyzer.dropped + 1 }, orphans)
  else
    (analyzer.file (analyzer.orphanOf cell.record), orphans + 1)

/-- Drops the free records or makes orphans of them, one after the other, and ends the analysis. -/
def sweep (analyzer : Analyzer Body) : Analysis Body :=
  let (swept, orphans) := analyzer.cells.foldl sweepCell (analyzer, 0)
  { services := swept.services
    defaultTtl := swept.defaultTtl
    dropped := swept.dropped
    orphans := orphans }

end Analyzer

namespace Registry

variable {Memory Body : Type} [ServiceBody Body]

/-- Runs the recognizers of some entries in their order, up to the first that fails. -/
def runRecognizers (scene : Scene Memory Body) :
    List (RegistryEntry Memory Body) → Except AnalysisError Unit × Scene Memory Body
  | [] => (.ok (), scene)
  | entry :: rest =>
    match entry.recognizer with
    | none => runRecognizers scene rest
    | some recognizer =>
      -- Claims are refused in the name of the kind whose recognizer runs.
      let ready := { scene with analyzer := { scene.analyzer with running := entry.kind } }
      match recognizer.run ready with
      | (.ok (), scene) => runRecognizers scene rest
      | (.error failure, scene) => (.error (failure.toError entry.kind), scene)

variable [Hosts Body Orphan]

/--
Analyses the records of a zone with a memory for the recognizers, which is given back, and counts
the way in which the analysis ends.
-/
def analyzeCounted (registry : Registry Memory Body) (settings : Settings) (counters : Counters)
    (memory : Memory) (origin : Text) (records : List Record) :
    (Except AnalysisError (Analysis Body) × Memory) × Counters :=
  if settings.maxRecords < records.length then
    ((.error (.tooManyRecords origin records.length settings.maxRecords), memory),
      counters.countFailure)
  else
    let scene : Scene Memory Body :=
      { analyzer := .start origin records settings.emptyTtl, memory := memory }
    match runRecognizers scene registry.entries with
    | (.error error, scene) => ((.error error, scene.memory), counters.countFailure)
    | (.ok (), scene) =>
      let analysis := scene.analyzer.sweep
      let recognized := analysis.recognizedKinds.foldl Counters.countRecognized counters
      let leftOver := recognized.countLeftovers analysis.orphans analysis.dropped
      ((.ok analysis, scene.memory), leftOver.countSuccess)

/-- An analysis whose counters nobody asks for. -/
def analyzeIn (registry : Registry Memory Body) (settings : Settings) (memory : Memory)
    (origin : Text) (records : List Record) :
    Except AnalysisError (Analysis Body) × Memory :=
  (registry.analyzeCounted settings {} memory origin records).1

theorem analyzeIn_of_exceeds (registry : Registry Memory Body) {settings : Settings}
    {records : List Record} (exceeds : settings.maxRecords < records.length) (memory : Memory)
    (origin : Text) :
    registry.analyzeIn settings memory origin records =
      (.error (.tooManyRecords origin records.length settings.maxRecords), memory) := by
  rw [analyzeIn, analyzeCounted, if_pos exceeds]

/-- Within the limit an analysis is the sweep of what the recognizers have left, if none failed. -/
theorem analyzeIn_of_fits (registry : Registry Memory Body) {settings : Settings}
    {records : List Record} (fits : records.length ≤ settings.maxRecords) (memory : Memory)
    (origin : Text) :
    registry.analyzeIn settings memory origin records =
      let ran := runRecognizers ⟨.start origin records settings.emptyTtl, memory⟩ registry.entries
      (ran.1.map fun _ => ran.2.analyzer.sweep, ran.2.memory) := by
  rw [analyzeIn, analyzeCounted, if_neg (Nat.not_lt_of_le fits)]
  dsimp only
  rcases runRecognizers (⟨.start origin records settings.emptyTtl, memory⟩ : Scene Memory Body)
    registry.entries with ⟨outcome, after⟩
  cases outcome <;> rfl

/-- An analysis with recognizers that need no memory. -/
def analyze (registry : Registry Unit Body) (settings : Settings) (origin : Text)
    (records : List Record) : Except AnalysisError (Analysis Body) :=
  (registry.analyzeIn settings () origin records).1

end Registry

/-- Counts an analysis by what it has ended in. -/
def Counters.afterAnalysis {Body : Type} (counters : Counters) :
    Except AnalysisError (Analysis Body) → Counters
  | .error _ => counters.countFailure
  | .ok analysis =>
    ((analysis.recognizedKinds.foldl countRecognized counters).countLeftovers analysis.orphans
      analysis.dropped).countSuccess

/-- At each of its ends a pass counts just what it has ended in. -/
theorem Registry.analyzeCounted_eq {Memory Body : Type} [ServiceBody Body] [Hosts Body Orphan]
    (registry : Registry Memory Body) (settings : Settings) (counters : Counters)
    (memory : Memory) (origin : Text) (records : List Record) :
    registry.analyzeCounted settings counters memory origin records =
      (registry.analyzeIn settings memory origin records,
        counters.afterAnalysis (registry.analyzeIn settings memory origin records).1) := by
  rw [analyzeIn, analyzeCounted, analyzeCounted]
  split
  · rfl
  · dsimp only
    rcases runRecognizers
      (⟨.start origin records settings.emptyTtl, memory⟩ : Scene Memory Body)
      registry.entries with ⟨outcome, ended⟩
    cases outcome <;> rfl

end ZoneServices
