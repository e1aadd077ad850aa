import ZoneServices.CommandLine.Arguments
import ZoneServices.Kind.Builtin
import ZoneServices.Record.Listing
import ZoneServices.Settings.Reader
import ZoneServices.Zone.Storage
import ZoneServices.Zone.Synthesis

/-!
# Commands

Each command reads what it works on, works, and yields lines of output or an error.  Files,
standard input and the time are given by a system of any monad; everything else is a function of
what is read.

Settings are read before the input, and an option takes precedence over the settings that are
read.
-/

namespace ZoneServices

/-- What commands ask of the system that they run on. -/
structure CommandSystem (m : Type → Type) where
  fileOctets : (path : Text) → m (Option Octets)
  inputOctets : m Octets
  now : m Timestamp

/-- Why a command fails. -/
inductive CommandError where
  | settingsFile (path : Text)
  | settings (path : Text) (cause : SettingsError)
  | options (fault : SettingsFault)
  | inputFile (path : Text)
  | standardInput
  | listing (error : Record.ListingError)
  | analysis (origin : Text) (cause : AnalysisError)
  | zone
  | services (cause : RegistryError)
  | incomplete (failures : Nat)
deriving DecidableEq, Repr

namespace CommandError

/-- What is said of a failed command. -/
def message : CommandError → String
  | .settingsFile path =>
    let path := String.ofList path
    s!"Failed to read engine settings from {path}"
  | .settings path _ =>
    let path := String.ofList path
    s!"Invalid engine settings in {path}"
  | .options fault => fault.message
  | .inputFile path =>
    let path := String.ofList path
    s!"Failed to read {path}"
  | .standardInput => "Failed to read standard input"
  | .listing error => error.message
  | .analysis origin _ =>
    let origin := String.ofList origin
    s!"Failed to analyse {origin}"
  | .zone => "Failed to decode the zone"
  | .services _ => "Failed to load the zone"
  | .incomplete failures => s!"{failures} service(s) failed to generate their records"

/-- Wording of what a failure of a command was caused by, if there is more to say. -/
def cause? : CommandError → Option String
  | .settings _ cause => some cause.message
  | .listing error => some error.cause.message
  | .analysis _ cause => some cause.message
  | .services cause => some cause.message
  | _ => none

end CommandError

/-- What a command comes to. -/
structure CommandResult where
  output : List Text := []
  complaints : List Text := []
  error : Option CommandError := none
deriving DecidableEq, Repr

namespace CommandResult

/-- The result of a command that fails before it writes anything. -/
def failed (error : CommandError) : CommandResult := { error := some error }

end CommandResult

namespace CommandLine

/-- The text of a file, if it can be read and is one. -/
def fileText {m : Type → Type} [Monad m] (system : CommandSystem m) (path : Text) :
    m (Option Text) := do
  return (← system.fileOctets path).bind Utf8.decode?

/--
The settings of a file or the defaults, with the limit that an option gives, if they can be used.
-/
def loadSettings {m : Type → Type} [Monad m] (system : CommandSystem m) (path : Option Text)
    (maxRecords : Option Nat) : m (Except CommandError Settings) := do
  let loaded : Except CommandError Settings ←
    match path with
    | none => pure (.ok {})
    | some path =>
      match ← fileText system path with
      | none => pure (.error (.settingsFile path))
      | some text => pure ((Settings.read text).mapError (.settings path))
  return do
    let settings ← loaded
    let settings := { settings with maxRecords := maxRecords.getD settings.maxRecords }
    (settings.validate).mapError .options
    return settings

/-- The text of a file, or of the standard input if no file is named. -/
def loadInput {m : Type → Type} [Monad m] (system : CommandSystem m) (path : Option Text) :
    m (Except CommandError Text) := do
  match path with
  | none =>
    match Utf8.decode? (← system.inputOctets) with
    | some text => return .ok text
    | none => return .error .standardInput
  | some path =>
    match ← fileText system path with
    | some text => return .ok text
    | none => return .error (.inputFile path)

/-- The zone of a listing of records, written as JSON over lines. -/
def analyzeText (settings : Settings) (origin text : Text) (now : Timestamp) :
    Except CommandError Text := do
  let records ← (Record.readListing text).mapError .listing
  let registry : Registry Unit Builtin := .builtin
  let analysis ←
    (registry.analyze settings (Owner.qualified origin) records).mapError (.analysis origin)
  return (Zone.ofAnalysis analysis now).encode.pretty

/-- The records of a stored zone. -/
def generateText (origin text : Text) : Except CommandError Synthesis := do
  let stored ←
    match StoredZone.read? text with
    | some stored => Except.ok stored
    | none => .error .zone
  let registry : Registry Unit Builtin := .builtin
  let zone ← (registry.load stored).mapError .services
  return zone.generate origin

/-- The line that reports a service which could not write its records. -/
def complaint (failure : SynthesisFailure) : Text :=
  failure.kind ++ " service ".toList ++ failure.id.write ++ " on '".toList ++ failure.subdomain
    ++ "': ".toList ++ failure.error.message.toList

/-- Prints the records of a synthesis; it fails if some service could not write its own. -/
def showSynthesis (synthesis : Synthesis) : CommandResult :=
  { output := synthesis.records.map Record.write
    complaints := synthesis.failures.map complaint
    error :=
      if synthesis.isComplete then none else some (.incomplete synthesis.failures.length) }

/-- A text with spaces in front, up to a width. -/
def alignRight (width : Nat) (text : Text) : Text :=
  List.replicate (width - text.length) ' ' ++ text

/-- A text with spaces behind, up to a width. -/
def alignLeft (width : Nat) (text : Text) : Text :=
  text ++ List.replicate (width - text.length) ' '

/-- The line that lists a kind: its priority, key and name, and its optional abilities. -/
def describe {Memory Body : Type} [ServiceBody Body] (entry : RegistryEntry Memory Body) : Text :=
  let capabilities := (ServiceBody.capabilities entry.blank).map (·.name.toList)
  alignRight 5 (Numeral.signed entry.priority.toInt) ++ ' ' :: ' ' :: alignLeft 28 entry.kind
    ++ ' ' :: entry.description.name
    ++ if capabilities.isEmpty then []
       else ' ' :: '[' :: Text.joined [',', ' '] capabilities ++ [']']

/-- What a command comes to on a system. -/
def run {m : Type → Type} [Monad m] (system : CommandSystem m) : CommandLine → m CommandResult
  | .analyze origin input settings maxRecords => do
    match ← loadSettings system settings maxRecords with
    | .error error => return .failed error
    | .ok settings =>
      match ← loadInput system input with
      | .error error => return .failed error
      | .ok text =>
        match analyzeText settings origin text (← system.now) with
        | .error error => return .failed error
        | .ok zone => return { output := Text.lines zone }
  | .generate origin input => do
    match ← loadInput system input with
    | .error error => return .failed error
    | .ok text =>
      match generateText origin text with
      | .error error => return .failed error
      | .ok synthesis => return showSynthesis synthesis
  | .services =>
    let registry : Registry Unit Builtin := .builtin
    return { output := registry.entries.map describe }

end CommandLine

end ZoneServices
