import ZoneServices.CommandLine.Run
import ZoneServices.Proofs.Json.Lines
import ZoneServices.Proofs.Storage.RoundTrip
import ZoneServices.Proofs.Text.Octets

/-!
# Piping one command into another

The zone that `analyze` prints can be piped into `generate`.  At the same origin this comes to the
records that the zone of the analysis gives in memory: the lines that are printed make the text of
the zone again, which is read back.  If `analyze` fails, nothing is printed, and nothing is no
zone.

The two commands run on a system of any monad whose laws hold.
-/

namespace ZoneServices

variable {m : Type → Type} [Monad m]

/-- What a command prints: its lines, with a line feed behind each of them. -/
def CommandResult.printed (result : CommandResult) : Octets :=
  Utf8.encode (result.output.flatMap (· ++ ['\n']))

/-- A system whose standard input gives some octets. -/
def CommandSystem.fed (system : CommandSystem m) (octets : Octets) : CommandSystem m :=
  { system with inputOctets := pure octets }

namespace CommandLine

/-- Runs a command, and another one on what the first one prints. -/
def pipe (system : CommandSystem m) (first second : CommandLine) : m CommandResult := do
  let result ← run system first
  run (system.fed result.printed) second

/-- The analysis of a listing of records with the built-in kinds. -/
def analysisOf (settings : Settings) (origin text : Text) :
    Except CommandError (Analysis Builtin) := do
  let records ← (Record.readListing text).mapError .listing
  let registry : Registry Unit Builtin := .builtin
  (registry.analyze settings (Owner.qualified origin) records).mapError (.analysis origin)

/-- The records of the zone of a listing, without a text of the zone between them. -/
def regenerateText (settings : Settings) (origin text : Text) (now : Timestamp) : CommandResult :=
  match analysisOf settings origin text with
  | .ok analysis => showSynthesis ((Zone.ofAnalysis analysis now).generate origin)
  | .error _ => .failed .zone

/-- Analyzes like the command, and generates the records of the zone in memory. -/
def regenerate (system : CommandSystem m) (origin : Text) (input settings : Option Text)
    (maxRecords : Option Nat) : m CommandResult := do
  match ← loadSettings system settings maxRecords with
  | .error _ => return .failed .zone
  | .ok settings =>
    match ← loadInput system input with
    | .error _ => return .failed .zone
    | .ok text => return regenerateText settings origin text (← system.now)

/-! ## Settings -/

/-- Whether the limit of settings, if they are loaded, is one of 64 bits. -/
def Fits (loaded : Except CommandError Settings) : Prop :=
  ∀ settings, loaded = .ok settings → settings.maxRecords < UInt64.size

end CommandLine

/-- A number among settings keeps to its limit, given or not. -/
theorem Settings.numberOf?_lt {members : List (Yaml × Yaml)} {name : String} {limit missing : Nat}
    (small : missing < limit) {number : Nat}
    (found : numberOf? members name limit missing = some number) : number < limit := by
  rw [numberOf?] at found
  split at found
  · cases found
    exact small
  · exact of_decide_eq_true (Option.filter_eq_some_iff.mp found).2
  · cases found

theorem Settings.maxRecords_lt_of_ofDocument? {document : Yaml.Document} {settings : Settings}
    (read : ofDocument? document = some settings) : settings.maxRecords < UInt64.size := by
  rw [ofDocument?.eq_def] at read
  split at read
  · cases read
    decide
  · cases read
    decide
  · dsimp only at read
    split at read
    · rcases Option.bind_eq_some_iff.mp read with ⟨maxRecords, found, read⟩
      rcases Option.bind_eq_some_iff.mp read with ⟨emptyTtl, _, read⟩
      cases read
      exact numberOf?_lt (by decide) found
    · cases read
  · cases read

/-- The limit of settings that were read is one of 64 bits. -/
theorem Settings.maxRecords_lt_of_read {text : Text} {settings : Settings}
    (accepted : Settings.read text = .ok settings) : settings.maxRecords < UInt64.size := by
  rw [Settings.read] at accepted
  split at accepted
  · cases accepted
  · rename_i found decoded
    rcases Option.bind_eq_some_iff.mp decoded with ⟨document, _, made⟩
    split at accepted
    · cases accepted
      exact maxRecords_lt_of_ofDocument? made
    · cases accepted

/-! ## Arguments -/

namespace Arguments

theorem count_lt {values : Values} {setting : Setting} {limit : Nat}
    (counted : count values setting = some limit) : limit < UInt64.size := by
  rcases Option.bind_eq_some_iff.mp counted with ⟨value, _, found⟩
  exact Numeral.lt_of_unsigned? found

/-- The limit that a command has is one of 64 bits, because the arguments are refused otherwise. -/
theorem limit_lt_of_read {arguments : List Text} {origin : Text} {input settings : Option Text}
    {maxRecords : Option Nat}
    (accepted : read arguments = .ok (.analyze origin input settings maxRecords)) {limit : Nat}
    (given : maxRecords = some limit) : limit < UInt64.size := by
  cases arguments with
  | nil => cases accepted
  | cons name rest =>
      rw [read] at accepted
      simp only [bind, Except.bind] at accepted
      -- Only the branch of `analyze` yields this command; the others are refuted by their shape.
      repeat' split at accepted
      all_goals cases accepted
      exact count_lt given

end Arguments

namespace CommandLine

theorem fits_default : Fits (.ok {}) := by
  rintro settings ⟨⟩
  decide

theorem fits_read (path text : Text) : Fits ((Settings.read text).mapError (.settings path)) := by
  intro settings loaded
  cases read : Settings.read text with
  | error error =>
      rw [read] at loaded
      cases loaded
  | ok known =>
      rw [read] at loaded
      cases loaded
      exact Settings.maxRecords_lt_of_read read

/-- An option in place of the limit, if there is one, and the check of both settings. -/
def limited (maxRecords : Option Nat) (loaded : Except CommandError Settings) :
    Except CommandError Settings := do
  let settings ← loaded
  let settings := { settings with maxRecords := maxRecords.getD settings.maxRecords }
  (settings.validate).mapError .options
  return settings

/-- An option that fits leaves settings that fit. -/
theorem fits_limited {maxRecords : Option Nat}
    (fits : ∀ limit, maxRecords = some limit → limit < UInt64.size)
    {loaded : Except CommandError Settings} (fit : Fits loaded) :
    Fits (limited maxRecords loaded) := by
  intro settings made
  cases loaded with
  | error error => cases made
  | ok known =>
      have limit : maxRecords.getD known.maxRecords < UInt64.size := by
        cases maxRecords with
        | none => exact fit known rfl
        | some limit => exact fits limit rfl
      cases valid : Settings.validate
          { known with maxRecords := maxRecords.getD known.maxRecords } with
      | error fault =>
          simp only [limited, bind, Except.bind, valid, Except.mapError] at made
          cases made
      | ok checked =>
          simp only [limited, bind, Except.bind, valid, Except.mapError] at made
          cases made
          exact limit

section

variable [LawfulMonad m] (system : CommandSystem m)

/-- What follows on loading settings counts for settings whose limit is one of 64 bits. -/
theorem loadSettings_bind_congr (path : Option Text) {maxRecords : Option Nat}
    (fits : ∀ limit, maxRecords = some limit → limit < UInt64.size) {Result : Type}
    {next other : Except CommandError Settings → m Result}
    (agree : ∀ loaded, Fits loaded → next loaded = other loaded) :
    loadSettings system path maxRecords >>= next =
      loadSettings system path maxRecords >>= other := by
  have step : ∀ loaded, Fits loaded →
      next (limited maxRecords loaded) = other (limited maxRecords loaded) :=
    fun loaded fit => agree _ (fits_limited fits fit)
  cases path with
  | none =>
      rw [loadSettings]
      simp only [pure_bind]
      exact step _ fits_default
  | some path =>
      rw [loadSettings]
      simp only [bind_assoc]
      apply bind_congr
      intro text
      cases text with
      | none =>
          simp only [pure_bind]
          exact step _ fun settings loaded => by cases loaded
      | some text =>
          simp only [pure_bind]
          exact step _ (fits_read path text)

theorem run_generate_fed (origin text : Text) :
    run (system.fed (Utf8.encode text)) (.generate origin none) =
      pure (match generateText origin text with
        | .ok synthesis => showSynthesis synthesis
        | .error error => .failed error) := by
  rw [run, loadInput, CommandSystem.fed]
  simp only [pure_bind, Utf8.decode?_encode]
  cases generateText origin text with
  | ok synthesis => rfl
  | error error => rfl

/-- A failed command prints nothing, of which `generate` makes no zone. -/
theorem run_generate_failed (origin : Text) (error : CommandError) :
    run (system.fed (CommandResult.failed error).printed) (.generate origin none) =
      pure (.failed .zone) := by
  have nothing : generateText origin [] = .error .zone := by
    rw [generateText, StoredZone.read?, Json.read?, Json.tokens?_nil]
    rfl
  refine (run_generate_fed system origin []).trans ?_
  rw [nothing]

end

/-! ## Texts of zones -/

/-- The text that `analyze` prints is the written zone of the analysis. -/
theorem analyzeText_eq (settings : Settings) (origin text : Text) (now : Timestamp) :
    analyzeText settings origin text now =
      (analysisOf settings origin text).map fun analysis =>
        (Zone.ofAnalysis analysis now).encode.pretty := by
  rw [analyzeText, analysisOf]
  cases Record.readListing text with
  | error error => rfl
  | ok records =>
      simp only [Except.mapError, bind, Except.bind]
      cases (Registry.builtin : Registry Unit Builtin).analyze settings (Owner.qualified origin)
        records with
      | error error => rfl
      | ok analysis => rfl

/-- An analysis of a listing is an analysis of the records in it. -/
theorem exists_analyze {settings : Settings} {origin text : Text} {analysis : Analysis Builtin}
    (analyzed : analysisOf settings origin text = .ok analysis) :
    ∃ records, (Registry.builtin : Registry Unit Builtin).analyze settings (Owner.qualified origin)
      records = .ok analysis := by
  rw [analysisOf] at analyzed
  cases read : Record.readListing text with
  | error error =>
      rw [read] at analyzed
      cases analyzed
  | ok records =>
      rw [read] at analyzed
      simp only [Except.mapError, bind, Except.bind] at analyzed
      split at analyzed
      · cases analyzed
      · rename_i known found
        cases analyzed
        exact ⟨records, found⟩

/-- What `analyze` prints of a zone is read back as that zone, which `generate` works on. -/
theorem generateText_printed {settings : Settings} {origin text : Text}
    {analysis : Analysis Builtin} (fits : settings.maxRecords < UInt64.size)
    (analyzed : analysisOf settings origin text = .ok analysis) (now : Timestamp) :
    generateText origin
        ((Text.lines (Zone.ofAnalysis analysis now).encode.pretty).flatMap (· ++ ['\n'])) =
      .ok ((Zone.ofAnalysis analysis now).generate origin) := by
  rcases exists_analyze analyzed with ⟨records, analyzed⟩
  have small : records.length < UInt64.size := (length_le_of_analyze analyzed).trans_lt fits
  have covered : ∀ service ∈ (Zone.ofAnalysis analysis now).allServices,
      (Registry.builtin : Registry Unit Builtin).Covers service :=
    fun service member => Registry.covers_of_analyze analyzed small member
  have plain := (Registry.isStorable_encode_of_covers covered).plain
  have lined : (Zone.ofAnalysis analysis now).encode.pretty.IsLined := Json.isLined_pretty plain
  have read := Registry.read?_of_covers covered (Json.read?_pretty_newline plain)
  have loaded := (Registry.readsBack_of_covers covered).loaded
  rw [lined.flatMap_lines, generateText, read]
  simp only [bind, Except.bind, loaded]
  rfl

/-! ## Piping -/

/--
Piping `analyze` into `generate` at the same origin yields the records of the zone of the analysis,
as they are generated in memory.
-/
theorem pipe_analyze_generate [LawfulMonad m] (system : CommandSystem m) (origin : Text)
    (input settings : Option Text) {maxRecords : Option Nat}
    (fits : ∀ limit, maxRecords = some limit → limit < UInt64.size) :
    pipe system (.analyze origin input settings maxRecords) (.generate origin none) =
      regenerate system origin input settings maxRecords := by
  rw [pipe, run, regenerate]
  simp only [bind_assoc]
  apply loadSettings_bind_congr system settings fits
  intro loaded fit
  cases loaded with
  | error error =>
      simp only [pure_bind]
      exact run_generate_failed system origin error
  | ok settings =>
      simp only [bind_assoc]
      apply bind_congr
      intro loaded
      cases loaded with
      | error error =>
          simp only [pure_bind]
          exact run_generate_failed system origin error
      | ok text =>
          simp only [bind_assoc]
          apply bind_congr
          intro now
          rw [analyzeText_eq, regenerateText]
          cases analyzed : analysisOf settings origin text with
          | error error =>
              simp only [Except.map, pure_bind]
              exact run_generate_failed system origin error
          | ok analysis =>
              simp only [Except.map, pure_bind]
              refine (run_generate_fed system origin _).trans ?_
              dsimp only
              rw [generateText_printed (fit settings rfl) analyzed now]

end CommandLine

/-- What is printed are the texts of the records; without an analysis nothing is. -/
theorem output_regenerateText (settings : Settings) (origin text : Text) (now : Timestamp) :
    (CommandLine.regenerateText settings origin text now).output =
      match CommandLine.analysisOf settings origin text with
      | .ok analysis => ((Zone.ofAnalysis analysis now).generate origin).records.map Record.write
      | .error _ => [] := by
  rw [CommandLine.regenerateText]
  cases CommandLine.analysisOf settings origin text <;> rfl

/-! ## Storage -/

/--
A zone is read back from its text, if its services carry the keys of bodies whose kinds the registry
knows.  The services of an analysis carry these keys, and the built-in kinds know all bodies that
they make.  So `generate`, on what `analyze` prints, yields the records that are generated in
memory, and prints their texts.
-/
theorem zones_survive_storage :
    (∀ {Memory Body : Type} [ServiceBody Body] (registry : Registry Memory Body) (zone : Zone Body),
      (∀ service ∈ zone.allServices, registry.Covers service) → registry.ReadsBack zone)
    ∧ (∀ {Memory Body : Type} [ServiceBody Body] [Hosts Body Orphan]
        (registry : Registry Memory Body) (settings : Settings) (memory : Memory) (origin : Text)
        (records : List Record) (analysis : Analysis Body) (now : Timestamp),
      (registry.analyzeIn settings memory origin records).1 = .ok analysis →
      (∀ service ∈ analysis.allServices,
        registry.Knows service.body ∧ ServiceBody.resourceCount service.body < UInt64.size) →
      registry.ReadsBack (Zone.ofAnalysis analysis now))
    ∧ (∀ (settings : Settings) (origin : Text) (records : List Record)
        (analysis : Analysis Builtin) (now : Timestamp),
      (Registry.builtin : Registry Unit Builtin).analyze settings origin records = .ok analysis →
      records.length < UInt64.size →
      (Registry.builtin : Registry Unit Builtin).ReadsBack (Zone.ofAnalysis analysis now))
    ∧ (∀ {m : Type → Type} [Monad m] [LawfulMonad m] (system : CommandSystem m)
        (arguments : List Text) (origin : Text) (input settings : Option Text)
        (maxRecords : Option Nat),
      Arguments.read arguments = .ok (.analyze origin input settings maxRecords) →
      CommandLine.pipe system (.analyze origin input settings maxRecords) (.generate origin none) =
        CommandLine.regenerate system origin input settings maxRecords)
    ∧ ∀ (settings : Settings) (origin text : Text) (now : Timestamp),
      (CommandLine.regenerateText settings origin text now).output =
        match CommandLine.analysisOf settings origin text with
        | .ok analysis =>
          ((Zone.ofAnalysis analysis now).generate origin).records.map Record.write
        | .error _ => [] := by
  refine ⟨?_, ?_, ?_, ?_, output_regenerateText⟩
  · intro Memory Body _ registry zone covered
    exact Registry.readsBack_of_covers covered
  · intro Memory Body _ _ registry settings memory origin records analysis now analyzed known
    exact Registry.readsBack_of_analyzeIn analyzed known now
  · intro settings origin records analysis now analyzed fits
    exact Registry.readsBack_of_covers fun service member =>
      Registry.covers_of_analyze analyzed fits member
  · intro m _ _ system arguments origin input settings maxRecords accepted
    exact CommandLine.pipe_analyze_generate system origin input settings
      fun limit given => Arguments.limit_lt_of_read accepted given

/-- An alias of a host in another zone. -/
def hostAlias : Record :=
  ⟨"www.example.com.".toList, .cname, 300, "host.example.net.".toList⟩

/-- A moment half a second after a noon in February, on a leap day. -/
def leapNoon : Timestamp :=
  ⟨⟨2024, 2, 29⟩, ⟨12, 0, 0, 500000000⟩, by decide, by decide⟩

/-- A zone with an alias, about which its user made a note of two lines. -/
def notedZone : Zone Builtin where
  header :=
    { id := ⟨-1⟩
      author := ⟨7⟩
      defaultTtl := 300
      lastModified := leapNoon
      commitMessage := some "an \"alias\"".toList
      commitDate := none
      published := some .epoch }
  services := .ofList
    [ ("www".toList,
        [ { header :=
              { kind := "svcs.CNAME".toList
                id := .ofRecord hostAlias
                subdomain := "www".toList
                ttl := 0
                comment := []
                userComment := "über\n\\ later".toList
                resources := 1 }
            body := .link ⟨"host.example.net.".toList⟩ } ]) ]

/-- A listing of one alias. -/
def typedListing : Text :=
  "www.example.com. 300 IN CNAME host.example.net.\n".toList

/-- A computer without files, on which a listing of one alias is typed in. -/
def typingSystem : CommandSystem Id where
  fileOctets _ := none
  inputOctets := Utf8.encode typedListing
  now := .epoch

theorem zones_survive_storage_of_notedZone :
    ((∀ service ∈ notedZone.allServices, (Registry.builtin : Registry Unit Builtin).Covers service)
      ∧ (Registry.builtin : Registry Unit Builtin).ReadsBack notedZone)
    ∧ (∃ analysis : Analysis Builtin,
      (Registry.builtin : Registry Unit Builtin).analyze {} "example.com".toList [hostAlias] =
          .ok analysis
        ∧ (∀ service ∈ analysis.allServices,
          (Registry.builtin : Registry Unit Builtin).Knows service.body
            ∧ ServiceBody.resourceCount service.body < UInt64.size)
        ∧ (Registry.builtin : Registry Unit Builtin).ReadsBack (Zone.ofAnalysis analysis .epoch)
        ∧ [hostAlias].length < UInt64.size
        ∧ (Registry.builtin : Registry Unit Builtin).ReadsBack (Zone.ofAnalysis analysis leapNoon))
    ∧ Arguments.read (["analyze", "--origin=example.com"].map String.toList) =
        .ok (.analyze "example.com".toList none none none)
    ∧ CommandLine.pipe typingSystem (.analyze "example.com".toList none none none)
          (.generate "example.com".toList none) =
        CommandLine.regenerate typingSystem "example.com".toList none none none
    ∧ (Id.run (CommandLine.pipe typingSystem (.analyze "example.com".toList none none none)
          (.generate "example.com".toList none))).output =
        ["www.example.com. 300 IN CNAME host.example.net.".toList] := by
  have covered : ∀ service ∈ notedZone.allServices,
      (Registry.builtin : Registry Unit Builtin).Covers service := by
    refine List.forall_mem_singleton.mpr ?_
    exact ⟨rfl, Registry.knows_builtin _, by decide⟩
  have accepted : Arguments.read (["analyze", "--origin=example.com"].map String.toList) =
      .ok (.analyze "example.com".toList none none none) := by
    rfl
  have analyzed := analyze_builtin {} "example.com".toList [hostAlias] (by decide)
  have known : ∀ {analysis : Analysis Builtin},
      (Registry.builtin : Registry Unit Builtin).analyze {} "example.com".toList [hostAlias] =
        .ok analysis →
      ∀ service ∈ analysis.allServices,
        (Registry.builtin : Registry Unit Builtin).Knows service.body
          ∧ ServiceBody.resourceCount service.body < UInt64.size := by
    intro analysis analyzed service member
    have summedUp := Registry.isSummedUp_of_analyzeIn analyzed member
    have counted := Registry.resources_le_length analyzed member
    rw [summedUp.resources] at counted
    exact ⟨Registry.knows_builtin service.body, counted.trans_lt (by decide)⟩
  have few : [hostAlias].length < UInt64.size := by decide
  have piped : CommandLine.pipe typingSystem (.analyze "example.com".toList none none none)
        (.generate "example.com".toList none) =
      CommandLine.regenerate typingSystem "example.com".toList none none none :=
    zones_survive_storage.2.2.2.1 typingSystem _ _ none none none accepted
  have typed : Id.run
        (CommandLine.regenerate typingSystem "example.com".toList none none none) =
      CommandLine.regenerateText {} "example.com".toList typedListing .epoch := by
    decide +kernel
  refine ⟨⟨covered, ?_⟩, ⟨_, analyzed, known analyzed, ?_, few, ?_⟩, accepted, piped, ?_⟩
  · exact zones_survive_storage.1 _ notedZone covered
  · exact zones_survive_storage.2.1 _ {} () _ _ _ .epoch analyzed (known analyzed)
  · exact zones_survive_storage.2.2.1 {} _ _ _ leapNoon analyzed few
  · rw [piped, typed, zones_survive_storage.2.2.2.2]
    decide +kernel

end ZoneServices
