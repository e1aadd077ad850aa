import ZoneServices.Proofs.Analysis.History
import ZoneServices.Proofs.Registry.Order

/-!
# The turns of the recognizers

Recognizers may be any courses of questions and claims, and may fail in any way.  An analysis is
watched through the memory that they share: at the end of its turn a recognizer notes there what it
asked and claimed, and how it ended.  This changes nothing else of the analysis.

There are four courses that an analysis can take.  There are too many records and no recognizer has
a turn, or the last turn fails with an error of the analysis or with a complaint, or all recognizers
have their turns and succeed.
-/

namespace ZoneServices

/-! ## Refused claims -/

namespace Analyzer

variable {Body : Type} {analyzer : Analyzer Body} {id : Nat} {error : AnalysisError}

/-- A refused claim names the kind whose recognizer runs. -/
theorem claim_eq_error (refused : analyzer.claim id = .error error) :
    ∃ fault, error = .claimInconsistency analyzer.running fault := by
  rw [claim] at refused
  split at refused
  · cases refused
    exact ⟨_, rfl⟩
  · split at refused
    · cases refused
      exact ⟨_, rfl⟩
    · cases refused

theorem drop_eq_error (refused : analyzer.drop id = .error error) :
    ∃ fault, error = .claimInconsistency analyzer.running fault := by
  rw [drop] at refused
  cases claimed : analyzer.claim id with
  | error first =>
      rw [claimed] at refused
      cases refused
      exact claim_eq_error claimed
  | ok free =>
      rw [claimed] at refused
      cases refused

variable [ServiceBody Body]

theorem use_eq_error {name : Text} {body : Body}
    (refused : analyzer.use id name body = .error error) :
    ∃ fault, error = .claimInconsistency analyzer.running fault := by
  rw [use] at refused
  cases claimed : analyzer.claim id with
  | error first =>
      rw [claimed] at refused
      cases refused
      exact claim_eq_error claimed
  | ok free =>
      rw [claimed] at refused
      cases refused

theorem extend_eq_error {slot : Slot} {extension : Extension Body}
    (refused : analyzer.extend id slot extension = .error error) :
    ∃ fault, error = .claimInconsistency analyzer.running fault := by
  rw [extend] at refused
  split at refused
  · cases refused
    exact ⟨_, rfl⟩
  · cases claimed : analyzer.claim id with
    | error first =>
        rw [claimed] at refused
        cases refused
        exact claim_eq_error claimed
    | ok free =>
        rw [claimed] at refused
        cases refused

end Analyzer

variable {Memory Body : Type} [ServiceBody Body]

/-- The error that a claim was refused with in an exchange. -/
def Exchange.refusal? : Exchange Memory Body → Option AnalysisError
  | ⟨.use .., .error error⟩ => some error
  | ⟨.drop _, .error error⟩ => some error
  | ⟨.extend .., .error error⟩ => some error
  | _ => none

/-- A refusal names the recognizer that has its turn. -/
theorem Command.refusal_exchange {scene : Scene Memory Body} {command : Command Memory Body}
    {error : AnalysisError} (refused : (command.exchange scene).refusal? = some error) :
    ∃ fault, error = .claimInconsistency scene.analyzer.running fault := by
  cases command with
  | use id name body =>
      rw [exchange, perform] at refused
      cases used : scene.analyzer.use id name body with
      | error first =>
          rw [used] at refused
          cases refused
          exact Analyzer.use_eq_error used
      | ok outcome =>
          rw [used] at refused
          cases refused
  | drop id =>
      rw [exchange, perform] at refused
      cases dropped : scene.analyzer.drop id with
      | error first =>
          rw [dropped] at refused
          cases refused
          exact Analyzer.drop_eq_error dropped
      | ok next =>
          rw [dropped] at refused
          cases refused
  | extend id slot extension =>
      rw [exchange, perform] at refused
      cases extended : scene.analyzer.extend id slot extension with
      | error first =>
          rw [extended] at refused
          cases refused
          exact Analyzer.extend_eq_error extended
      | ok next =>
          rw [extended] at refused
          cases refused
  -- The other commands are never refused.
  | _ => cases refused

/-- No question or claim passes the turn to another recognizer. -/
theorem Command.running_perform (scene : Scene Memory Body) (command : Command Memory Body) :
    (command.perform scene).2.analyzer.running = scene.analyzer.running := by
  cases command with
  | use id name body =>
      rw [perform]
      cases used : scene.analyzer.use id name body with
      | error first => rfl
      | ok outcome =>
          rcases outcome with ⟨slot, next⟩
          rcases Analyzer.use_eq_ok used with ⟨record, free, rfl, rfl⟩
          rfl
  | drop id =>
      rw [perform]
      cases dropped : scene.analyzer.drop id with
      | error first => rfl
      | ok next =>
          rcases Analyzer.drop_eq_ok dropped with ⟨record, free, rfl⟩
          rfl
  | extend id slot extension =>
      rw [perform]
      cases extended : scene.analyzer.extend id slot extension with
      | error first => rfl
      | ok next =>
          rcases Analyzer.extend_eq_ok extended with ⟨record, service, revise, free, found,
            revises, rfl⟩
          rfl
  | _ => rfl

/-- Every refusal in a course names the kind whose recognizer runs. -/
theorem Recognition.refusal_of_mem_exchanges {Result : Type}
    {course : Recognition Memory Body Result} {scene : Scene Memory Body}
    {exchange : Exchange Memory Body} (member : exchange ∈ course.exchanges scene)
    {error : AnalysisError} (refused : exchange.refusal? = some error) :
    ∃ fault, error = .claimInconsistency scene.analyzer.running fault := by
  induction course generalizing scene with
  | done result => cases member
  | fail failure => cases member
  | ask command next step =>
      rcases List.mem_cons.mp member with rfl | later
      · exact Command.refusal_exchange refused
      · rw [← command.running_perform scene]
        exact step _ later

/-! ## Watched recognizers -/

/-- What a recognizer asked and claimed in its turn, and how the turn ended. -/
structure Turn (Memory Body : Type) [ServiceBody Body] where
  kind : Text
  exchanges : List (Exchange Memory Body)
  outcome : Except Failure Unit

/-- A memory in which turns are noted beside what the recognizers remember. -/
abbrev Logged (Memory Body : Type) [ServiceBody Body] : Type :=
  Memory × List (Turn Memory Body)

/-- A scene whose memory also holds the turns so far. -/
def Scene.logged (scene : Scene Memory Body) (turns : List (Turn Memory Body)) :
    Scene (Logged Memory Body) Body :=
  ⟨scene.analyzer, (scene.memory, turns)⟩

namespace Command

/-- A question or a claim beside some noted turns, which it keeps. -/
def logged (turns : List (Turn Memory Body)) :
    Command Memory Body → Command (Logged Memory Body) Body
  | .search filters => .search filters
  | .record id => .record id
  | .origin => .origin
  | .defaultTtl => .defaultTtl
  | .use id name body => .use id name body
  | .drop id => .drop id
  | .extend id slot extension => .extend id slot extension
  | .recall => .recall
  | .remember memory => .remember (memory, turns)

/-- The answer that a command gets apart from the log, given the answer to the logged one. -/
def answerOfLogged (turns : List (Turn Memory Body)) :
    (command : Command Memory Body) → (command.logged turns).Answer → command.Answer
  | .search _, answer => answer
  | .record _, answer => answer
  | .origin, answer => answer
  | .defaultTtl, answer => answer
  | .use .., answer => answer
  | .drop _, answer => answer
  | .extend .., answer => answer
  | .recall, answer => answer.1
  | .remember _, answer => answer

/-- A log beside the memory changes no answer and nothing else of the scene. -/
theorem perform_logged (scene : Scene Memory Body) (turns : List (Turn Memory Body))
    (command : Command Memory Body) :
    command.answerOfLogged turns ((command.logged turns).perform (scene.logged turns)).1 =
        (command.perform scene).1
      ∧ ((command.logged turns).perform (scene.logged turns)).2 =
        (command.perform scene).2.logged turns := by
  have settled : ∀ {Value : Type} (outcome : Except AnalysisError (Value × Analyzer Body)),
      (scene.logged turns).settle outcome =
        ((scene.settle outcome).1, (scene.settle outcome).2.logged turns) := by
    intro Value outcome
    cases outcome <;> rfl
  cases command with
  | use id name body =>
      have same := settled (scene.analyzer.use id name body)
      exact ⟨congrArg Prod.fst same, congrArg Prod.snd same⟩
  | drop id =>
      have same := settled ((scene.analyzer.drop id).map fun analyzer => ((), analyzer))
      exact ⟨congrArg Prod.fst same, congrArg Prod.snd same⟩
  | extend id slot extension =>
      have same :=
        settled ((scene.analyzer.extend id slot extension).map fun analyzer => ((), analyzer))
      exact ⟨congrArg Prod.fst same, congrArg Prod.snd same⟩
  | _ => exact ⟨rfl, rfl⟩

end Command

namespace Recognition

/-- Notes a turn before the end of a course. -/
def noting (turn : Turn Memory Body) (last : Recognition (Logged Memory Body) Body Unit) :
    Recognition (Logged Memory Body) Body Unit :=
  .ask .recall fun shared => .ask (.remember (shared.1, shared.2 ++ [turn])) fun _ => last

/-- A course that notes its turn, in which it has made some exchanges so far. -/
def watched (kind : Text) (made : List (Exchange Memory Body)) :
    Recognition Memory Body Unit → Recognition (Logged Memory Body) Body Unit
  | .done result => noting ⟨kind, made, .ok result⟩ (.done result)
  | .fail failure => noting ⟨kind, made, .error failure⟩ (.fail failure)
  | .ask command next => .ask .recall fun shared => .ask (command.logged shared.2) fun answer =>
    let given := command.answerOfLogged shared.2 answer
    (next given).watched kind (made ++ [⟨command, given⟩])

/-- The turn of a recognizer in a scene. -/
def turn (recognizer : Recognizer Memory Body) (scene : Scene Memory Body) (kind : Text) :
    Turn Memory Body :=
  ⟨kind, recognizer.exchanges (scene.turnTo kind), (recognizer.run (scene.turnTo kind)).1⟩

/-- A course that is watched runs as it does otherwise, and notes its turn at the end. -/
theorem run_watched (course : Recognition Memory Body Unit) (scene : Scene Memory Body)
    (turns : List (Turn Memory Body)) (kind : Text) (made : List (Exchange Memory Body)) :
    (course.watched kind made).run (scene.logged turns) =
      ((course.run scene).1, (course.run scene).2.logged
        (turns ++ [⟨kind, made ++ course.exchanges scene, (course.run scene).1⟩])) := by
  induction course generalizing scene made with
  | done result =>
      rw [exchanges, List.append_nil]
      rfl
  | fail failure =>
      rw [exchanges, List.append_nil]
      rfl
  | ask command next step =>
      rcases command.perform_logged scene turns with ⟨answer, after⟩
      have asked : ((Recognition.ask command next).watched kind made).run (scene.logged turns) =
          ((next (command.answerOfLogged turns
              ((command.logged turns).perform (scene.logged turns)).1)).watched kind
            (made ++ [⟨command, command.answerOfLogged turns
              ((command.logged turns).perform (scene.logged turns)).1⟩])).run
            ((command.logged turns).perform (scene.logged turns)).2 := rfl
      rw [asked, answer, after, step, List.append_assoc]
      rfl

/-- A watched recognizer does in its turn what it does unwatched, and notes it. -/
theorem run_watched_turnTo (recognizer : Recognizer Memory Body) (scene : Scene Memory Body)
    (noted : List (Turn Memory Body)) (kind : Text) :
    (recognizer.watched kind []).run ((scene.logged noted).turnTo kind) =
      ((recognizer.run (scene.turnTo kind)).1,
        (recognizer.run (scene.turnTo kind)).2.logged (noted ++ [recognizer.turn scene kind])) :=
  recognizer.run_watched (scene.turnTo kind) noted kind []

end Recognition

/-- A kind whose recognizer, if there is one, notes its turns. -/
def RegistryEntry.watched (entry : RegistryEntry Memory Body) :
    RegistryEntry (Logged Memory Body) Body where
  kind := entry.kind
  description := entry.description
  priority := entry.priority
  recognizer := entry.recognizer.map fun recognizer => recognizer.watched entry.kind []
  blank := entry.blank
  decode? := entry.decode?
  kindKey_blank := entry.kindKey_blank
  kindKey_decode? := entry.kindKey_decode?
  sequence := entry.sequence

namespace Registry

/-- A registry whose recognizers note their turns. -/
def watched (registry : Registry Memory Body) : Registry (Logged Memory Body) Body :=
  ⟨registry.entries.map RegistryEntry.watched, registry.registered⟩

/-! ## Turns in a row -/

/-- The kinds of some entries whose services are recognized. -/
def recognizedKinds (entries : List (RegistryEntry Memory Body)) : List Text :=
  (entries.filter (·.recognizer.isSome)).map (·.kind)

theorem recognizedKinds_of_none {entry : RegistryEntry Memory Body}
    (none : entry.recognizer = none) (rest : List (RegistryEntry Memory Body)) :
    recognizedKinds (entry :: rest) = recognizedKinds rest := by
  rw [recognizedKinds, List.filter_cons_of_neg]
  · rfl
  · simp [none]

theorem recognizedKinds_of_some {entry : RegistryEntry Memory Body}
    {recognizer : Recognizer Memory Body} (some : entry.recognizer = some recognizer)
    (rest : List (RegistryEntry Memory Body)) :
    recognizedKinds (entry :: rest) = entry.kind :: recognizedKinds rest := by
  rw [recognizedKinds, List.filter_cons_of_pos]
  · rfl
  · simp [some]

/-- Whether a turn is that of the recognizer of one of some entries. -/
def HasTurn (entries : List (RegistryEntry Memory Body)) (turn : Turn Memory Body) : Prop :=
  ∃ entry ∈ entries, ∃ recognizer scene,
    entry.recognizer = some recognizer ∧ turn = recognizer.turn scene entry.kind

theorem HasTurn.cons {entries : List (RegistryEntry Memory Body)} {turn : Turn Memory Body}
    (has : HasTurn entries turn) (first : RegistryEntry Memory Body) :
    HasTurn (first :: entries) turn := by
  rcases has with ⟨entry, member, has⟩
  exact ⟨entry, List.mem_cons_of_mem first member, has⟩

/-- A turn that fails is the last one, and its failure is that of the row. -/
inductive Row (kinds : List Text) : List (Turn Memory Body) → Except AnalysisError Unit → Prop
  | completed {turns : List (Turn Memory Body)} (all : turns.map (·.kind) = kinds)
      (succeeded : ∀ turn ∈ turns, turn.outcome = .ok ()) : Row kinds turns (.ok ())
  | aborted {front : List (Turn Memory Body)} {last : Turn Memory Body} {failure : Failure}
      (first : (front ++ [last]).map (·.kind) <+: kinds)
      (succeeded : ∀ turn ∈ front, turn.outcome = .ok ())
      (failed : last.outcome = .error failure) :
      Row kinds (front ++ [last]) (.error (failure.toError last.kind))

/-- Another turn in front of a row is one that succeeded. -/
theorem Row.cons {kinds : List Text} {turns : List (Turn Memory Body)}
    {outcome : Except AnalysisError Unit} (row : Row kinds turns outcome)
    {turn : Turn Memory Body} (success : turn.outcome = .ok ()) :
    Row (turn.kind :: kinds) (turn :: turns) outcome := by
  cases row with
  | completed all succeeded =>
      exact .completed (congrArg (turn.kind :: ·) all)
        (List.forall_mem_cons.mpr ⟨success, succeeded⟩)
  | @aborted front last failure first succeeded failed =>
      rw [← List.cons_append]
      exact .aborted (List.prefix_cons_inj _ |>.mpr first)
        (List.forall_mem_cons.mpr ⟨success, succeeded⟩) failed

theorem runRecognizers_of_none {entry : RegistryEntry Memory Body}
    (none : entry.recognizer = none) (rest : List (RegistryEntry Memory Body))
    (scene : Scene Memory Body) :
    runRecognizers scene (entry :: rest) = runRecognizers scene rest := by
  rw [runRecognizers, none]

/-- A recognizer that fails ends the row, under the name of its kind. -/
theorem runRecognizers_of_some {entry : RegistryEntry Memory Body}
    {recognizer : Recognizer Memory Body} (some : entry.recognizer = some recognizer)
    (rest : List (RegistryEntry Memory Body)) (scene : Scene Memory Body) :
    runRecognizers scene (entry :: rest) =
      match recognizer.run (scene.turnTo entry.kind) with
      | (.ok (), after) => runRecognizers after rest
      | (.error failure, after) => (.error (failure.toError entry.kind), after) := by
  rw [runRecognizers, some]
  rfl

/-- Recognizers that are watched run as they do otherwise, and note their turns in a row. -/
theorem runRecognizers_watched (scene : Scene Memory Body) (noted : List (Turn Memory Body))
    (entries : List (RegistryEntry Memory Body)) :
    ∃ turns, runRecognizers (scene.logged noted) (entries.map RegistryEntry.watched) =
        ((runRecognizers scene entries).1,
          (runRecognizers scene entries).2.logged (noted ++ turns))
      ∧ Row (recognizedKinds entries) turns (runRecognizers scene entries).1
      ∧ ∀ turn ∈ turns, HasTurn entries turn := by
  induction entries generalizing scene noted with
  | nil =>
      refine ⟨[], ?_, .completed rfl ?_, ?_⟩
      · rw [List.append_nil]
        rfl
      · intro turn member
        cases member
      · intro turn member
        cases member
  | cons entry rest step =>
      rw [List.map_cons]
      cases present : entry.recognizer with
      | none =>
          have unwatched : entry.watched.recognizer = none := by
            rw [RegistryEntry.watched, present, Option.map_none]
          rw [runRecognizers_of_none present, runRecognizers_of_none unwatched,
            recognizedKinds_of_none present]
          rcases step scene noted with ⟨turns, ran, row, genuine⟩
          exact ⟨turns, ran, row, fun turn member => (genuine turn member).cons entry⟩
      | some recognizer =>
          have watched : entry.watched.recognizer = some (recognizer.watched entry.kind []) := by
            rw [RegistryEntry.watched, present, Option.map_some]
          have here : HasTurn (entry :: rest) (recognizer.turn scene entry.kind) :=
            ⟨entry, List.mem_cons_self, recognizer, scene, present, rfl⟩
          have turned := recognizer.run_watched_turnTo scene noted entry.kind
          rw [runRecognizers_of_some present, runRecognizers_of_some watched,
            recognizedKinds_of_some present]
          rcases ran : recognizer.run (scene.turnTo entry.kind) with ⟨outcome, after⟩
          have ended : (recognizer.turn scene entry.kind).outcome = outcome :=
            congrArg Prod.fst ran
          rw [ran] at turned
          have kind : entry.watched.kind = entry.kind := rfl
          rw [kind, turned]
          cases outcome with
          | ok done =>
              rcases step after (noted ++ [recognizer.turn scene entry.kind]) with
                ⟨turns, further, row, genuine⟩
              rw [List.append_assoc] at further
              refine ⟨recognizer.turn scene entry.kind :: turns, further, row.cons ended, ?_⟩
              intro turn member
              rcases List.mem_cons.mp member with rfl | later
              · exact here
              · exact (genuine turn later).cons entry
          | error failure =>
              -- The failed turn ends the row, whatever the entries behind it are.
              have row : Row (entry.kind :: recognizedKinds rest)
                  ([] ++ [recognizer.turn scene entry.kind])
                  (.error (failure.toError entry.kind)) :=
                .aborted (List.cons_prefix_cons.mpr ⟨rfl, List.nil_prefix⟩)
                  (fun turn member => nomatch member) ended
              refine ⟨[recognizer.turn scene entry.kind], rfl, row, ?_⟩
              intro turn member
              rw [List.mem_singleton.mp member]
              exact here

/-! ## The courses of an analysis -/

/-- The courses of an analysis: the turns that recognizers have in it, and its result. -/
inductive Course (registry : Registry Memory Body) (settings : Settings) (origin : Text)
    (records : List Record) :
    List (Turn Memory Body) → Except AnalysisError (Analysis Body) → Prop
  | overfull (tooMany : settings.maxRecords < records.length) :
      Course registry settings origin records []
        (.error (.tooManyRecords origin records.length settings.maxRecords))
  | erred (fits : records.length ≤ settings.maxRecords) {front : List (Turn Memory Body)}
      {last : Turn Memory Body} {error : AnalysisError} {contexts : List Text}
      (first : (front ++ [last]).map (·.kind) <+: recognizedKinds registry.entries)
      (succeeded : ∀ turn ∈ front, turn.outcome = .ok ())
      (failed : last.outcome = .error ⟨.analysis error, contexts⟩) :
      Course registry settings origin records (front ++ [last]) (.error error)
  | complained (fits : records.length ≤ settings.maxRecords) {front : List (Turn Memory Body)}
      {last : Turn Memory Body} {text : Text} {contexts : List Text}
      (first : (front ++ [last]).map (·.kind) <+: recognizedKinds registry.entries)
      (succeeded : ∀ turn ∈ front, turn.outcome = .ok ())
      (failed : last.outcome = .error ⟨.complaint text, contexts⟩) :
      Course registry settings origin records (front ++ [last])
        (.error (.recognizerFailure last.kind (Text.joined ": ".toList (contexts ++ [text]))))
  | completed (fits : records.length ≤ settings.maxRecords) {turns : List (Turn Memory Body)}
      (all : turns.map (·.kind) = recognizedKinds registry.entries)
      (succeeded : ∀ turn ∈ turns, turn.outcome = .ok ()) (analysis : Analysis Body) :
      Course registry settings origin records turns (.ok analysis)

/-- An analysis fails just if there are too many records or a recognizer fails in its turn. -/
theorem Course.isError_iff {registry : Registry Memory Body} {settings : Settings}
    {origin : Text} {records : List Record} {turns : List (Turn Memory Body)}
    {result : Except AnalysisError (Analysis Body)}
    (course : registry.Course settings origin records turns result) :
    (∃ error, result = .error error) ↔ settings.maxRecords < records.length
      ∨ ∃ turn ∈ turns, ∃ failure, turn.outcome = .error failure := by
  cases course with
  | overfull tooMany => exact ⟨fun _ => .inl tooMany, fun _ => ⟨_, rfl⟩⟩
  | erred fits first succeeded failed =>
      exact ⟨fun _ => .inr ⟨_, List.mem_concat_self, _, failed⟩, fun _ => ⟨_, rfl⟩⟩
  | complained fits first succeeded failed =>
      exact ⟨fun _ => .inr ⟨_, List.mem_concat_self, _, failed⟩, fun _ => ⟨_, rfl⟩⟩
  | completed fits all succeeded analysis =>
      constructor
      · rintro ⟨error, failed⟩
        cases failed
      · rintro (tooMany | ⟨turn, member, failure, failed⟩)
        · exact absurd fits (Nat.not_le_of_lt tooMany)
        · cases (succeeded turn member).symm.trans failed

/-- Any turns in a row make one of the courses. -/
theorem Row.course {registry : Registry Memory Body} {settings : Settings} {origin : Text}
    {records : List Record} (fits : records.length ≤ settings.maxRecords)
    {turns : List (Turn Memory Body)} {outcome : Except AnalysisError Unit}
    (row : Row (recognizedKinds registry.entries) turns outcome) (analysis : Analysis Body) :
    registry.Course settings origin records turns (outcome.map fun _ => analysis) := by
  cases row with
  | completed all succeeded => exact .completed fits all succeeded analysis
  | @aborted front last failure first succeeded failed =>
      rcases failure with ⟨cause, contexts⟩
      cases cause with
      | analysis error => exact .erred fits first succeeded failed
      | complaint text => exact .complained fits first succeeded failed

variable [Hosts Body Orphan]

/-- Whether some turns are all that happens in an analysis. -/
structure Takes (registry : Registry Memory Body) (settings : Settings) (memory : Memory)
    (origin : Text) (records : List Record) (turns : List (Turn Memory Body)) : Prop where
  /-- Recognizers that note their turns note these, and nothing else is changed by it. -/
  noted : registry.watched.analyzeIn settings (memory, []) origin records =
    ((registry.analyzeIn settings memory origin records).1,
      ((registry.analyzeIn settings memory origin records).2, turns))
  course : registry.Course settings origin records turns
    (registry.analyzeIn settings memory origin records).1
  genuine : ∀ turn ∈ turns, HasTurn registry.entries turn
  /-- Every refused claim is put down to the recognizer that made it. -/
  named : ∀ turn ∈ turns, ∀ exchange ∈ turn.exchanges, ∀ error,
    exchange.refusal? = some error → ∃ fault, error = .claimInconsistency turn.kind fault

/-- Every analysis takes some turns. -/
theorem exists_takes (registry : Registry Memory Body) (settings : Settings) (memory : Memory)
    (origin : Text) (records : List Record) :
    ∃ turns, registry.Takes settings memory origin records turns := by
  by_cases tooMany : settings.maxRecords < records.length
  -- A zone over the limit is refused before any recognizer runs.
  · have refused := registry.analyzeIn_of_exceeds tooMany memory origin
    refine ⟨[], ?_, ?_, ?_, ?_⟩
    · rw [refused]
      exact registry.watched.analyzeIn_of_exceeds tooMany (memory, []) origin
    · rw [refused]
      exact .overfull tooMany
    · intro turn member
      cases member
    · intro turn member
      cases member
  · have fits := Nat.le_of_not_lt tooMany
    rcases runRecognizers_watched ⟨.start origin records settings.emptyTtl, memory⟩ []
      registry.entries with ⟨turns, watched, row, genuine⟩
    rw [List.nil_append] at watched
    have analyzed := registry.analyzeIn_of_fits fits memory origin
    have logged := registry.watched.analyzeIn_of_fits fits (memory, []) origin
    rcases ran : runRecognizers ⟨.start origin records settings.emptyTtl, memory⟩
      registry.entries with ⟨outcome, after⟩
    rw [ran] at analyzed watched row
    have loggedRan : runRecognizers ⟨.start origin records settings.emptyTtl, (memory, [])⟩
        registry.watched.entries = (outcome, after.logged turns) := watched
    rw [loggedRan] at logged
    refine ⟨turns, ?_, ?_, genuine, ?_⟩
    · rw [analyzed, logged]
      rfl
    · rw [analyzed]
      exact row.course fits _
    · intro turn member exchange made error refused
      rcases genuine turn member with ⟨entry, _, recognizer, scene, _, rfl⟩
      exact Recognition.refusal_of_mem_exchanges made refused

/--
However recognizers behave, an analysis takes one of the courses, in which they have their turns by
priority and in the order of registration at each.
-/
theorem course_of_ofCalls (registrations : List (Registration Memory Body)) (settings : Settings)
    (memory : Memory) (origin : Text) (records : List Record) :
    (ofCalls registrations).entries.Pairwise RegistryEntry.Precedes
      ∧ ((ofCalls registrations).entries.map (·.kind)).Nodup
      ∧ ∃ turns, (ofCalls registrations).Takes settings memory origin records turns
        ∧ ((∃ error, ((ofCalls registrations).analyzeIn settings memory origin records).1 =
            .error error) ↔ settings.maxRecords < records.length
              ∨ ∃ turn ∈ turns, ∃ failure, turn.outcome = .error failure) := by
  have holds := holds_ofCalls registrations
  have made := isMadeBy_ofCalls registrations
  rcases exists_takes (ofCalls registrations) settings memory origin records with ⟨turns, takes⟩
  exact ⟨holds.ordered, made.distinct, turns, takes, takes.course.isError_iff⟩

/-- Drops the first record two times, and puts a context around the refusal. -/
def dropTwice : Recognizer Unit Builtin :=
  .ask (.drop 0) fun _ => .ask (.drop 0) fun
    | .ok () => .done ()
    | .error error => .fail ((Failure.ofError error).within "again".toList)

example :
    (ofCalls [{ (Alias.registration : Registration Unit Builtin) with
      recognizer := some dropTwice }]).analyze {} "example.com.".toList
        [⟨"example.com.".toList, .a, 300, "192.0.2.1".toList⟩] =
      .error (.claimInconsistency (ServiceKind.key Alias) (.taken 0)) := rfl

end Registry

end ZoneServices
