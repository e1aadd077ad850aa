import ZoneServices.Proofs.Import.Course

/-!
# Runs of imports

A domain is imported again and again, each time by another order: another registry or other
settings, another provider or store.  An import may end at any of its steps, and the next one starts
from what it has left.

What every import does is read off its course.  By induction on the orders, the history of the
domain is then at every moment the one it had at first, followed by the zones that were stored.
-/

namespace ZoneServices

variable {World Memory Body : Type}

/-! ## Calls -/

/-- The steps of an import at which the provider or the store is called. -/
inductive ImportStep where
  | check
  | list
  | create
  | update
deriving DecidableEq, Repr

/-- All steps, in the order in which they are taken. -/
def ImportStep.all : List ImportStep := [.check, .list, .create, .update]

namespace ImportCall

/-- The step at which a call is made. -/
def step : ImportCall Body → ImportStep
  | .check .. => .check
  | .list .. => .list
  | .create .. => .create
  | .update .. => .update

/-- Whether a call got what it asked for. -/
def isGranted : ImportCall Body → Bool
  | .check _ answer => answer.isOk
  | .list _ answer => answer.isOk
  | .create _ answer => answer.isOk
  | .update _ answer => answer.isOk

/-- The identifier of the zone that a call has stored. -/
def created? : ImportCall Body → Option ZoneId
  | .create _ (.ok id) => some id
  | _ => none

end ImportCall

/-! ## Episodes -/

/-- One import of a run: what it started from, what it called and what it came to. -/
structure ImportEpisode (World Memory Body : Type) [ServiceBody Body] where
  order : ImportOrder World Memory Body
  memory : Memory
  before : Domain
  calls : List (ImportCall Body)
  report : ImportReport Memory Body

namespace ImportEpisode

variable [ServiceBody Body] [Hosts Body Orphan]

/-- The analysis that an import makes of records. -/
def analysisOf (episode : ImportEpisode World Memory Body) (records : List Record) :
    Except AnalysisError (Analysis Body) :=
  (episode.order.registry.analyzeIn episode.order.settings episode.memory episode.before.name
    records).1

/-- The zones that were stored in an import. -/
def created (episode : ImportEpisode World Memory Body) : List ZoneId :=
  episode.calls.filterMap ImportCall.created?

/-- An import fails for the reason that an error gives. -/
def FailsBy (episode : ImportEpisode World Memory Body) : ImportError → Prop
  | .source name complaint =>
    ImportCall.check name (.error complaint) ∈ episode.calls
      ∨ ImportCall.list name (.error complaint) ∈ episode.calls
  | .analysis error =>
    ∃ records, ImportCall.list episode.before.name (.ok records) ∈ episode.calls
      ∧ episode.analysisOf records = .error error
  | .storage name complaint =>
    name = episode.before.name
      ∧ ((∃ zone, ImportCall.create zone (.error complaint) ∈ episode.calls)
        ∨ ∃ domain, ImportCall.update domain (.error complaint) ∈ episode.calls)

/-- An import keeps to its order. -/
structure IsOrderly (episode : ImportEpisode World Memory Body) : Prop where
  kept : episode.before.history <+: episode.report.domain.history
  grown : episode.report.domain.history.length ≤ episode.before.history.length + 1
  /-- The history grows by what was stored, and the domain changes in nothing else. -/
  stored : episode.report.domain =
    { episode.before with history := episode.before.history ++ episode.created }
  ordered : episode.calls.map ImportCall.step <+: ImportStep.all
  /-- Only the last call can be refused. -/
  granted : ∀ call ∈ episode.calls.dropLast, call.isGranted = true
  analysed : ∀ call ∈ episode.calls, call.step = .create ∨ call.step = .update →
    ∃ records analysis, ImportCall.list episode.before.name (.ok records) ∈ episode.calls
      ∧ episode.analysisOf records = .ok analysis
  unstored : (∃ name complaint, episode.FailsBy (.source name complaint))
      ∨ (∃ error, episode.FailsBy (.analysis error)) →
    ∀ call ∈ episode.calls, call.step ≠ .create ∧ call.step ≠ .update
  /-- An import fails only if a step does, and tells which one. -/
  failed : ∀ error, episode.report.result = .error error → episode.FailsBy error
  saved : ∀ id, episode.report.result = .ok id →
    ∃ records analysis zone, episode.analysisOf records = .ok analysis
      ∧ episode.calls =
        [ .check episode.before.name (.ok ()), .list episode.before.name (.ok records),
          .create zone (.ok id), .update episode.report.domain (.ok ()) ]
      ∧ zone.header.author = episode.order.author
      ∧ zone.header.defaultTtl = analysis.defaultTtl
      ∧ zone.services = analysis.services
      ∧ episode.report.domain.history = episode.before.history ++ [id]

end ImportEpisode

namespace ImportOrder

variable [ServiceBody Body] [Hosts Body Orphan] {order : ImportOrder World Memory Body}
  {memory : Memory} {domain : Domain} {calls : List (ImportCall Body)}
  {report : ImportReport Memory Body}

namespace Course

/-- The history of a domain grows by the zones that were stored. -/
theorem domain_eq (course : order.Course memory domain calls report) :
    report.domain =
      { domain with history := domain.history ++ calls.filterMap ImportCall.created? } := by
  cases course <;> simp [ImportCall.created?, List.filterMap_cons, Domain.push]

/-- No import stores more than one zone. -/
theorem length_created_le (course : order.Course memory domain calls report) :
    (calls.filterMap ImportCall.created?).length ≤ 1 := by
  cases course <;> simp [ImportCall.created?, List.filterMap_cons]

/-- An import takes its steps in their order, without leaving one out. -/
theorem step_isPrefix (course : order.Course memory domain calls report) :
    calls.map ImportCall.step <+: ImportStep.all := by
  cases course <;> simp [ImportCall.step, ImportStep.all]

/-- An import goes on only behind a call that was granted. -/
theorem isGranted_of_mem_dropLast (course : order.Course memory domain calls report) :
    ∀ call ∈ calls.dropLast, call.isGranted = true := by
  cases course <;> simp [ImportCall.isGranted, Except.isOk, Except.toBool]

/-- When the store is called, the provider has answered and its records were analysed. -/
theorem provided_of_late (course : order.Course memory domain calls report)
    {call : ImportCall Body} (called : call ∈ calls)
    (late : call.step = .create ∨ call.step = .update) :
    ∃ records analysis, ImportCall.list domain.name (.ok records) ∈ calls
      ∧ (order.registry.analyzeIn order.settings memory domain.name records).1 = .ok analysis
      ∧ ∀ call ∈ calls, call.step = .check ∨ call.step = .list →
        call = .check domain.name (.ok ()) ∨ call = .list domain.name (.ok records) := by
  cases course with
  | unknown | unlisted | unanalysed =>
      simp only [List.mem_cons, List.not_mem_nil, or_false] at called
      rcases called with rfl | rfl <;> simp [ImportCall.step] at late
  | unstored records analysis after analysed | unsaved records analysis after analysed
  | saved records analysis after analysed =>
      exact ⟨records, analysis, by simp, congrArg Prod.fst analysed, by simp [ImportCall.step]⟩

end Course

/-- An import that takes one of the courses keeps to its order. -/
theorem Course.isOrderly (course : order.Course memory domain calls report) :
    (⟨order, memory, domain, calls, report⟩ :
      ImportEpisode World Memory Body).IsOrderly where
  kept := by
    rw [course.domain_eq]
    exact List.prefix_append ..
  grown := by
    rw [course.domain_eq, List.length_append]
    exact Nat.add_le_add_left course.length_created_le _
  stored := course.domain_eq
  ordered := course.step_isPrefix
  granted := course.isGranted_of_mem_dropLast
  analysed := by
    intro call called late
    obtain ⟨records, analysis, listed, analysed, -⟩ := course.provided_of_late called late
    exact ⟨records, analysis, listed, analysed⟩
  -- A call behind the listing shows that check, listing and analysis went through.
  unstored := by
    intro failed call called
    by_contra late
    obtain ⟨records, analysis, -, analysed, provided⟩ :=
      course.provided_of_late called (by tauto)
    rcases failed with ⟨name, complaint, checked | listed⟩ | ⟨error, others, listed, failed⟩
    · rcases provided _ checked (.inl rfl) with other | other <;> cases other
    · rcases provided _ listed (.inr rfl) with other | other <;> cases other
    · rcases provided _ listed (.inr rfl) with other | same
      · cases other
      · cases same
        cases analysed.symm.trans failed
  failed := by
    intro error failed
    cases course with
    | unknown complaint | unlisted complaint | unstored _ _ _ _ complaint
    | unsaved _ _ _ _ _ complaint =>
        cases failed
        simp [ImportEpisode.FailsBy]
    | unanalysed records error after analysed =>
        cases failed
        exact ⟨records, by simp, congrArg Prod.fst analysed⟩
    | saved => cases failed
  saved := by
    intro id done
    cases course with
    | unknown | unlisted | unanalysed | unstored | unsaved => cases done
    | saved records analysis after analysed =>
        cases done
        exact ⟨records, analysis, order.zoneOf analysis, congrArg Prod.fst analysed, rfl, rfl, rfl,
          rfl, rfl⟩

/-! ## Runs -/

/-- Imports of a domain, one after the other. -/
def performAll : List (ImportOrder World Memory Body) → Memory → Domain →
    StateM World (List (ImportReport Memory Body))
  | [], _, _ => return []
  | order :: orders, memory, domain => do
    let report ← order.perform memory domain
    let reports ← performAll orders report.memory report.domain
    return report :: reports

/-- Imports of a domain, one after the other, each of them watched. -/
def performAllWatched : List (ImportOrder World Memory Body) → Memory → Domain →
    Watched World Body (List (ImportReport Memory Body))
  | [], _, _ => return []
  | order :: orders, memory, domain => do
    let report ← order.performWatched memory domain
    let reports ← performAllWatched orders report.memory report.domain
    return report :: reports

/-- One import with the calls that it makes. -/
def episode (order : ImportOrder World Memory Body) (memory : Memory) (domain : Domain)
    (world : World) : ImportEpisode World Memory Body :=
  ⟨order, memory, domain, order.calls memory domain world, order.report memory domain world⟩

/-- The imports of a run with the calls that they make. -/
def episodes : List (ImportOrder World Memory Body) → Memory → Domain → World →
    List (ImportEpisode World Memory Body)
  | [], _, _, _ => []
  | order :: orders, memory, domain, world =>
    let report := order.report memory domain world
    order.episode memory domain world ::
      episodes orders report.memory report.domain (order.worldAfter memory domain world)

/-- The reports of the episodes are those of the run. -/
theorem map_report_episodes (orders : List (ImportOrder World Memory Body)) (memory : Memory)
    (domain : Domain) (world : World) :
    (episodes orders memory domain world).map ImportEpisode.report =
      ((performAll orders memory domain).run world).1 := by
  induction orders generalizing memory domain world with
  | nil => rfl
  | cons order orders ih =>
      simp only [episodes, performAll, run_bind, List.map_cons]
      rw [ih]
      rfl

theorem map_order_episodes (orders : List (ImportOrder World Memory Body)) (memory : Memory)
    (domain : Domain) (world : World) :
    (episodes orders memory domain world).map ImportEpisode.order = orders := by
  induction orders generalizing memory domain world with
  | nil => rfl
  | cons order orders ih =>
      simp only [episodes, List.map_cons, ih]
      rfl

/-- A run that is watched is the run itself, with the calls of its imports in their order. -/
theorem run_performAllWatched (orders : List (ImportOrder World Memory Body)) (memory : Memory)
    (domain : Domain) (noted : List (ImportCall Body)) (world : World) :
    ((performAllWatched orders memory domain).run noted).run world =
      ((((performAll orders memory domain).run world).1,
          noted ++ (episodes orders memory domain world).flatMap ImportEpisode.calls),
        ((performAll orders memory domain).run world).2) := by
  induction orders generalizing memory domain noted world with
  | nil =>
      rw [episodes, List.flatMap_nil, List.append_nil]
      rfl
  | cons order orders ih =>
      have unrolled : ((performAllWatched (order :: orders) memory domain).run noted).run world =
          let first := ((order.performWatched memory domain).run noted).run world
          let rest :=
            ((performAllWatched orders first.1.1.memory first.1.1.domain).run first.1.2).run first.2
          ((first.1.1 :: rest.1.1, rest.1.2), rest.2) := rfl
      rw [unrolled, order.run_performWatched]
      dsimp only
      rw [ih, episodes, List.flatMap_cons, List.append_assoc]
      rfl

/-- Every import of a run is orderly. -/
theorem isOrderly_of_mem_episodes {orders : List (ImportOrder World Memory Body)} {memory : Memory}
    {domain : Domain} {world : World} {episode : ImportEpisode World Memory Body}
    (member : episode ∈ episodes orders memory domain world) : episode.IsOrderly := by
  induction orders generalizing memory domain world with
  | nil => cases member
  | cons order orders ih =>
      rcases List.mem_cons.mp member with rfl | member
      · exact (order.course memory domain world).isOrderly
      · exact ih member

/-- What was stored before an import is what it finds at the end of the history. -/
theorem before_of_episodes_eq {orders : List (ImportOrder World Memory Body)} {memory : Memory}
    {domain : Domain} {world : World} {earlier later : List (ImportEpisode World Memory Body)}
    {episode : ImportEpisode World Memory Body}
    (split : episodes orders memory domain world = earlier ++ episode :: later) :
    episode.before =
      { domain with history := domain.history ++ earlier.flatMap ImportEpisode.created } := by
  induction orders generalizing memory domain world earlier with
  | nil => simp [episodes] at split
  | cons order orders ih =>
      cases earlier with
      | nil =>
          cases (List.cons.inj split).1
          simp [ImportOrder.episode]
      | cons first earlier =>
          -- The rest of the run starts from the domain with what the first import has stored.
          rcases List.cons.inj split with ⟨rfl, rest⟩
          have stored := (order.course memory domain world).isOrderly.stored
          rw [ih rest, stored]
          simp [ImportOrder.episode]

/--
A run of imports, whatever provider and store answer, is a list of orderly imports, each of which
starts from the domain with all zones that were stored before.  Their calls are those that are noted
when the run is watched, which changes nothing of it.
-/
theorem episodes_of_performAll (orders : List (ImportOrder World Memory Body)) (memory : Memory)
    (domain : Domain) (world : World) :
    (episodes orders memory domain world).map ImportEpisode.order = orders
      ∧ (episodes orders memory domain world).map ImportEpisode.report =
        ((performAll orders memory domain).run world).1
      ∧ ((performAllWatched orders memory domain).run []).run world =
        ((((performAll orders memory domain).run world).1,
            (episodes orders memory domain world).flatMap ImportEpisode.calls),
          ((performAll orders memory domain).run world).2)
      ∧ (∀ episode ∈ episodes orders memory domain world, episode.IsOrderly)
      ∧ ∀ earlier episode later,
        episodes orders memory domain world = earlier ++ episode :: later →
          episode.before =
            { domain with
              history := domain.history ++ earlier.flatMap ImportEpisode.created } :=
  ⟨map_order_episodes orders memory domain world, map_report_episodes orders memory domain world,
    run_performAllWatched orders memory domain [] world,
    fun _ member => isOrderly_of_mem_episodes member,
    fun _ _ _ split => before_of_episodes_eq split⟩

end ImportOrder

end ZoneServices
