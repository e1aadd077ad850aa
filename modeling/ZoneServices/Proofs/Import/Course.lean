import Mathlib.Data.List.Basic
import ZoneServices.Kind.Builtin
import ZoneServices.Registry
import ZoneServices.Workflow

/-!
# The course of an import

Provider and store may answer an import in any way.  They act on a world of which nothing is known,
so an answer may depend on all that they were asked before.

An import is watched by noting every call with its answer, which changes nothing of the import.
There are six courses that it can take: it fails at one of its five steps, or it succeeds.
-/

namespace ZoneServices

/-! ## Watched imports -/

/-- A call to the provider or to the store in an import, with the answer that it got. -/
inductive ImportCall (Body : Type) where
  | check (name : Text) (answer : Except Complaint Unit)
  | list (name : Text) (answer : Except Complaint (List Record))
  | create (zone : Zone Body) (answer : Except Complaint ZoneId)
  | update (domain : Domain) (answer : Except Complaint Unit)

/-- A domain is not what it is with one more zone. -/
theorem Domain.push_ne (domain : Domain) (id : ZoneId) : domain.push id ≠ domain := by
  intro same
  simpa [Domain.push] using congrArg (List.length ∘ Domain.history) same

variable {World Memory Body : Type}

/-- Actions on a world that note the calls of an import. -/
abbrev Watched (World Body : Type) : Type → Type :=
  StateT (List (ImportCall Body)) (StateM World)

namespace Watched

/-- An action whose result is noted as a call. -/
def call {Answer : Type} (action : StateM World Answer) (note : Answer → ImportCall Body) :
    Watched World Body Answer := do
  let answer ← action
  modify (· ++ [note answer])
  return answer

/-- A noted action runs as it does otherwise, and its answer is noted behind the earlier ones. -/
theorem run_call_bind {Answer Result : Type} (action : StateM World Answer)
    (note : Answer → ImportCall Body) (next : Answer → Watched World Body Result)
    (calls : List (ImportCall Body)) (world : World) :
    ((call action note >>= next).run calls).run world =
      ((next (action.run world).1).run (calls ++ [note (action.run world).1])).run
        (action.run world).2 := rfl

end Watched

theorem run_bind {Answer Result : Type} (action : StateM World Answer)
    (next : Answer → StateM World Result) (world : World) :
    (action >>= next).run world = (next (action.run world).1).run (action.run world).2 := rfl

/-- A provider whose answers to an import are noted. -/
def RecordSource.watched (source : RecordSource (StateM World)) :
    RecordSource (Watched World Body) where
  checkDomain name := Watched.call (source.checkDomain name) (.check name)
  listRecords name := Watched.call (source.listRecords name) (.list name)
  pushRecords name records := liftM (source.pushRecords name records)

/-- A store whose answers to an import are noted. -/
def ZoneStore.watched (store : ZoneStore (StateM World) Body) :
    ZoneStore (Watched World Body) Body where
  createZone zone := Watched.call (store.createZone zone) (.create zone)
  updateDomain domain := Watched.call (store.updateDomain domain) (.update domain)

/-- What an import is asked for: by which registry, from where, to where, when and by whom. -/
structure ImportOrder (World Memory Body : Type) [ServiceBody Body] where
  registry : Registry Memory Body
  settings : Settings
  source : RecordSource (StateM World)
  store : ZoneStore (StateM World) Body
  now : Timestamp
  author : UserId

namespace ImportOrder

variable [ServiceBody Body]

/-- The zone that an import hands to the store. -/
def zoneOf (order : ImportOrder World Memory Body) (analysis : Analysis Body) : Zone Body :=
  { Zone.ofAnalysis analysis order.now with
    header := { (Zone.ofAnalysis analysis order.now).header with author := order.author } }

theorem authored_ofAnalysis (order : ImportOrder World Memory Body) (analysis : Analysis Body) :
    { Zone.ofAnalysis analysis order.now with
      header := { (Zone.ofAnalysis analysis order.now).header with author := order.author } } =
        order.zoneOf analysis := rfl

variable [Hosts Body Orphan]

/-- The import that an order asks for. -/
def perform (order : ImportOrder World Memory Body) (memory : Memory) (domain : Domain) :
    StateM World (ImportReport Memory Body) :=
  importZone order.registry order.settings order.source order.store order.now order.author memory
    domain

/-- The import that an order asks for, watched. -/
def performWatched (order : ImportOrder World Memory Body) (memory : Memory) (domain : Domain) :
    Watched World Body (ImportReport Memory Body) :=
  importZone order.registry order.settings order.source.watched order.store.watched order.now
    order.author memory domain

/-- The courses of an import: the calls that it makes and what it reports. -/
inductive Course (order : ImportOrder World Memory Body) (memory : Memory) (domain : Domain) :
    List (ImportCall Body) → ImportReport Memory Body → Prop
  | unknown (complaint : Complaint) :
      Course order memory domain [.check domain.name (.error complaint)]
        ⟨.error (.source domain.name complaint), domain, none, memory⟩
  | unlisted (complaint : Complaint) :
      Course order memory domain
        [.check domain.name (.ok ()), .list domain.name (.error complaint)]
        ⟨.error (.source domain.name complaint), domain, none, memory⟩
  | unanalysed (records : List Record) (error : AnalysisError) (after : Memory)
      (analysed : order.registry.analyzeIn order.settings memory domain.name records =
        (.error error, after)) :
      Course order memory domain [.check domain.name (.ok ()), .list domain.name (.ok records)]
        ⟨.error (.analysis error), domain, some (.error error), after⟩
  | unstored (records : List Record) (analysis : Analysis Body) (after : Memory)
      (analysed : order.registry.analyzeIn order.settings memory domain.name records =
        (.ok analysis, after))
      (complaint : Complaint) :
      Course order memory domain
        [.check domain.name (.ok ()), .list domain.name (.ok records),
          .create (order.zoneOf analysis) (.error complaint)]
        ⟨.error (.storage domain.name complaint), domain, some (.ok analysis), after⟩
  | unsaved (records : List Record) (analysis : Analysis Body) (after : Memory)
      (analysed : order.registry.analyzeIn order.settings memory domain.name records =
        (.ok analysis, after))
      (id : ZoneId) (complaint : Complaint) :
      Course order memory domain
        [.check domain.name (.ok ()), .list domain.name (.ok records),
          .create (order.zoneOf analysis) (.ok id), .update (domain.push id) (.error complaint)]
        ⟨.error (.storage domain.name complaint), domain.push id, some (.ok analysis), after⟩
  | saved (records : List Record) (analysis : Analysis Body) (after : Memory)
      (analysed : order.registry.analyzeIn order.settings memory domain.name records =
        (.ok analysis, after))
      (id : ZoneId) :
      Course order memory domain
        [.check domain.name (.ok ()), .list domain.name (.ok records),
          .create (order.zoneOf analysis) (.ok id), .update (domain.push id) (.ok ())]
        ⟨.ok id, domain.push id, some (.ok analysis), after⟩

/-- What an import comes to. -/
def report (order : ImportOrder World Memory Body) (memory : Memory) (domain : Domain)
    (world : World) : ImportReport Memory Body :=
  ((order.perform memory domain).run world).1

/-- The world that an import leaves. -/
def worldAfter (order : ImportOrder World Memory Body) (memory : Memory) (domain : Domain)
    (world : World) : World :=
  ((order.perform memory domain).run world).2

/-- The calls that an import makes. -/
def calls (order : ImportOrder World Memory Body) (memory : Memory) (domain : Domain)
    (world : World) : List (ImportCall Body) :=
  (((order.performWatched memory domain).run []).run world).1.2

/-- Whatever was noted before, the calls of an import are noted behind it. -/
theorem exists_course (order : ImportOrder World Memory Body) (memory : Memory) (domain : Domain)
    (world : World) :
    ∃ calls report after,
      (∀ noted, ((order.performWatched memory domain).run noted).run world =
          ((report, noted ++ calls), after))
        ∧ (order.perform memory domain).run world = (report, after)
        ∧ order.Course memory domain calls report := by
  -- Both runs ask the same at each step, and the answer decides which step is next.
  simp only [performWatched, perform, importZone, RecordSource.watched, ZoneStore.watched,
    Watched.run_call_bind, run_bind]
  rcases (order.source.checkDomain domain.name).run world with ⟨complaint | _, second⟩
  · exact ⟨_, _, second, fun _ => rfl, rfl, .unknown complaint⟩
  simp only [Watched.run_call_bind, run_bind, List.append_assoc]
  rcases (order.source.listRecords domain.name).run second with ⟨complaint | records, third⟩
  · exact ⟨_, _, third, fun _ => rfl, rfl, .unlisted complaint⟩
  rcases analysed : order.registry.analyzeIn order.settings memory domain.name records with
    ⟨error | analysis, memory'⟩
  · refine ⟨_, _, third, ?_, ?_, .unanalysed records error memory' analysed⟩
    · intro noted
      simp only [analysed]
      rfl
    · simp only [analysed]
      rfl
  simp only [analysed, Watched.run_call_bind, run_bind, authored_ofAnalysis, List.append_assoc]
  rcases (order.store.createZone (order.zoneOf analysis)).run third with
    ⟨complaint | id, fourth⟩
  · exact ⟨_, _, fourth, fun _ => rfl, rfl, .unstored records analysis memory' analysed complaint⟩
  simp only [Watched.run_call_bind, run_bind, List.append_assoc]
  rcases (order.store.updateDomain (domain.push id)).run fourth with ⟨complaint | _, fifth⟩
  · exact ⟨_, _, fifth, fun _ => rfl, rfl,
      .unsaved records analysis memory' analysed id complaint⟩
  · exact ⟨_, _, fifth, fun _ => rfl, rfl, .saved records analysis memory' analysed id⟩

/-- An import that is watched reports and leaves what it does otherwise, and notes its calls. -/
theorem run_performWatched (order : ImportOrder World Memory Body) (memory : Memory)
    (domain : Domain) (noted : List (ImportCall Body)) (world : World) :
    ((order.performWatched memory domain).run noted).run world =
      ((order.report memory domain world, noted ++ order.calls memory domain world),
        order.worldAfter memory domain world) := by
  obtain ⟨calls, report, after, watched, performed, -⟩ :=
    order.exists_course memory domain world
  rw [ImportOrder.report, ImportOrder.calls, worldAfter, watched, watched, performed,
    List.nil_append]

/-- Every import takes one of the six courses. -/
theorem course (order : ImportOrder World Memory Body) (memory : Memory) (domain : Domain)
    (world : World) :
    order.Course memory domain (order.calls memory domain world)
      (order.report memory domain world) := by
  obtain ⟨calls, report, after, watched, performed, course⟩ :=
    order.exists_course memory domain world
  rw [ImportOrder.report, ImportOrder.calls, watched, performed, List.nil_append]
  exact course

/-! ## Failed imports -/

/--
A failed import leaves the domain as it was, unless it is the store that refuses to save the domain:
the history then keeps the zone that was stored for it.
-/
theorem domain_report_of_failed (order : ImportOrder World Memory Body) (memory : Memory)
    (domain : Domain) (world : World) {error : ImportError}
    (failed : (order.report memory domain world).result = .error error) :
    ((order.report memory domain world).domain = domain ↔
      ∀ saved complaint,
        ImportCall.update saved (.error complaint) ∉ order.calls memory domain world)
      ∧ ∀ saved complaint,
        ImportCall.update saved (.error complaint) ∈ order.calls memory domain world →
          (order.report memory domain world).domain = saved
            ∧ ∃ zone id, ImportCall.create zone (.ok id) ∈ order.calls memory domain world
              ∧ saved = domain.push id := by
  have course := order.course memory domain world
  generalize order.report memory domain world = report at course failed ⊢
  generalize order.calls memory domain world = calls at course ⊢
  cases course with
  | unknown | unlisted | unanalysed | unstored => simp
  | unsaved records analysis after analysed id complaint =>
      constructor
      · simp [Domain.push_ne]
      · intro saved complaint asked
        have same : saved = domain.push id := by simp_all
        exact ⟨same.symm, order.zoneOf analysis, id, by simp, same⟩
  | saved => cases failed

/-- Imports of one address into a store that answers as given. -/
def hostOrder (created : Except Complaint ZoneId) (updated : Except Complaint Unit) :
    ImportOrder Unit Unit Builtin where
  registry := .builtin
  settings := {}
  source :=
    { checkDomain := fun _ => pure (.ok ())
      listRecords := fun _ =>
        pure (.ok [⟨"example.com.".toList, .a, 300, "192.0.2.1".toList⟩])
      pushRecords := fun _ _ => pure (.ok ()) }
  store :=
    { createZone := fun _ => pure created
      updateDomain := fun _ => pure updated }
  now := .epoch
  author := ⟨1⟩

/-- A domain of which no zone was taken. -/
def freshDomain : Domain :=
  ⟨⟨0⟩, ⟨1⟩, ⟨1⟩, "example.com.".toList, [], []⟩

theorem domain_report_of_failed_of_hostOrder :
    ((hostOrder (.error ⟨["disk full".toList]⟩) (.ok ())).report () freshDomain ()).result =
        .error (.storage "example.com.".toList ⟨["disk full".toList]⟩)
      ∧ ((hostOrder (.error ⟨["disk full".toList]⟩) (.ok ())).report () freshDomain ()).domain =
        freshDomain := by
  have failed : ((hostOrder (.error ⟨["disk full".toList]⟩) (.ok ())).report () freshDomain
      ()).result = .error (.storage "example.com.".toList ⟨["disk full".toList]⟩) := by
    decide +kernel
  have unsaved : ((hostOrder (.error ⟨["disk full".toList]⟩) (.ok ())).calls () freshDomain
      ()).all (fun call => match call with | .update .. => false | _ => true) = true := by
    decide +kernel
  refine ⟨failed, (domain_report_of_failed _ () freshDomain () failed).1.mpr ?_⟩
  intro saved complaint asked
  exact Bool.noConfusion (List.all_eq_true.mp unsaved _ asked)

/-- Not every failed import leaves the domain as it was. -/
theorem domain_report_ne_of_hostOrder :
    ((hostOrder (.ok ⟨1⟩) (.error ⟨["disk full".toList]⟩)).report () freshDomain ()).result =
        .error (.storage "example.com.".toList ⟨["disk full".toList]⟩)
      ∧ ((hostOrder (.ok ⟨1⟩) (.error ⟨["disk full".toList]⟩)).report () freshDomain
        ()).domain.history = [⟨1⟩]
      ∧ freshDomain.history = [] := by
  decide +kernel

end ImportOrder

end ZoneServices
