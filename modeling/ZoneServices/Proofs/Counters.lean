import Mathlib.Algebra.Ring.Nat
import ZoneServices.Proofs.Analysis.Kinds
import ZoneServices.Zone.Synthesis

/-!
# Counters that add up

Counters go through any number of analyses and syntheses, each of which counts at its own ends.
Orphans are counted by the sweep, all other services by the kinds that the finished analysis shows;
the two add up to the services of the analysis as long as no recognizer makes orphans of its own.
What one analysis or one synthesis adds is stated first, and a whole run is an induction over what
was done.

Numbers are counted here without a bound.
-/

namespace ZoneServices

open Directory

/-! ## Counting under texts -/

namespace Counters

/-- Each key is counted as often as it occurs. -/
theorem get?_foldl_countUnder (keys : List Text) (directory : Directory Nat) (key : Text) :
    ((keys.foldl countUnder directory).get? key).getD 0 =
      (directory.get? key).getD 0 + keys.count key := by
  induction keys generalizing directory with
  | nil => rfl
  | cons first rest step =>
      rw [List.foldl_cons, step, countUnder, get?_alter, List.count_cons]
      by_cases same : key = first
      · subst same
        simp
        omega
      · simp [same, Ne.symm same]

theorem sum_values_countUnder (directory : Directory Nat) (key : Text) :
    (countUnder directory key).values.sum = directory.values.sum + 1 := by
  change ((alterEntries key _ directory.entries).map Prod.snd).sum =
    (directory.entries.map Prod.snd).sum + 1
  induction directory.entries with
  | nil => rfl
  | cons first rest step =>
      rw [alterEntries]
      split
      · simp only [List.map_cons, List.sum_cons, Option.getD_some]
        omega
      · split
        · simp only [List.map_cons, List.sum_cons, Option.getD_none]
          omega
        · simp only [List.map_cons, List.sum_cons, step]
          omega

theorem sum_values_foldl_countUnder (keys : List Text) (directory : Directory Nat) :
    (keys.foldl countUnder directory).values.sum = directory.values.sum + keys.length := by
  induction keys generalizing directory with
  | nil => rfl
  | cons first rest step =>
      rw [List.foldl_cons, step, sum_values_countUnder, List.length_cons]
      omega

/-- Counting recognized services changes nothing but their counts. -/
theorem foldl_countRecognized (kinds : List Text) (counters : Counters) :
    kinds.foldl countRecognized counters =
      { counters with recognized := kinds.foldl countUnder counters.recognized } := by
  induction kinds generalizing counters with
  | nil => rfl
  | cons kind rest step => rw [List.foldl_cons, step, List.foldl_cons, countRecognized]

/-- Counting services that could not be written changes nothing but their counts. -/
theorem foldl_countUnwritten (kinds : List Text) (counters : Counters) :
    kinds.foldl countUnwritten counters =
      { counters with unwritten := kinds.foldl countUnder counters.unwritten } := by
  induction kinds generalizing counters with
  | nil => rfl
  | cons kind rest step => rw [List.foldl_cons, step, List.foldl_cons, countUnwritten]

end Counters

variable {Memory Body : Type}

/-- A success counts the recognized services, the leftover records and itself. -/
theorem Counters.afterAnalysis_ok (counters : Counters) (analysis : Analysis Body) :
    counters.afterAnalysis (.ok analysis) =
      { counters with
        succeeded := counters.succeeded + 1
        recognized := analysis.recognizedKinds.foldl countUnder counters.recognized
        orphans := counters.orphans + analysis.orphans
        dropped := counters.dropped + analysis.dropped } := by
  rw [afterAnalysis, foldl_countRecognized]
  rfl

theorem Counters.afterSynthesis_eq (counters : Counters) (synthesis : Synthesis) :
    counters.afterSynthesis synthesis =
      { counters with
        unwritten := (synthesis.failures.map fun failure => failure.kind).foldl countUnder
          counters.unwritten } :=
  foldl_countUnwritten _ _

/-! ## What one analysis and one synthesis add -/

/-- The analyses that have succeeded. -/
def finished (outcomes : List (Except AnalysisError (Analysis Body))) : List (Analysis Body) :=
  outcomes.filterMap Except.toOption

theorem finished_append_error (outcomes : List (Except AnalysisError (Analysis Body)))
    (error : AnalysisError) : finished (outcomes ++ [.error error]) = finished outcomes := by
  rw [finished, List.filterMap_append]
  exact List.append_nil _

theorem finished_append_ok (outcomes : List (Except AnalysisError (Analysis Body)))
    (analysis : Analysis Body) :
    finished (outcomes ++ [.ok analysis]) = finished outcomes ++ [analysis] := by
  rw [finished, List.filterMap_append]
  rfl

/-- Whether counters add up to what analyses have ended in and what syntheses have reported. -/
structure Counters.AddUpTo (counters : Counters)
    (outcomes : List (Except AnalysisError (Analysis Body))) (syntheses : List Synthesis) :
    Prop where
  succeeded : counters.succeeded = outcomes.countP (·.isOk)
  failed : counters.failed = outcomes.countP (!·.isOk)
  /-- Services are counted under their kinds, orphans apart. -/
  recognized : ∀ kind, kind ≠ ServiceKind.key Orphan →
    (counters.recognized.get? kind).getD 0 =
      ((finished outcomes).flatMap Analysis.allServices).countP (·.header.kind == kind)
  /-- No service is counted twice or not at all. -/
  services : counters.recognized.values.sum + counters.orphans =
    ((finished outcomes).flatMap Analysis.allServices).length
  dropped : counters.dropped = ((finished outcomes).map Analysis.dropped).sum
  unwritten : ∀ kind, (counters.unwritten.get? kind).getD 0 =
    (syntheses.flatMap Synthesis.failures).countP (·.kind == kind)

theorem countP_kind (analysis : Analysis Body) (kind : Text) :
    analysis.allServices.countP (·.header.kind == kind) =
      (kindsOf analysis.services).count kind := by
  rw [kindsOf, List.count, List.countP_map]
  rfl

/-- All services of a kind are counted as recognized, unless they are orphans. -/
theorem count_recognizedKinds (analysis : Analysis Body) {kind : Text}
    (other : kind ≠ ServiceKind.key Orphan) :
    analysis.recognizedKinds.count kind = (kindsOf analysis.services).count kind :=
  List.count_filter (by simpa using other)

theorem length_recognizedKinds (analysis : Analysis Body) :
    analysis.recognizedKinds.length
        + (kindsOf analysis.services).count (ServiceKind.key Orphan) =
      analysis.allServices.length := by
  have all : analysis.allServices.length = (kindsOf analysis.services).length :=
    (List.length_map _).symm
  have parts : (kindsOf analysis.services).length =
      ((kindsOf analysis.services).filter (· == ServiceKind.key Orphan)).length
        + analysis.recognizedKinds.length :=
    List.length_eq_length_filter_add (· == ServiceKind.key Orphan)
  rw [all, parts, Nat.add_comm, List.count, List.countP_eq_length_filter]

namespace Counters.AddUpTo

variable {counters : Counters} {outcomes : List (Except AnalysisError (Analysis Body))}
  {syntheses : List Synthesis}

theorem start : AddUpTo {} ([] : List (Except AnalysisError (Analysis Body))) [] where
  succeeded := rfl
  failed := rfl
  recognized _ _ := rfl
  services := rfl
  dropped := rfl
  unwritten _ := rfl

/-- An analysis that fails is counted as such, and adds nothing else. -/
theorem failure (addUp : AddUpTo counters outcomes syntheses) (error : AnalysisError) :
    AddUpTo (counters.afterAnalysis (.error error : Except _ (Analysis Body)))
      (outcomes ++ [.error error]) syntheses where
  succeeded := by
    rw [List.countP_append]
    exact addUp.succeeded
  failed := by
    rw [List.countP_append, ← addUp.failed]
    rfl
  recognized := by
    rw [finished_append_error]
    exact addUp.recognized
  services := by
    rw [finished_append_error]
    exact addUp.services
  dropped := by
    rw [finished_append_error]
    exact addUp.dropped
  unwritten := addUp.unwritten

/-- An analysis adds all of its services if it has counted its orphans. -/
theorem success (addUp : AddUpTo counters outcomes syntheses) {analysis : Analysis Body}
    (orphans : (kindsOf analysis.services).count (ServiceKind.key Orphan) = analysis.orphans) :
    AddUpTo (counters.afterAnalysis (.ok analysis)) (outcomes ++ [.ok analysis]) syntheses where
  succeeded := by
    rw [List.countP_append, ← addUp.succeeded, afterAnalysis_ok]
    rfl
  failed := by
    rw [List.countP_append, afterAnalysis_ok]
    exact addUp.failed
  recognized := by
    intro kind other
    rw [afterAnalysis_ok, get?_foldl_countUnder, addUp.recognized kind other,
      count_recognizedKinds analysis other, ← countP_kind, finished_append_ok,
      List.flatMap_append, List.countP_append, List.flatMap_singleton]
  services := by
    have added := length_recognizedKinds analysis
    have before := addUp.services
    rw [orphans] at added
    rw [finished_append_ok, List.flatMap_append, List.length_append, List.flatMap_singleton,
      afterAnalysis_ok]
    dsimp only
    rw [sum_values_foldl_countUnder]
    omega
  dropped := by
    rw [finished_append_ok, List.map_append, List.sum_append, ← addUp.dropped, afterAnalysis_ok]
    rfl
  unwritten := by
    rw [afterAnalysis_ok]
    exact addUp.unwritten

/-- A synthesis adds the services that it reports. -/
theorem synthesis (addUp : AddUpTo counters outcomes syntheses) (made : Synthesis) :
    AddUpTo (counters.afterSynthesis made) outcomes (syntheses ++ [made]) := by
  rw [afterSynthesis_eq]
  refine ⟨addUp.succeeded, addUp.failed, addUp.recognized, addUp.services, addUp.dropped, ?_⟩
  intro kind
  rw [get?_foldl_countUnder, addUp.unwritten kind, List.flatMap_append,
    List.countP_append, List.flatMap_singleton, List.count, List.countP_map]
  rfl

end Counters.AddUpTo

/-! ## Runs -/

/-- What counters go through: an analysis of some records, or a synthesis of a zone. -/
inductive Work (Memory Body : Type) [ServiceBody Body] where
  | analysis (registry : Registry Memory Body) (settings : Settings) (memory : Memory)
      (origin : Text) (records : List Record)
  | synthesis (zone : Zone Body) (origin : Text)

variable [ServiceBody Body] [Hosts Body Orphan]

namespace Work

/-- What an analysis ends in. -/
def outcome? : Work Memory Body → Option (Except AnalysisError (Analysis Body))
  | .analysis registry settings memory origin records =>
    some (registry.analyzeIn settings memory origin records).1
  | .synthesis _ _ => none

/-- What a synthesis makes. -/
def synthesis? : Work Memory Body → Option Synthesis
  | .analysis _ _ _ _ _ => none
  | .synthesis zone origin => some (zone.generate origin)

/-- Whether this is an analysis that fails. -/
def fails (work : Work Memory Body) : Bool :=
  work.outcome?.any (!·.isOk)

/-- Whether no recognizer that takes part makes an orphan, which is left to the sweep. -/
def LeavesOrphans : Work Memory Body → Prop
  | .analysis registry settings memory origin records =>
    ServiceKind.key Orphan ∉ kindsMade (claimsOf (Registry.exchanges
      ⟨.start origin records settings.emptyTtl, memory⟩ registry.entries))
  | .synthesis _ _ => True

omit [Hosts Body Orphan] in
theorem leavesOrphans_of_makesNo {registry : Registry Memory Body}
    (makesNo : registry.MakesNo (ServiceKind.key Orphan)) (settings : Settings) (memory : Memory)
    (origin : Text) (records : List Record) :
    (Work.analysis registry settings memory origin records).LeavesOrphans :=
  not_mem_kindsMade_exchanges makesNo _

end Work

namespace Counters

/-- The counters that have gone through some work. -/
def after (counters : Counters) : Work Memory Body → Counters
  | .analysis registry settings memory origin records =>
    (registry.analyzeCounted settings counters memory origin records).2
  | .synthesis zone origin => (zone.generateCounted counters origin).2

/-- What has been counted when some work is done, from the beginning. -/
def afterAll (works : List (Work Memory Body)) : Counters :=
  works.foldl after {}

/-- What a pass counts can be told from what it has ended in. -/
theorem after_analysis (counters : Counters) (registry : Registry Memory Body)
    (settings : Settings) (memory : Memory) (origin : Text) (records : List Record) :
    counters.after (.analysis registry settings memory origin records) =
      counters.afterAnalysis (registry.analyzeIn settings memory origin records).1 := by
  rw [after, Registry.analyzeCounted_eq]

/-- What a synthesis counts can be told from what it reports. -/
theorem after_synthesis (counters : Counters) (zone : Zone Body) (origin : Text) :
    counters.after (.synthesis zone origin : Work Memory Body) =
      counters.afterSynthesis (zone.generate origin) := by
  rw [after, Zone.generateCounted_eq]

theorem afterAll_append_singleton (works : List (Work Memory Body)) (work : Work Memory Body) :
    afterAll (works ++ [work]) = (afterAll works).after work :=
  List.foldl_append ..

/-- Counters that add up still do so when they have gone through some work. -/
theorem AddUpTo.after {counters : Counters}
    {outcomes : List (Except AnalysisError (Analysis Body))} {syntheses : List Synthesis}
    (addUp : AddUpTo counters outcomes syntheses) {work : Work Memory Body}
    (leaves : work.LeavesOrphans) :
    AddUpTo (counters.after work) (outcomes ++ [work].filterMap Work.outcome?)
      (syntheses ++ [work].filterMap Work.synthesis?) := by
  cases work with
  | analysis registry settings memory origin records =>
      rw [after_analysis]
      change AddUpTo (counters.afterAnalysis _)
        (outcomes ++ [(registry.analyzeIn settings memory origin records).1]) (syntheses ++ [])
      rw [List.append_nil]
      cases analyzed : (registry.analyzeIn settings memory origin records).1 with
      | error error => exact addUp.failure error
      | ok analysis => exact addUp.success (count_kindsOf_of_analyzeIn leaves analyzed)
  | synthesis zone origin =>
      rw [after_synthesis]
      change AddUpTo (counters.afterSynthesis _) (outcomes ++ [])
        (syntheses ++ [zone.generate origin])
      rw [List.append_nil]
      exact addUp.synthesis _

/-- An analysis that fails is counted as one that failed, and leaves all other counters alone. -/
theorem after_of_fails (counters : Counters) {work : Work Memory Body} (fails : work.fails = true) :
    counters.after work = { counters with failed := counters.failed + 1 } := by
  cases work with
  | analysis registry settings memory origin records =>
      rw [Work.fails, Work.outcome?, Option.any_some] at fails
      rw [after_analysis]
      cases analyzed : (registry.analyzeIn settings memory origin records).1 with
      | error error => rfl
      | ok analysis =>
          rw [analyzed] at fails
          cases fails
  | synthesis zone origin => cases fails

/-- Other work does not look at how many analyses have failed. -/
theorem after_of_not_fails (counters : Counters) {work : Work Memory Body}
    (succeeds : work.fails = false) (failed : Nat) :
    { counters with failed }.after work = { counters.after work with failed } := by
  cases work with
  | analysis registry settings memory origin records =>
      rw [Work.fails, Work.outcome?, Option.any_some] at succeeds
      rw [after_analysis, after_analysis]
      cases analyzed : (registry.analyzeIn settings memory origin records).1 with
      | error error =>
          rw [analyzed] at succeeds
          cases succeeds
      | ok analysis =>
          rw [afterAnalysis_ok, afterAnalysis_ok]
  | synthesis zone origin =>
      rw [after_synthesis, after_synthesis, afterSynthesis_eq, afterSynthesis_eq]

/--
Whatever analyses and syntheses there are, the counters add up to what they ended in.  Analyses
that fail could be left out, except that their number is counted.
-/
theorem addUpTo_afterAll (works : List (Work Memory Body))
    (leaves : ∀ work ∈ works, work.LeavesOrphans) :
    (afterAll works).AddUpTo (works.filterMap Work.outcome?) (works.filterMap Work.synthesis?)
      ∧ afterAll works =
        { afterAll (works.filter (!·.fails)) with failed := works.countP Work.fails } := by
  -- The last work is taken off, because counters go through the others before it.
  induction works using List.reverseRecOn with
  | nil => exact ⟨.start, rfl⟩
  | append_singleton works work step =>
      rcases List.forall_mem_append.mp leaves with ⟨earlier, last⟩
      rcases step earlier with ⟨addUp, apart⟩
      rw [afterAll_append_singleton]
      constructor
      · rw [List.filterMap_append, List.filterMap_append]
        exact addUp.after (last work List.mem_cons_self)
      · rw [List.filter_append, List.countP_append, List.countP_singleton, List.filter_singleton]
        cases fails : work.fails with
        | true =>
            rw [after_of_fails _ fails, apart, Bool.not_true, Bool.cond_false, List.append_nil]
            rfl
        | false =>
            rw [Bool.not_false, Bool.cond_true, afterAll_append_singleton,
              ← after_of_not_fails _ fails, apart]
            rfl

/-- An address, a text that nothing recognizes and a signature. -/
def leftoverZone : List Record :=
  [ ⟨"www.example.com.".toList, .a, 300, "192.0.2.1".toList⟩,
    ⟨"example.com.".toList, .txt, 300, "\"v=spf1 -all\"".toList⟩,
    ⟨"example.com.".toList, ⟨46⟩, 300, []⟩ ]

/-- A zone whose alias has no target. -/
def looseZone : Zone Builtin where
  header := ⟨⟨1⟩, ⟨1⟩, 300, .epoch, none, none, none⟩
  services := .ofList
    [("old".toList, [.ofBody (.link ⟨[]⟩) (.ofRecord ⟨"old.example.com.".toList, .cname, 0, []⟩)
      "old".toList 0 "example.com.".toList])]

/-- An analysis, an analysis of more records than the settings allow, and a synthesis. -/
def mixedWorks : List (Work Unit Builtin) :=
  [ .analysis Registry.builtin {} () "example.com.".toList leftoverZone,
    .analysis Registry.builtin { maxRecords := 2 } () "example.com.".toList leftoverZone,
    .synthesis looseZone "example.com.".toList ]

theorem addUpTo_afterAll_of_mixedWorks :
    (∀ work ∈ mixedWorks, work.LeavesOrphans)
      ∧ (afterAll mixedWorks).AddUpTo (mixedWorks.filterMap Work.outcome?)
        (mixedWorks.filterMap Work.synthesis?)
      ∧ (afterAll mixedWorks).succeeded = 1 ∧ (afterAll mixedWorks).failed = 1
      ∧ (afterAll mixedWorks).recognized.entries = [("abstract.Server".toList, 1)]
      ∧ (afterAll mixedWorks).orphans = 1 ∧ (afterAll mixedWorks).dropped = 1
      ∧ (afterAll mixedWorks).unwritten.entries = [("svcs.CNAME".toList, 1)] := by
  have leaves : ∀ work ∈ mixedWorks, work.LeavesOrphans := by
    simp only [mixedWorks, List.forall_mem_cons]
    exact ⟨Work.leavesOrphans_of_makesNo Registry.makesNo_builtin _ _ _ _,
      Work.leavesOrphans_of_makesNo Registry.makesNo_builtin _ _ _ _, trivial,
      fun _ member => absurd member List.not_mem_nil⟩
  refine ⟨leaves, (addUpTo_afterAll mixedWorks leaves).1, ?_⟩
  decide +kernel

end Counters

end ZoneServices
