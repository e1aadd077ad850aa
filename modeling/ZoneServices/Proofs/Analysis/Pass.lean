import ZoneServices.Analysis.Pass
import ZoneServices.Proofs.Analysis.History

/-!
# What a whole analysis has claimed

In a whole analysis the recognizers of a registry take their turns, up to the first that fails,
and then every record that is still free is swept up.  The sweep drops a record or makes an orphan
of it, so it adds to the claims of the recognizers, and every service of the analysis stems from
the record that one of these claims was on.

A service keeps the time to live of that record, with zero for that of the zone.  So the time to
live is recovered unless it is zero itself and that of the zone is not.
-/

namespace ZoneServices

open Directory

variable {Memory Body : Type} [ServiceBody Body]

/-! ## The turns of the recognizers -/

/-- The exchanges of the recognizers of some entries, up to the first that fails. -/
def Registry.exchanges (scene : Scene Memory Body) :
    List (RegistryEntry Memory Body) → List (Exchange Memory Body)
  | [] => []
  | entry :: rest =>
    match entry.recognizer with
    | none => exchanges scene rest
    | some recognizer =>
      recognizer.exchanges (scene.turnTo entry.kind)
        ++ match recognizer.run (scene.turnTo entry.kind) with
           | (.ok (), scene) => exchanges scene rest
           | (.error _, _) => []

/-- What recognizers do one after the other is a history of the scene. -/
theorem leads_runRecognizers (scene : Scene Memory Body)
    (entries : List (RegistryEntry Memory Body)) :
    scene.Leads (Registry.exchanges scene entries) (Registry.runRecognizers scene entries).2 := by
  induction entries generalizing scene with
  | nil => exact .nothing
  | cons entry rest step =>
      rw [Registry.exchanges, Registry.runRecognizers]
      cases entry.recognizer with
      | none => exact step scene
      | some recognizer =>
          have turned : scene.Leads [] (scene.turnTo entry.kind) := Scene.Leads.nothing.turn _
          have course := turned.trans (recognizer.leads_run (scene.turnTo entry.kind))
          rw [List.nil_append] at course
          have ready : { scene with analyzer := { scene.analyzer with running := entry.kind } } =
              scene.turnTo entry.kind := rfl
          dsimp only
          rw [ready]
          rcases ran : recognizer.run (scene.turnTo entry.kind) with ⟨outcome, after⟩
          rw [ran] at course
          cases outcome with
          | ok result => exact course.trans (step after)
          | error failure =>
              rw [List.append_nil]
              exact course

/-! ## The sweep -/

variable [Hosts Body Orphan]

namespace Analyzer

/-- The claim of the sweep on a record that is still free. -/
def sweepClaim? (analyzer : Analyzer Body) (id : Nat) (cell : Cell) : Option Claim :=
  if cell.claimed then
    none
  else if analyzer.isDropped cell.record then
    some (.drop id)
  else
    let subdomain := Owner.relativeTo cell.record.owner analyzer.origin
    some (.service id ⟨subdomain, (analyzer.servicesOn subdomain).length⟩
      (ServiceBody.kindKey (Hosts.inject (Orphan.ofRecord cell.record) : Body)))

/-- The claims of the sweep on the cells from a place on. -/
def sweepClaims (state : Analyzer Body × Nat) (id : Nat) : List Cell → List Claim
  | [] => []
  | cell :: rest =>
    (state.1.sweepClaim? id cell).toList ++ sweepClaims (sweepCell state cell) (id + 1) rest

end Analyzer

variable {premises : Premises} {records : List Record} {earlier : List Claim}

/-- A record that is swept is filed as its claim says. -/
theorem AreFiled.sweepCell {state : Analyzer Body × Nat}
    (filed : AreFiled premises records earlier state.1.services)
    (under : state.1.premises = premises) {id : Nat} {cell : Cell}
    (known : records[id]? = some cell.record) :
    AreFiled premises records (earlier ++ (state.1.sweepClaim? id cell).toList)
      (Analyzer.sweepCell state cell).1.services := by
  rw [Analyzer.sweepCell, Analyzer.sweepClaim?]
  split
  · rw [Option.toList_none, List.append_nil]
    exact filed
  · split
    · exact filed.other rfl
    · subst under
      exact filed.service known cell.record.owner _

theorem premises_sweepCell (state : Analyzer Body × Nat) (cell : Cell) :
    (Analyzer.sweepCell state cell).1.premises = state.1.premises := by
  rw [Analyzer.sweepCell]
  split
  · rfl
  · split <;> rfl

/-- The sweep files an orphan where it claims to. -/
theorem AreFiled.sweepCells {cells : List Cell} (state : Analyzer Body × Nat) {id : Nat}
    (filed : AreFiled premises records earlier state.1.services)
    (under : state.1.premises = premises) (known : cells.map (·.record) = records.drop id) :
    AreFiled premises records (earlier ++ Analyzer.sweepClaims state id cells)
        (cells.foldl Analyzer.sweepCell state).1.services
      ∧ (cells.foldl Analyzer.sweepCell state).1.premises = premises := by
  induction cells generalizing state id earlier with
  | nil =>
      rw [Analyzer.sweepClaims, List.append_nil]
      exact ⟨filed, under⟩
  | cons cell rest step =>
      have here : records[id]? = some cell.record := by
        rw [← List.head?_drop, ← known]
        rfl
      have behind : rest.map (·.record) = records.drop (id + 1) := by
        rw [← List.tail_drop, ← known]
        rfl
      rw [List.foldl_cons, Analyzer.sweepClaims, ← List.append_assoc]
      exact step _ (filed.sweepCell under here) ((premises_sweepCell state cell).trans under) behind

/-! ## The whole analysis -/

/-- The claims of a whole analysis, those of the sweep behind those of the recognizers. -/
def Registry.claims (registry : Registry Memory Body) (settings : Settings) (memory : Memory)
    (origin : Text) (records : List Record) : List Claim :=
  let start : Scene Memory Body := ⟨.start origin records settings.emptyTtl, memory⟩
  let ended := (runRecognizers start registry.entries).2.analyzer
  claimsOf (exchanges start registry.entries) ++ Analyzer.sweepClaims (ended, 0) 0 ended.cells

/-- An analysis that succeeds is the sweep of what all recognizers have left. -/
theorem Registry.exists_sweep_of_analyzeIn {registry : Registry Memory Body} {settings : Settings}
    {memory : Memory} {origin : Text} {records : List Record} {analysis : Analysis Body}
    (analyzed : (registry.analyzeIn settings memory origin records).1 = .ok analysis) :
    ∃ ended, runRecognizers ⟨.start origin records settings.emptyTtl, memory⟩ registry.entries =
        (.ok (), ended)
      ∧ ended.analyzer.sweep = analysis := by
  by_cases exceeds : settings.maxRecords < records.length
  · rw [registry.analyzeIn_of_exceeds exceeds] at analyzed
    cases analyzed
  · rw [registry.analyzeIn_of_fits (Nat.le_of_not_lt exceeds)] at analyzed
    rcases ran : runRecognizers
      (⟨.start origin records settings.emptyTtl, memory⟩ : Scene Memory Body)
      registry.entries with ⟨outcome, ended⟩
    rw [ran] at analyzed
    cases outcome with
    | error error => cases analyzed
    | ok done =>
        cases analyzed
        exact ⟨ended, rfl, rfl⟩

/-- The services of an analysis are those that its claims have made. -/
theorem areFiled_of_analyzeIn {registry : Registry Memory Body} {settings : Settings}
    {memory : Memory} {origin : Text} {records : List Record} {analysis : Analysis Body}
    (analyzed : (registry.analyzeIn settings memory origin records).1 = .ok analysis) :
    AreFiled (.ofZone origin records settings.emptyTtl) records
        (registry.claims settings memory origin records) analysis.services
      ∧ analysis.defaultTtl = (Premises.ofZone origin records settings.emptyTtl).zoneTtl := by
  have started : Accords (.ofZone origin records settings.emptyTtl) records []
      (Analyzer.start origin records settings.emptyTtl : Analyzer Body) :=
    .start origin records settings.emptyTtl
  have accords := started.leads
    (leads_runRecognizers ⟨.start origin records settings.emptyTtl, memory⟩ registry.entries)
  rw [List.nil_append] at accords
  rcases accords.filed.sweepCells (_, 0) accords.under
    (accords.marked.records.trans List.drop_zero.symm) with ⟨filed, under⟩
  rcases Registry.exists_sweep_of_analyzeIn analyzed with ⟨ended, ran, rfl⟩
  rw [ran] at filed under
  rw [Registry.claims, ran]
  exact ⟨filed, congrArg Premises.zoneTtl under⟩

/-! ## Times to live -/

/-- The record that the service at a place was made of. -/
def founder? (claims : List Claim) (slot : Slot) : Option Nat :=
  claims.findSome? fun claim => if claim.place? = some slot then some claim.id else none

/-- A place where a service was made has a founder. -/
theorem exists_founder? {claims : List Claim} {id : Nat} {slot : Slot} {kind : Text}
    (made : .service id slot kind ∈ claims) :
    ∃ first kind, founder? claims slot = some first ∧ .service first slot kind ∈ claims := by
  have found : (founder? claims slot).isSome := by
    rw [founder?, List.findSome?_isSome_iff]
    exact ⟨_, made, by simp [Claim.place?]⟩
  rcases Option.isSome_iff_exists.mp found with ⟨first, here⟩
  rw [founder?] at here
  rcases List.exists_of_findSome?_eq_some here with ⟨claim, member, founded⟩
  split at founded
  · rename_i placed
    cases founded
    cases claim with
    | service other place kind =>
        cases placed
        exact ⟨other, kind, by rw [founder?]; exact here, member⟩
    | drop other => cases placed
    | extension other place => cases placed
  · cases founded

/--
What a service keeps of the time to live of a record tells it, unless it is zero and that of the
zone is not.
-/
theorem effectiveTtl_storedTtl (premises : Premises) (record : Record) {header : ServiceHeader}
    (kept : header.ttl = premises.storedTtl record) :
    header.effectiveTtl premises.zoneTtl = record.ttl ↔
      (record.ttl ≠ 0 ∨ premises.zoneTtl = 0) := by
  rw [ServiceHeader.effectiveTtl, kept, Premises.storedTtl]
  by_cases usual : record.ttl = premises.zoneTtl
  · rw [if_pos usual, if_pos rfl, usual]
    exact ⟨fun _ => (em' _), fun _ => rfl⟩
  · rw [if_neg usual]
    by_cases zero : record.ttl = 0
    · rw [if_pos zero, zero]
      exact ⟨.inr, fun either => either.resolve_left (fun ne => ne rfl)⟩
    · rw [if_neg zero]
      exact ⟨fun _ => .inl zero, fun _ => rfl⟩

/--
Every service of an analysis was made of a record, and is written at the time to live of this
record exactly if that is not zero or that of the zone is zero.
-/
theorem effectiveTtl_eq_iff {registry : Registry Memory Body} {settings : Settings}
    {memory : Memory} {origin : Text} {records : List Record} {analysis : Analysis Body}
    (analyzed : (registry.analyzeIn settings memory origin records).1 = .ok analysis)
    {slot : Slot} {service : Service Body} (found : slot.find? analysis.services = some service) :
    ∃ id record, founder? (registry.claims settings memory origin records) slot = some id
      ∧ records[id]? = some record
      ∧ (service.header.effectiveTtl analysis.defaultTtl = record.ttl ↔
        (record.ttl ≠ 0 ∨ analysis.defaultTtl = 0)) := by
  rcases areFiled_of_analyzeIn analyzed with ⟨filed, zoneTtl⟩
  rcases filed.made found with ⟨other, kind, made⟩
  rcases exists_founder? made with ⟨id, kind, first, claimed⟩
  rcases filed.kept claimed with ⟨record, founded, known, here, stems⟩
  cases found.symm.trans here
  refine ⟨id, record, first, known, ?_⟩
  rw [zoneTtl]
  exact effectiveTtl_storedTtl _ record stems.ttl

/-- Two addresses at the time to live of the zone, and an exchanger at time to live zero. -/
def briefZone : List Record :=
  [ ⟨"www.example.com.".toList, .a, 300, "192.0.2.1".toList⟩,
    ⟨"www.example.com.".toList, .aaaa, 300, "::1".toList⟩,
    ⟨"b.example.com.".toList, .mx, 0, "10 mail.example.com.".toList⟩ ]

/-- The time to live that the first service on a subdomain of the brief zone is written at. -/
def ttlInBriefZone? (subdomain : Text) : Option UInt32 :=
  match Registry.builtin.analyze {} "example.com.".toList briefZone with
  | .ok (analysis : Analysis Builtin) =>
    (Slot.find? ⟨subdomain, 0⟩ analysis.services).map fun service =>
      service.header.effectiveTtl analysis.defaultTtl
  | .error _ => none

theorem exists_of_ttlInBriefZone? {subdomain : Text} {ttl : UInt32}
    (found : ttlInBriefZone? subdomain = some ttl) :
    ∃ (analysis : Analysis Builtin) (service : Service Builtin),
      ((Registry.builtin : Registry Unit Builtin).analyzeIn {} () "example.com.".toList
          briefZone).1 = .ok analysis
        ∧ Slot.find? ⟨subdomain, 0⟩ analysis.services = some service
        ∧ service.header.effectiveTtl analysis.defaultTtl = ttl := by
  rw [ttlInBriefZone?] at found
  split at found
  · rename_i analysis analyzed
    rcases Option.map_eq_some_iff.mp found with ⟨service, here, written⟩
    exact ⟨analysis, service, analyzed, here, written⟩
  · cases found

theorem effectiveTtl_eq_iff_of_briefZone :
    ∃ (analysis : Analysis Builtin) (service : Service Builtin) (record : Record),
      ((Registry.builtin : Registry Unit Builtin).analyzeIn {} () "example.com.".toList
          briefZone).1 = .ok analysis
        ∧ Slot.find? ⟨"www".toList, 0⟩ analysis.services = some service
        ∧ briefZone[0]? = some record
        ∧ (service.header.effectiveTtl analysis.defaultTtl = record.ttl ↔
          (record.ttl ≠ 0 ∨ analysis.defaultTtl = 0)) := by
  have found : ttlInBriefZone? "www".toList = some 300 := by decide +kernel
  have founder : founder? ((Registry.builtin : Registry Unit Builtin).claims {} ()
      "example.com.".toList briefZone) ⟨"www".toList, 0⟩ = some 0 := by decide +kernel
  rcases exists_of_ttlInBriefZone? found with ⟨analysis, service, analyzed, here, _⟩
  rcases effectiveTtl_eq_iff analyzed here with ⟨id, record, first, known, told⟩
  cases founder.symm.trans first
  exact ⟨analysis, service, record, analyzed, here, known, told⟩

/-- The exchanger at time to live zero is written at the time to live of the zone. -/
theorem effectiveTtl_ne_of_briefZone :
    ∃ (analysis : Analysis Builtin) (service : Service Builtin) (id : Nat) (record : Record),
      ((Registry.builtin : Registry Unit Builtin).analyzeIn {} () "example.com.".toList
          briefZone).1 = .ok analysis
        ∧ Slot.find? ⟨"b".toList, 0⟩ analysis.services = some service
        ∧ founder? ((Registry.builtin : Registry Unit Builtin).claims {} ()
          "example.com.".toList briefZone) ⟨"b".toList, 0⟩ = some id
        ∧ briefZone[id]? = some record
        ∧ service.header.effectiveTtl analysis.defaultTtl ≠ record.ttl := by
  have found : ttlInBriefZone? "b".toList = some 300 := by decide +kernel
  have founder : founder? ((Registry.builtin : Registry Unit Builtin).claims {} ()
      "example.com.".toList briefZone) ⟨"b".toList, 0⟩ = some 2 := by decide +kernel
  rcases exists_of_ttlInBriefZone? found with ⟨analysis, service, analyzed, here, written⟩
  refine ⟨analysis, service, 2, _, analyzed, here, founder, rfl, ?_⟩
  rw [written]
  decide

end ZoneServices
