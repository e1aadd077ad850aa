import ZoneServices.Proofs.Analysis.Turn

/-!
# Refused claims

A claim changes an analysis in several steps: a record is marked, and then a service is filed or
revised, or a drop is counted.  The claims of an analyzer yield no new state with a refusal, so
they do not show whether a step was done before the refusal.  Here the claims are carried out step
by step on one state that is changed in place, in which everything stays that was done before an
error.  Both come to the same, because a claim does nothing before the last check that it makes.

The main theorem says when a claim is refused, after any history of an analysis, and that the state
in place is then what it was: the free records are found by every search, and the sweep drops them
or makes orphans of them.
-/

namespace ZoneServices

open Directory

variable {Memory Body : Type}

/-! ## Claims in place -/

/-- A course of steps on a state that is changed in place; what was done before an error stays. -/
abbrev InPlace (Body Result : Type) : Type :=
  ExceptT AnalysisError (StateM (Analyzer Body)) Result

namespace InPlace

variable {Result Next : Type}

/-- The result of a course, and the state that it leaves behind even if it fails. -/
def runIn (course : InPlace Body Result) (analyzer : Analyzer Body) :
    Except AnalysisError Result × Analyzer Body :=
  (ExceptT.run course).run analyzer

/-- Steps on one state run one after the other, up to the first refusal. -/
theorem runIn_bind (course : InPlace Body Result) (next : Result → InPlace Body Next)
    (analyzer : Analyzer Body) :
    (course >>= next).runIn analyzer =
      match course.runIn analyzer with
      | (.ok result, after) => (next result).runIn after
      | (.error error, after) => (.error error, after) := by
  unfold runIn ExceptT.run StateT.run
  simp only [bind, ExceptT.bind, ExceptT.mk, StateT.bind]
  cases course analyzer with
  | mk outcome after => cases outcome <;> rfl

theorem runIn_get_bind (next : Analyzer Body → InPlace Body Next) (analyzer : Analyzer Body) :
    (get >>= next : InPlace Body Next).runIn analyzer = (next analyzer).runIn analyzer := rfl

/-- Refuses a claim, put down to the kind whose recognizer runs now. -/
def refuse (fault : ClaimFault) : InPlace Body Result := do
  let analyzer ← get
  throw (analyzer.refusal fault)

/-- Marks a free record as claimed, where it stands. -/
def claim (id : Nat) : InPlace Body Record := do
  let analyzer ← get
  match analyzer.cells[id]? with
  | none => refuse (.unknown id)
  | some cell =>
    if cell.claimed then
      refuse (.taken id)
    else
      set (analyzer.mark id cell.record)
      return cell.record

/-- Claims a record and counts it as dropped. -/
def drop (id : Nat) : InPlace Body Unit := do
  let _ ← claim id
  modify fun analyzer => { analyzer with dropped := analyzer.dropped + 1 }

variable [ServiceBody Body]

/-- Claims a record, files a service of it, and looks up where the service is now. -/
def use (id : Nat) (name : Text) (body : Body) : InPlace Body Slot := do
  let record ← claim id
  let marked ← get
  let service := marked.serviceOf record name body
  let subdomain := service.header.subdomain
  set (marked.file service)
  let filed ← get
  return ⟨subdomain, (filed.servicesOn subdomain).length - 1⟩

/-- The service is looked up once before the record is claimed and once behind. -/
def extend (id : Nat) (slot : Slot) (extension : Extension Body) : InPlace Body Unit := do
  let analyzer ← get
  match (analyzer.serviceAt? slot).bind fun service => extension.revise? service.body with
  | none => refuse (.otherKind extension.kind slot.index slot.subdomain)
  | some _ =>
    let record ← claim id
    let marked ← get
    match marked.serviceAt? slot with
    | none => return
    | some service =>
      match extension.revise? service.body with
      | none => set (marked.reviseAt slot service.body)
      | some revise => set (marked.reviseAt slot (revise record))

end InPlace

/-! ## Both ways come to the same -/

/-- What an outcome answers and leaves behind; a refusal leaves the state before. -/
def Analyzer.settle {Value : Type} (analyzer : Analyzer Body)
    (outcome : Except AnalysisError (Value × Analyzer Body)) :
    Except AnalysisError Value × Analyzer Body :=
  match outcome with
  | .ok (value, after) => (.ok value, after)
  | .error error => (.error error, analyzer)

/-- A service is filed behind those of its subdomain. -/
theorem Analyzer.servicesOn_file [ServiceBody Body] (analyzer : Analyzer Body)
    (service : Service Body) (subdomain : Text) :
    (analyzer.file service).servicesOn subdomain =
      analyzer.servicesOn subdomain ++ under Premises.subdomain subdomain [service] := by
  rw [servicesOn, file, get?_alter]
  split
  · rename_i same
    have here : under Premises.subdomain subdomain [service] = [service] := by
      simp [under, same]
    rw [here, same]
    rfl
  · rename_i other
    have elsewhere : under Premises.subdomain subdomain [service] = [] := by
      simp [under, Ne.symm other]
    rw [elsewhere, List.append_nil]
    rfl

namespace InPlace

/-- Claiming in place comes to the same as the claim, and a refusal leaves the state as it was. -/
theorem runIn_claim (id : Nat) (analyzer : Analyzer Body) :
    (claim id).runIn analyzer = analyzer.settle (analyzer.claim id) := by
  rw [claim, runIn_get_bind, Analyzer.claim]
  cases analyzer.cells[id]? with
  | none => rfl
  | some cell =>
      rcases cell with ⟨record, claimed⟩
      cases claimed with
      | false => rfl
      | true => rfl

/-- A course that goes on after a claim leaves the state before if the claim is refused. -/
theorem runIn_claim_bind {Value : Type} (id : Nat) (next : Record → InPlace Body Value)
    (analyzer : Analyzer Body) :
    (claim id >>= next).runIn analyzer =
      match analyzer.claim id with
      | .ok (record, marked) => (next record).runIn marked
      | .error error => (.error error, analyzer) := by
  rw [runIn_bind, runIn_claim]
  cases analyzer.claim id with
  | error error => rfl
  | ok outcome => rfl

theorem runIn_drop (id : Nat) (analyzer : Analyzer Body) :
    (drop id).runIn analyzer =
      analyzer.settle ((analyzer.drop id).map fun after => ((), after)) := by
  rw [drop, runIn_claim_bind, Analyzer.drop]
  cases analyzer.claim id with
  | error error => rfl
  | ok outcome => rfl

variable [ServiceBody Body]

theorem runIn_use (id : Nat) (name : Text) (body : Body) (analyzer : Analyzer Body) :
    (use id name body).runIn analyzer = analyzer.settle (analyzer.use id name body) := by
  rw [use, runIn_claim_bind, Analyzer.use]
  cases analyzer.claim id with
  | error error => rfl
  | ok outcome =>
      rcases outcome with ⟨record, marked⟩
      have placed : ((marked.file (marked.serviceOf record name body)).servicesOn
          (Owner.relativeTo name marked.origin)).length - 1 =
            (marked.servicesOn (Owner.relativeTo name marked.origin)).length := by
        have here : under Premises.subdomain (Owner.relativeTo name marked.origin)
            [marked.serviceOf record name body] = [marked.serviceOf record name body] := by
          simp [under, Analyzer.serviceOf, Service.ofBody]
        rw [Analyzer.servicesOn_file, here, List.length_append]
        rfl
      exact congrArg (fun index => (Except.ok (Slot.mk _ index), _)) placed

theorem runIn_extend (id : Nat) (slot : Slot) (extension : Extension Body)
    (analyzer : Analyzer Body) :
    (extend id slot extension).runIn analyzer =
      analyzer.settle ((analyzer.extend id slot extension).map fun after => ((), after)) := by
  rw [extend, runIn_get_bind, Analyzer.extend]
  cases found : (analyzer.serviceAt? slot).bind fun service => extension.revise? service.body with
  | none => rfl
  | some revise =>
      rcases Option.bind_eq_some_iff.mp found with ⟨service, placed, revises⟩
      dsimp only
      rw [runIn_claim_bind]
      cases claimed : analyzer.claim id with
      | error error => rfl
      | ok outcome =>
          rcases outcome with ⟨record, marked⟩
          rcases Analyzer.claim_eq_ok_iff.mp claimed with ⟨_, rfl⟩
          -- The mark concerns the record alone, so the service is found again.
          have again : (analyzer.mark id record).serviceAt? slot = some service := placed
          dsimp only
          rw [runIn_get_bind, again]
          dsimp only
          rw [revises]
          rfl

end InPlace

variable [ServiceBody Body]

/-- What a command does in place; the questions and the memory change nothing of an analysis. -/
def Command.inPlace : Command Memory Body → InPlace Body Unit
  | .use id name body => do
    let _ ← InPlace.use id name body
  | .drop id => InPlace.drop id
  | .extend id slot extension => InPlace.extend id slot extension
  | _ => pure ()

/-- What an exchange answers to a course that is run for its claims alone. -/
def Exchange.outcome (exchange : Exchange Memory Body) : Except AnalysisError Unit :=
  match exchange.refusal? with
  | none => .ok ()
  | some error => .error error

/-- A command in place is refused when it is performed, and leaves the same state behind. -/
theorem Command.runIn_inPlace (scene : Scene Memory Body) (command : Command Memory Body) :
    command.inPlace.runIn scene.analyzer =
      ((command.exchange scene).outcome, (command.perform scene).2.analyzer) := by
  cases command with
  | use id name body =>
      rw [inPlace, InPlace.runIn_bind, InPlace.runIn_use, exchange, perform]
      cases scene.analyzer.use id name body with
      | error error => rfl
      | ok outcome => rfl
  | drop id =>
      rw [inPlace, InPlace.runIn_drop, exchange, perform]
      cases scene.analyzer.drop id with
      | error error => rfl
      | ok outcome => rfl
  | extend id slot extension =>
      rw [inPlace, InPlace.runIn_extend, exchange, perform]
      cases scene.analyzer.extend id slot extension with
      | error error => rfl
      | ok outcome => rfl
  | _ => rfl

/-! ## When a claim is refused -/

/-- Whether a record is there and no claim of a history went through on it. -/
def IsFree (records : List Record) (history : List (Exchange Memory Body)) (id : Nat) : Prop :=
  id < records.length ∧ id ∉ (claimsOf history).map Claim.id

/-- Whether the service at a place is of a kind. -/
def Analyzer.Holds (analyzer : Analyzer Body) (Kind : Type) [ServiceKind Kind] [Hosts Body Kind]
    (slot : Slot) : Prop :=
  ∃ service, ∃ kind : Kind,
    analyzer.serviceAt? slot = some service ∧ service.body = Hosts.inject kind

/-- Whether a command is a claim that is refused. -/
def Command.IsRefused (scene : Scene Memory Body) (command : Command Memory Body) : Prop :=
  (command.exchange scene).refusal?.isSome

/-- A record is free exactly if its place is one of the zone that no claim has named. -/
theorem AreMarked.free_iff {records : List Record} {places : List Nat} {cells : List Cell}
    (marked : AreMarked records places cells) (id : Nat) :
    (∃ record, cells[id]? = some ⟨record, false⟩) ↔ id < records.length ∧ id ∉ places := by
  rw [← marked.claimed id, isMarked, ← marked.records, List.length_map]
  constructor
  · rintro ⟨record, free⟩
    rw [free]
    exact ⟨(List.getElem?_eq_some_iff.mp free).1, Bool.false_ne_true⟩
  · rintro ⟨bound, unmarked⟩
    rcases found : cells[id] with ⟨record, claimed⟩
    rw [List.getElem?_eq_getElem bound, found] at unmarked ⊢
    cases claimed with
    | false => exact ⟨record, rfl⟩
    | true => exact absurd rfl unmarked

namespace Command

variable {scene : Scene Memory Body} {id : Nat}

/-- A use is refused exactly if its record is not free. -/
theorem isRefused_use_iff {name : Text} {body : Body} :
    (use id name body : Command Memory Body).IsRefused scene ↔
      ¬ ∃ record, scene.analyzer.cells[id]? = some ⟨record, false⟩ := by
  rw [IsRefused, exchange, perform]
  cases used : scene.analyzer.use id name body with
  | error error =>
      refine iff_of_true rfl ?_
      rintro ⟨record, free⟩
      rw [Analyzer.use, Analyzer.claim_eq_ok_iff.mpr ⟨free, rfl⟩] at used
      cases used
  | ok outcome =>
      rcases outcome with ⟨slot, next⟩
      rcases Analyzer.use_eq_ok used with ⟨record, free, _⟩
      exact iff_of_false Bool.false_ne_true (not_not_intro ⟨record, free⟩)

theorem isRefused_drop_iff :
    (drop id : Command Memory Body).IsRefused scene ↔
      ¬ ∃ record, scene.analyzer.cells[id]? = some ⟨record, false⟩ := by
  rw [IsRefused, exchange, perform]
  cases dropped : scene.analyzer.drop id with
  | error error =>
      refine iff_of_true rfl ?_
      rintro ⟨record, free⟩
      rw [Analyzer.drop, Analyzer.claim_eq_ok_iff.mpr ⟨free, rfl⟩] at dropped
      cases dropped
  | ok next =>
      rcases Analyzer.drop_eq_ok dropped with ⟨record, free, _⟩
      exact iff_of_false Bool.false_ne_true (not_not_intro ⟨record, free⟩)

variable {Kind : Type} [ServiceKind Kind] [Hosts Body Kind]

/-- An extension is refused exactly if its record is not free or no service of its kind is there. -/
theorem isRefused_extend_iff {slot : Slot} {update : Kind → Record → Kind} :
    (extend id slot (.ofUpdate Kind update) : Command Memory Body).IsRefused scene ↔
      (¬ ∃ record, scene.analyzer.cells[id]? = some ⟨record, false⟩)
        ∨ ¬ scene.analyzer.Holds Kind slot := by
  rw [IsRefused, exchange, perform]
  cases extended : scene.analyzer.extend id slot (.ofUpdate Kind update) with
  | error error =>
      refine iff_of_true rfl ?_
      by_contra allowed
      rw [not_or, not_not, not_not] at allowed
      rcases allowed with ⟨⟨record, free⟩, service, kind, placed, hosted⟩
      have revises : ((scene.analyzer.serviceAt? slot).bind fun service =>
          (Extension.ofUpdate Kind update : Extension Body).revise? service.body) =
            some fun record => Hosts.inject (update kind record) := by
        rw [placed, Option.bind_some, hosted]
        exact congrArg (Option.map _) (Hosts.project?_inject kind)
      rw [Analyzer.extend, revises] at extended
      dsimp only at extended
      rw [Analyzer.claim_eq_ok_iff.mpr ⟨free, rfl⟩] at extended
      cases extended
  | ok next =>
      rcases Analyzer.extend_eq_ok extended with ⟨record, service, revise, free, placed, revises, _⟩
      rcases Option.map_eq_some_iff.mp revises with ⟨kind, projected, _⟩
      refine iff_of_false Bool.false_ne_true (not_or.mpr ⟨not_not_intro ⟨record, free⟩, ?_⟩)
      exact not_not_intro ⟨service, kind, placed, (Hosts.inject_of_project? projected).symm⟩

/-- A refused command answers with its error and leaves the scene as it was. -/
theorem perform_of_isRefused {command : Command Memory Body} (refused : command.IsRefused scene) :
    (command.perform scene).2 = scene := by
  rw [IsRefused, exchange] at refused
  cases command with
  | use id name body =>
      rw [perform] at refused ⊢
      cases used : scene.analyzer.use id name body with
      | error error => rfl
      | ok outcome =>
          rw [used] at refused
          cases refused
  | drop id =>
      rw [perform] at refused ⊢
      cases dropped : scene.analyzer.drop id with
      | error error => rfl
      | ok next =>
          rw [dropped] at refused
          cases refused
  | extend id slot extension =>
      rw [perform] at refused ⊢
      cases extended : scene.analyzer.extend id slot extension with
      | error error => rfl
      | ok next =>
          rw [extended] at refused
          cases refused
  | _ => cases refused

end Command

/-! ## What is left for searches and for the sweep -/

/-- The records that no claim of a history went through on, with their places. -/
def freeRecords (records : List Record) (history : List (Exchange Memory Body)) :
    List (Nat × Record) :=
  records.zipIdx.filterMap fun (record, id) =>
    if id ∉ (claimsOf history).map Claim.id then some (id, record) else none

/-- The records of the cells that are not marked as claimed. -/
def unclaimed (cells : List Cell) : List Record :=
  cells.filterMap fun cell => if !cell.claimed then some cell.record else none

/-- The records that are left are those that no claim has named. -/
theorem AreMarked.unclaimed_eq {records : List Record} {cells : List Cell}
    {history : List (Exchange Memory Body)}
    (marked : AreMarked records ((claimsOf history).map Claim.id) cells) :
    unclaimed cells = (freeRecords records history).map Prod.snd := by
  rw [freeRecords, ← marked.records, List.zipIdx_map, List.filterMap_map, List.map_filterMap,
    unclaimed]
  conv => lhs; rw [← List.zipIdx_map_fst 0 cells, List.filterMap_map]
  apply List.filterMap_congr
  rintro ⟨cell, id⟩ member
  have free : cell.claimed = false ↔ id ∉ (claimsOf history).map Claim.id := by
    rw [← marked.claimed id, isMarked, List.mem_zipIdx_iff_getElem?.mp member, Bool.not_eq_true]
    rfl
  simp [free]

namespace Analyzer

/-- The records that the sweep keeps as orphans. -/
def sweptUp (analyzer : Analyzer Body) (records : List Record) : List Record :=
  records.filter fun record => !analyzer.isDropped record

omit [ServiceBody Body] in
theorem isDropped_of_premises {analyzer other : Analyzer Body}
    (same : analyzer.premises = other.premises) (record : Record) :
    analyzer.isDropped record = other.isDropped record := by
  have origins : analyzer.origin = other.origin := congrArg Premises.origin same
  rw [isDropped, isDropped, isBookkeeping, isBookkeeping, origins]

variable [Hosts Body Orphan]

theorem orphanOf_of_premises {analyzer other : Analyzer Body}
    (same : analyzer.premises = other.premises) (record : Record) :
    analyzer.orphanOf record = other.orphanOf record := by
  have origins : analyzer.origin = other.origin := congrArg Premises.origin same
  have ttls : analyzer.defaultTtl = other.defaultTtl := congrArg Premises.zoneTtl same
  rw [orphanOf, orphanOf, serviceOf, serviceOf, storedTtl, storedTtl, origins, ttls]

/-- The sweep files orphans behind the services that are there, and counts what it drops. -/
theorem foldl_sweepCell_eq {analyzer : Analyzer Body} (cells : List Cell)
    (state : Analyzer Body × Nat) (under : state.1.premises = analyzer.premises) :
    (∀ subdomain, (cells.foldl sweepCell state).1.servicesOn subdomain =
      state.1.servicesOn subdomain ++ Directory.under Premises.subdomain subdomain
        ((analyzer.sweptUp (unclaimed cells)).map analyzer.orphanOf))
      ∧ (cells.foldl sweepCell state).1.dropped =
        state.1.dropped + (unclaimed cells).countP analyzer.isDropped := by
  -- The state changes, but not the premises, so the given analyzer tells what each cell comes to.
  induction cells generalizing state with
  | nil => exact ⟨fun _ => (List.append_nil _).symm, rfl⟩
  | cons cell rest step =>
      rcases state with ⟨standing, orphans⟩
      rcases cell with ⟨record, claimed⟩
      have dropsSame := isDropped_of_premises under record
      have orphanSame := orphanOf_of_premises under record
      rw [List.foldl_cons]
      cases claimed with
      | true => exact step (standing, orphans) under
      | false =>
          have first : unclaimed (⟨record, false⟩ :: rest) = record :: unclaimed rest := rfl
          rw [first, sweptUp, List.filter_cons, List.countP_cons]
          cases books : analyzer.isDropped record with
          | true =>
              have swept : sweepCell (standing, orphans) ⟨record, false⟩ =
                  ({ standing with dropped := standing.dropped + 1 }, orphans) := by
                simp [sweepCell, dropsSame, books]
              rcases step ({ standing with dropped := standing.dropped + 1 }, orphans) under with
                ⟨filed, dropped⟩
              rw [swept]
              refine ⟨filed, dropped.trans ?_⟩
              rw [if_pos rfl, Nat.add_assoc, Nat.add_comm 1]
          | false =>
              have swept : sweepCell (standing, orphans) ⟨record, false⟩ =
                  (standing.file (analyzer.orphanOf record), orphans + 1) := by
                simp [sweepCell, dropsSame, orphanSame, books]
              rcases step (standing.file (analyzer.orphanOf record), orphans + 1) under with
                ⟨filed, dropped⟩
              rw [swept]
              refine ⟨?_, dropped⟩
              intro subdomain
              rw [filed subdomain, servicesOn_file, List.append_assoc, ← under_append]
              rfl

/--
Whether the records that no claim of a history went through on are still there: searches find
them, and the sweep drops them or files them as orphans.
-/
structure Offers (analyzer : Analyzer Body) (records : List Record)
    (history : List (Exchange Memory Body)) : Prop where
  search : ∀ filters, analyzer.search filters =
    (freeRecords records history).filter fun entry => filters.any (·.accepts entry.2)
  orphans : ∀ subdomain, (analyzer.sweep.services.get? subdomain).getD [] =
    analyzer.servicesOn subdomain ++ Directory.under Premises.subdomain subdomain
      ((analyzer.sweptUp ((freeRecords records history).map Prod.snd)).map analyzer.orphanOf)
  dropped : analyzer.sweep.dropped = analyzer.dropped
    + ((freeRecords records history).map Prod.snd).countP analyzer.isDropped

/-- A search and the sweep see just the records that no claim has named. -/
theorem offers_of_areMarked {analyzer : Analyzer Body} {records : List Record}
    {history : List (Exchange Memory Body)}
    (marked : AreMarked records ((claimsOf history).map Claim.id) analyzer.cells) :
    analyzer.Offers records history where
  search := by
    intro filters
    rw [search_eq marked, freeRecords, List.filter_filterMap]
    apply List.filterMap_congr
    rintro ⟨record, id⟩ _
    by_cases claimed : id ∈ (claimsOf history).map Claim.id
    · simp only [claimed, not_true_eq_false, false_and, if_false, Option.filter_none]
    · simp only [claimed, not_false_eq_true, true_and, if_true, Option.filter_some]
  orphans := by
    rw [← marked.unclaimed_eq]
    exact (foldl_sweepCell_eq analyzer.cells (analyzer, 0) rfl).1
  dropped := by
    rw [← marked.unclaimed_eq]
    exact (foldl_sweepCell_eq analyzer.cells (analyzer, 0) rfl).2

end Analyzer

/-! ## The main theorem -/

variable [Hosts Body Orphan]

/--
After any history of an analysis a claim is refused exactly if its record is unknown or claimed, or
is to be added to a service of another kind.  A claim in place that is refused leaves the analysis
as it was, with every free record still to be found and swept up.
-/
theorem refused_iff_and_unchanged_in_place {origin : Text} {records : List Record}
    {emptyTtl : UInt32} {memory : Memory} {history : List (Exchange Memory Body)}
    {scene : Scene Memory Body}
    (leads : Scene.Leads ⟨.start origin records emptyTtl, memory⟩ history scene) :
    (∀ id name body, (Command.use id name body).IsRefused scene ↔ ¬ IsFree records history id)
      ∧ (∀ id, (Command.drop id).IsRefused scene ↔ ¬ IsFree records history id)
      ∧ (∀ (Kind : Type) [ServiceKind Kind] [Hosts Body Kind] (id : Nat) (slot : Slot)
          (update : Kind → Record → Kind),
        (Command.extend id slot (.ofUpdate Kind update)).IsRefused scene ↔
          ¬ IsFree records history id ∨ ¬ scene.analyzer.Holds Kind slot)
      ∧ ∀ command : Command Memory Body,
        command.inPlace.runIn scene.analyzer =
            ((command.exchange scene).outcome, (command.perform scene).2.analyzer)
          ∧ (command.IsRefused scene → (command.perform scene).2 = scene
            ∧ (command.inPlace.runIn scene.analyzer).2 = scene.analyzer
            ∧ (command.inPlace.runIn scene.analyzer).2.Offers records history) := by
  have started : Accords (.ofZone origin records emptyTtl) records []
      (Analyzer.start origin records emptyTtl : Analyzer Body) := .start origin records emptyTtl
  have accords := started.leads leads
  rw [List.nil_append] at accords
  have free_iff := accords.marked.free_iff
  refine ⟨?_, ?_, ?_, ?_⟩
  · intro id name body
    rw [Command.isRefused_use_iff, free_iff]
    rfl
  · intro id
    rw [Command.isRefused_drop_iff, free_iff]
    rfl
  · intro Kind _ _ id slot update
    rw [Command.isRefused_extend_iff, free_iff]
    rfl
  · intro command
    refine ⟨command.runIn_inPlace scene, ?_⟩
    intro refused
    have unchanged := Command.perform_of_isRefused refused
    have inPlace : (command.inPlace.runIn scene.analyzer).2 = scene.analyzer := by
      rw [command.runIn_inPlace, unchanged]
    rw [inPlace]
    exact ⟨unchanged, rfl, Analyzer.offers_of_areMarked accords.marked⟩

/-- An exchanger that is added to the addresses of its name stays free. -/
theorem refused_iff_and_unchanged_in_place_of_mixedZone :
    ∃ (history : List (Exchange Unit Builtin)) (scene : Scene Unit Builtin)
      (command : Command Unit Builtin),
      Scene.Leads ⟨.start "example.com".toList mixedZone 3600, ()⟩ history scene
        ∧ command = .extend 1 ⟨"www".toList, 0⟩ (.ofUpdate MailExchangers fun exchangers _ =>
          exchangers)
        ∧ command.IsRefused scene
        ∧ (command.inPlace.runIn scene.analyzer).2 = scene.analyzer
        ∧ (command.inPlace.runIn scene.analyzer).2.search [{}] =
          [(1, ⟨"www.example.com.".toList, .mx, 300, "10 mail".toList⟩)]
        ∧ (Command.drop 2 : Command Unit Builtin).IsRefused scene := by
  have leads := Recognition.leads_run (Server.recognizer : Recognizer Unit Builtin)
    ⟨.start "example.com".toList mixedZone 3600, ()⟩
  have claimed : (claimsOf ((Server.recognizer : Recognizer Unit Builtin).exchanges
      ⟨.start "example.com".toList mixedZone 3600, ()⟩)).map Claim.id = [0, 2] := by
    decide +kernel
  have refused : (Command.extend 1 ⟨"www".toList, 0⟩
      (.ofUpdate MailExchangers fun exchangers _ => exchangers) :
        Command Unit Builtin).IsRefused ((Server.recognizer : Recognizer Unit Builtin).run
          ⟨.start "example.com".toList mixedZone 3600, ()⟩).2 := by
    rw [Command.IsRefused]
    decide +kernel
  rcases refused_iff_and_unchanged_in_place leads with ⟨_, dropped, _, unchanged⟩
  rcases (unchanged _).2 refused with ⟨_, same, offered⟩
  refine ⟨_, _, _, leads, rfl, refused, same, ?_, (dropped 2).mpr ?_⟩
  · rw [offered.search, freeRecords, claimed]
    decide +kernel
  · rintro ⟨_, free⟩
    rw [claimed] at free
    exact free (by decide)

end ZoneServices
