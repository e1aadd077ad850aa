import ZoneServices.Kind.Builtin
import ZoneServices.Proofs.Analysis.Effect

/-!
# The history of an analysis

Recognizers may be any courses of questions and claims, so what holds of every analysis is what
every single exchange keeps.  A history lists the exchanges of an analysis: what was asked or
claimed, and what the answer was.

The main theorem says how an analysis stands after any history: which records are claimed, what a
search finds, how the services and the dropped records add up, and that every service is still
found at the place that was given for it.
-/

namespace ZoneServices

open Directory

variable {Memory Body : Type} [ServiceBody Body]

/-! ## Histories -/

/-- A question or a claim with the answer that it got. -/
structure Exchange (Memory Body : Type) [ServiceBody Body] where
  command : Command Memory Body
  answer : command.Answer

/-- The exchange that a question or a claim makes in a scene. -/
def Command.exchange (scene : Scene Memory Body) (command : Command Memory Body) :
    Exchange Memory Body :=
  ⟨command, (command.perform scene).1⟩

namespace Scene

/-- The scene in which the recognizer of a kind has its turn. -/
def turnTo (scene : Scene Memory Body) (kind : Text) : Scene Memory Body :=
  { scene with analyzer := { scene.analyzer with running := kind } }

/--
Whether a history leads from one scene to another.  What is asked or claimed next may depend on
everything that happened before.
-/
inductive Leads (start : Scene Memory Body) :
    List (Exchange Memory Body) → Scene Memory Body → Prop
  | nothing : Leads start [] start
  | ask {history : List (Exchange Memory Body)} {scene : Scene Memory Body}
      (earlier : Leads start history scene) (command : Command Memory Body) :
      Leads start (history ++ [command.exchange scene]) (command.perform scene).2
  | turn {history : List (Exchange Memory Body)} {scene : Scene Memory Body}
      (earlier : Leads start history scene) (kind : Text) :
      Leads start history (scene.turnTo kind)

theorem Leads.trans {first second third : Scene Memory Body}
    {earlier later : List (Exchange Memory Body)} (leads : first.Leads earlier second)
    (further : second.Leads later third) : first.Leads (earlier ++ later) third := by
  induction further with
  | nothing =>
      rw [List.append_nil]
      exact leads
  | ask _ command step =>
      rw [← List.append_assoc]
      exact step.ask command
  | turn _ kind step => exact step.turn kind

end Scene

namespace Recognition

variable {Result : Type}

/-- The exchanges that a course makes from a scene on. -/
def exchanges (scene : Scene Memory Body) :
    Recognition Memory Body Result → List (Exchange Memory Body)
  | .done _ => []
  | .fail _ => []
  | .ask command next =>
    let answered := command.perform scene
    ⟨command, answered.1⟩ :: (next answered.1).exchanges answered.2

/-- A course leads to the scene in which it ends, whether or not it fails there. -/
theorem leads_run (course : Recognition Memory Body Result) (scene : Scene Memory Body) :
    scene.Leads (course.exchanges scene) (course.run scene).2 := by
  induction course generalizing scene with
  | done result => exact .nothing
  | fail failure => exact .nothing
  | ask command next step =>
      have asked : scene.Leads [command.exchange scene] (command.perform scene).2 :=
        Scene.Leads.nothing.ask command
      exact asked.trans (step _ _)

end Recognition

/-! ## The claims of a history -/

/-- The claim that was made in an exchange, if it went through. -/
def Exchange.claim? : Exchange Memory Body → Option Claim
  | ⟨.use id _ body, .ok slot⟩ => some (.service id slot (ServiceBody.kindKey body))
  | ⟨.drop id, .ok ()⟩ => some (.drop id)
  | ⟨.extend id slot _, .ok ()⟩ => some (.extension id slot)
  | _ => none

/-- The claims of a history that went through, in their order. -/
def claimsOf (history : List (Exchange Memory Body)) : List Claim :=
  history.filterMap Exchange.claim?

theorem claimsOf_append (earlier later : List (Exchange Memory Body)) :
    claimsOf (earlier ++ later) = claimsOf earlier ++ claimsOf later :=
  List.filterMap_append ..

theorem claimsOf_singleton (exchange : Exchange Memory Body) :
    claimsOf [exchange] = exchange.claim?.toList := by
  rw [claimsOf, List.filterMap_cons, List.filterMap_nil]
  cases exchange.claim? with
  | none => rfl
  | some claim => rfl

/-- A question or a claim has no other effect than that of the claim, if it went through. -/
theorem effect_perform (scene : Scene Memory Body) (command : Command Memory Body) :
    scene.analyzer.Effect (command.exchange scene).claim? (command.perform scene).2.analyzer := by
  cases command with
  | use id name body =>
      rw [Command.exchange, Command.perform]
      cases used : scene.analyzer.use id name body with
      | error error => exact .nothing
      | ok outcome =>
          rcases outcome with ⟨slot, next⟩
          rcases Analyzer.use_eq_ok used with ⟨record, free, rfl, rfl⟩
          exact .service free name body
  | drop id =>
      rw [Command.exchange, Command.perform]
      cases dropped : scene.analyzer.drop id with
      | error error => exact .nothing
      | ok next =>
          rcases Analyzer.drop_eq_ok dropped with ⟨record, free, rfl⟩
          exact .drop free
  | extend id slot extension =>
      rw [Command.exchange, Command.perform]
      cases extended : scene.analyzer.extend id slot extension with
      | error error => exact .nothing
      | ok next =>
          rcases Analyzer.extend_eq_ok extended with ⟨record, service, revise, free, found,
            revises, rfl⟩
          exact .extension free found (extension.kindKey_revise record revises)
  -- The other commands are questions, which leave the scene as it is, or concern the memory alone.
  | _ => exact .nothing

variable {premises : Premises} {records : List Record} {claims : List Claim}

/-- An analysis keeps according with its claims, whatever the recognizers do. -/
theorem Accords.leads {start scene : Scene Memory Body} {history : List (Exchange Memory Body)}
    (accords : Accords premises records claims start.analyzer)
    (leads : start.Leads history scene) :
    Accords premises records (claims ++ claimsOf history) scene.analyzer := by
  induction leads with
  | nothing =>
      rw [claimsOf, List.filterMap_nil, List.append_nil]
      exact accords
  | @ask _ scene _ command step =>
      rw [claimsOf_append, claimsOf_singleton, ← List.append_assoc]
      exact step.effect (effect_perform scene command)
  | turn _ kind step => exact ⟨step.under, step.marked, step.dropped, step.filed⟩

/-! ## How an analysis stands -/

/-- A claim drops its record, makes a service of it or adds it to one. -/
theorem length_claims (claims : List Claim) :
    claims.length = claims.countP Claim.isDrop + claims.countP Claim.isService
      + claims.countP Claim.isExtension := by
  induction claims with
  | nil => rfl
  | cons claim rest step =>
      rw [List.length_cons, List.countP_cons, List.countP_cons, List.countP_cons, step]
      cases claim
      all_goals
        simp only [Claim.isDrop, Claim.isService, Claim.isExtension, Claim.place?,
          Option.isSome_some, Option.isSome_none, Bool.false_eq_true, if_true, if_false]
        omega

/-- A service that is made is filed under its name relative to the zone. -/
theorem subdomain_of_exchange {scene : Scene Memory Body} {command : Command Memory Body} {id : Nat}
    {name : Text} {body : Body} {slot : Slot}
    (used : command.exchange scene = ⟨.use id name body, .ok slot⟩) :
    slot.subdomain = Owner.relativeTo name scene.analyzer.origin := by
  obtain rfl : command = .use id name body := congrArg Exchange.command used
  have answered : (Command.perform scene (.use id name body)).1 = .ok slot :=
    eq_of_heq (Exchange.mk.inj used).2
  rw [Command.perform] at answered
  cases outcome : scene.analyzer.use id name body with
  | error error =>
      rw [outcome] at answered
      cases answered
  | ok placed =>
      rcases placed with ⟨place, next⟩
      rcases Analyzer.use_eq_ok outcome with ⟨record, _, rfl, rfl⟩
      rw [outcome] at answered
      cases answered
      rfl

/-- The place that was given for a service is on the subdomain of the name. -/
theorem Accords.subdomain_of_use {start scene : Scene Memory Body}
    {history : List (Exchange Memory Body)}
    (accords : Accords premises records claims start.analyzer)
    (leads : start.Leads history scene) {id : Nat} {name : Text} {body : Body} {slot : Slot}
    (used : ⟨.use id name body, .ok slot⟩ ∈ history) :
    slot.subdomain = Owner.relativeTo name premises.origin := by
  induction leads with
  | nothing => cases used
  | @ask history scene earlier command step =>
      rcases List.mem_append.mp used with before | last
      · exact step before
      · rw [← (accords.leads earlier).under]
        exact subdomain_of_exchange (List.mem_singleton.mp last).symm
  | turn _ kind step => exact step used

/-- Whether an analysis of some records stands as a history tells. -/
structure Analyzer.IsToldBy (analyzer : Analyzer Body) (history : List (Exchange Memory Body))
    (premises : Premises) (records : List Record) : Prop where
  origin : analyzer.origin = premises.origin
  defaultTtl : analyzer.defaultTtl = premises.zoneTtl
  unchanged : analyzer.cells.map (·.record) = records
  /-- A claim goes through at most once on each record. -/
  once : ((claimsOf history).map Claim.id).Nodup
  claimed : ∀ id, isMarked analyzer.cells id = true ↔ id ∈ (claimsOf history).map Claim.id
  /-- The claimed records are those that were dropped, became a service or were added to one. -/
  balance : analyzer.cells.countP (·.claimed) =
    analyzer.dropped + (inOrder analyzer.services).length
      + (claimsOf history).countP Claim.isExtension
  /-- A search finds the records that are not claimed and pass one of its filters. -/
  search : ∀ filters, analyzer.search filters = records.zipIdx.filterMap fun (record, id) =>
    if id ∉ (claimsOf history).map Claim.id ∧ filters.any (·.accepts record) then some (id, record)
    else none
  listed : ∀ {subdomain : Text} {services : List (Service Body)},
    analyzer.services.get? subdomain = some services → services ≠ [] ∧ ∀ service ∈ services,
      service.header.subdomain = subdomain ∧ service.IsSummedUp premises.origin
  /-- A service is found at the place that was given for it. -/
  kept : ∀ {id : Nat} {name : Text} {body : Body} {slot : Slot},
    ⟨.use id name body, .ok slot⟩ ∈ history → ∃ record service, records[id]? = some record
      ∧ analyzer.serviceAt? slot = some service
      ∧ service.StemsFrom premises record (Owner.relativeTo name premises.origin)
        (ServiceBody.kindKey body)
  /-- No place is given for two services. -/
  apart : ((claimsOf history).filterMap Claim.place?).Nodup

/-- Whether what is claimed and filed in an analysis is so in a later one. -/
structure Analyzer.IsKeptIn (analyzer later : Analyzer Body) : Prop where
  claimed : ∀ id, isMarked analyzer.cells id = true → isMarked later.cells id = true
  filed : ∀ {slot : Slot} {service : Service Body}, analyzer.serviceAt? slot = some service →
    ∃ kept, later.serviceAt? slot = some kept ∧ kept.header.id = service.header.id
      ∧ kept.header.subdomain = service.header.subdomain
      ∧ kept.header.kind = service.header.kind ∧ kept.header.ttl = service.header.ttl

namespace Accords

variable {analyzer later : Analyzer Body}

/-- Every claimed record was dropped, makes a service of its own or extends one. -/
theorem balance (accords : Accords premises records claims analyzer) :
    analyzer.cells.countP (·.claimed) =
      analyzer.dropped + (inOrder analyzer.services).length
        + claims.countP Claim.isExtension := by
  rw [accords.marked.count, List.length_map, length_claims, accords.dropped, accords.filed.count]

/-- No subdomain is listed without services, and services are listed under their own subdomain. -/
theorem listed (accords : Accords premises records claims analyzer) {subdomain : Text}
    {services : List (Service Body)}
    (found : analyzer.services.get? subdomain = some services) :
    services ≠ [] ∧ ∀ service ∈ services,
      service.header.subdomain = subdomain ∧ service.IsSummedUp premises.origin := by
  refine ⟨accords.filed.nonempty found, ?_⟩
  intro service member
  rcases List.getElem?_of_mem member with ⟨index, placed⟩
  have located : Slot.find? ⟨subdomain, index⟩ analyzer.services = some service := by
    rw [Slot.find?, found]
    exact placed
  exact accords.filed.summedUp located

/-- Further claims change no mark and move no service. -/
theorem isKeptIn (accords : Accords premises records claims analyzer) {more : List Claim}
    (after : Accords premises records (claims ++ more) later) : analyzer.IsKeptIn later where
  claimed := by
    intro id claimed
    rw [after.marked.claimed, List.map_append]
    exact List.mem_append_left _ ((accords.marked.claimed id).mp claimed)
  filed := by
    intro slot service found
    rcases accords.filed.made found with ⟨id, kind, member⟩
    rcases accords.filed.kept member with ⟨record, founded, known, here, stems⟩
    rcases after.filed.kept (List.mem_append_left more member) with
      ⟨other, kept, sameKnown, there, keptStems⟩
    cases found.symm.trans here
    cases known.symm.trans sameKnown
    exact ⟨kept, there, keptStems.id.trans stems.id.symm,
      keptStems.subdomain.trans stems.subdomain.symm, keptStems.kind.trans stems.kind.symm,
      keptStems.ttl.trans stems.ttl.symm⟩

end Accords

/--
Whatever recognizers ask and claim, an analysis stands as its history tells, and what is claimed
and filed in it is so from then on.
-/
theorem isToldBy_of_leads {origin : Text} {records : List Record} {emptyTtl : UInt32}
    {memory : Memory} {history : List (Exchange Memory Body)} {scene : Scene Memory Body}
    (leads : Scene.Leads ⟨.start origin records emptyTtl, memory⟩ history scene) :
    scene.analyzer.IsToldBy history (.ofZone origin records emptyTtl) records
      ∧ ∀ further later, scene.Leads further later → scene.analyzer.IsKeptIn later.analyzer := by
  have started : Accords (.ofZone origin records emptyTtl) records []
      (Analyzer.start origin records emptyTtl : Analyzer Body) := .start origin records emptyTtl
  have accords := started.leads leads
  rw [List.nil_append] at accords
  constructor
  · exact
      { origin := congrArg Premises.origin accords.under
        defaultTtl := congrArg Premises.zoneTtl accords.under
        unchanged := accords.marked.records
        once := accords.marked.once
        claimed := accords.marked.claimed
        balance := accords.balance
        search := Analyzer.search_eq accords.marked
        listed := accords.listed
        kept := by
          intro id name body slot used
          have claimed : .service id slot (ServiceBody.kindKey body) ∈ claimsOf history :=
            List.mem_filterMap.mpr ⟨_, used, rfl⟩
          rw [← started.subdomain_of_use leads used]
          exact accords.filed.kept claimed
        apart := accords.filed.apart }
  · intro further later onwards
    exact accords.isKeptIn (accords.leads onwards)

/-- Two addresses of one name and an exchanger between them. -/
def mixedZone : List Record :=
  [ ⟨"www.example.com.".toList, .a, 300, "192.0.2.1".toList⟩,
    ⟨"www.example.com.".toList, .mx, 300, "10 mail".toList⟩,
    ⟨"WWW.example.com.".toList, .aaaa, 60, "::1".toList⟩ ]

theorem isToldBy_of_leads_of_mixedZone :
    ∃ (history : List (Exchange Unit Builtin)) (scene : Scene Unit Builtin),
      Scene.Leads ⟨.start "example.com".toList mixedZone 3600, ()⟩ history scene
        ∧ claimsOf history =
          [.service 0 ⟨"www".toList, 0⟩ "abstract.Server".toList, .extension 2 ⟨"www".toList, 0⟩]
        ∧ scene.analyzer.cells.map (·.record) = mixedZone
        ∧ scene.analyzer.search [{}] =
          [(1, ⟨"www.example.com.".toList, .mx, 300, "10 mail".toList⟩)] := by
  have leads := Recognition.leads_run (Server.recognizer : Recognizer Unit Builtin)
    ⟨.start "example.com".toList mixedZone 3600, ()⟩
  have claims : claimsOf ((Server.recognizer : Recognizer Unit Builtin).exchanges
      ⟨.start "example.com".toList mixedZone 3600, ()⟩) =
        [.service 0 ⟨"www".toList, 0⟩ "abstract.Server".toList,
          .extension 2 ⟨"www".toList, 0⟩] := by
    decide +kernel
  have told := (isToldBy_of_leads leads).1
  refine ⟨_, _, leads, claims, told.unchanged, ?_⟩
  rw [told.search, claims]
  decide +kernel

end ZoneServices
