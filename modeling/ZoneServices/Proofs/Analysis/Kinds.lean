import ZoneServices.Proofs.Analysis.Classification
import ZoneServices.Proofs.Analysis.Pass
import ZoneServices.Proofs.Filing

/-!
# Kinds of the services of an analysis

A service is filed with the kind of its body and keeps this kind however often its body is revised.
So the kinds of the services of an analysis are those that its claims have named, and each service
counts once.  The sweep adds the kind of orphans for every orphan that it counts, and nothing else;
if no recognizer makes orphans, the number that the sweep has counted is that of all of them.
-/

namespace ZoneServices

open Directory

variable {Memory Body : Type}

/-! ## Kinds of filed services -/

/-- The kinds of services by subdomain, as often as there are services of each. -/
def kindsOf (services : Directory (List (Service Body))) : List Text :=
  (inOrder services).map fun service => service.header.kind

/-- The kind of the service that a claim has made. -/
def Claim.kind? : Claim → Option Text
  | .service _ _ kind => some kind
  | .drop _ => none
  | .extension _ _ => none

/-- The kinds of the services that some claims have made. -/
def kindsMade (claims : List Claim) : List Text :=
  claims.filterMap Claim.kind?

theorem kindsMade_append (earlier later : List Claim) :
    kindsMade (earlier ++ later) = kindsMade earlier ++ kindsMade later :=
  List.filterMap_append ..

theorem kindsOf_file (analyzer : Analyzer Body) (service : Service Body) :
    (kindsOf (analyzer.file service).services).Perm
      (service.header.kind :: kindsOf analyzer.services) :=
  (perm_alterEntries service.header.subdomain service analyzer.services.entries).map _

variable [ServiceBody Body]

theorem kindsOf_reviseAt (analyzer : Analyzer Body) (slot : Slot) (body : Body) :
    kindsOf (analyzer.reviseAt slot body).services = kindsOf analyzer.services := by
  apply map_inOrder_alter
  intro services
  exact map_modify (fun service => service.header.kind)
    (fun service => service.revise body analyzer.origin) (fun _ => rfl) services slot.index

/-- A claim adds the kind of the service that it makes. -/
theorem Analyzer.Effect.kinds {analyzer next : Analyzer Body} {claim? : Option Claim}
    (effect : analyzer.Effect claim? next) :
    (kindsOf next.services).Perm (kindsMade claim?.toList ++ kindsOf analyzer.services) := by
  cases effect with
  | nothing => exact List.Perm.refl _
  | service free name body => exact kindsOf_file _ _
  | drop free => exact List.Perm.refl _
  | extension free found same => exact List.Perm.of_eq (kindsOf_reviseAt _ _ _)

/-- Whatever happens, the kinds that are added are those of the claims. -/
theorem Scene.Leads.kinds {start scene : Scene Memory Body}
    {history : List (Exchange Memory Body)} (leads : start.Leads history scene) :
    (kindsOf scene.analyzer.services).Perm
      (kindsMade (claimsOf history) ++ kindsOf start.analyzer.services) := by
  induction leads with
  | nothing => exact List.Perm.refl _
  | @ask history scene earlier command step =>
      rw [claimsOf_append, claimsOf_singleton, kindsMade_append, List.append_assoc]
      have made := (effect_perform scene command).kinds
      exact (made.trans (step.append_left _)).trans (List.perm_append_comm_assoc _ _ _)
  | turn _ kind step => exact step

/-! ## Registries that make no service of a kind -/

/-- Whether no recognizer of a registry makes a service of a kind, whatever it finds. -/
def Registry.MakesNo (registry : Registry Memory Body) (kind : Text) : Prop :=
  ∀ entry ∈ registry.entries, ∀ recognizer ∈ entry.recognizer, ∀ scene,
    kind ∉ kindsMade (claimsOf (recognizer.exchanges scene))

/-- What no recognizer makes is not made when they run one after the other. -/
theorem not_mem_kindsMade_exchanges {kind : Text} {entries : List (RegistryEntry Memory Body)}
    (makesNo : ∀ entry ∈ entries, ∀ recognizer ∈ entry.recognizer, ∀ scene,
      kind ∉ kindsMade (claimsOf (recognizer.exchanges scene))) (scene : Scene Memory Body) :
    kind ∉ kindsMade (claimsOf (Registry.exchanges scene entries)) := by
  induction entries generalizing scene with
  | nil => exact List.not_mem_nil
  | cons entry rest step =>
      rcases List.forall_mem_cons.mp makesNo with ⟨first, others⟩
      rw [Registry.exchanges]
      cases present : entry.recognizer with
      | none => exact step others scene
      | some recognizer =>
          have here := first recognizer present (scene.turnTo entry.kind)
          dsimp only
          rw [claimsOf_append, kindsMade_append, List.mem_append]
          rintro (now | later)
          · exact here now
          · split at later
            · exact step others _ later
            · cases later

/-- The kind of the service that a claim asks for. -/
def Command.kind? : Command Memory Body → Option Text
  | .use _ _ body => some (ServiceBody.kindKey body)
  | _ => none

/-- A claim makes a service of no other kind than it asks for. -/
theorem Command.kind?_of_mem {scene : Scene Memory Body} {command : Command Memory Body}
    {kind : Text} (made : kind ∈ kindsMade (command.exchange scene).claim?.toList) :
    command.kind? = some kind := by
  rcases List.mem_filterMap.mp made with ⟨claim, member, made⟩
  have claimed := Option.mem_toList.mp member
  unfold Exchange.claim? at claimed
  -- Of the claims that go through, only one that makes a service has a kind.
  split at claimed
  · rename_i id name body slot same
    have asked : command = .use id name body := congrArg Exchange.command same
    cases claimed
    rw [asked]
    exact made
  · cases claimed
    cases made
  · cases claimed
    cases made
  · cases claimed

namespace Recognition

variable {Result Next : Type} {kind : Text}

/-- Whether a course asks for no service of a kind, whatever the answers to it are. -/
def Avoids (kind : Text) : Recognition Memory Body Result → Prop
  | .done _ => True
  | .fail _ => True
  | .ask command next => command.kind? ≠ some kind ∧ ∀ answer, (next answer).Avoids kind

/-- A course that avoids a kind makes no service of it, wherever it runs. -/
theorem Avoids.not_mem_kindsMade {course : Recognition Memory Body Result}
    (avoids : course.Avoids kind) (scene : Scene Memory Body) :
    kind ∉ kindsMade (claimsOf (course.exchanges scene)) := by
  induction course generalizing scene with
  | done result => exact List.not_mem_nil
  | fail failure => exact List.not_mem_nil
  | ask command next step =>
      have others := step _ (avoids.2 (command.perform scene).1) (command.perform scene).2
      have first : (Recognition.ask command next).exchanges scene =
          [command.exchange scene] ++ (next (command.perform scene).1).exchanges
            (command.perform scene).2 := rfl
      rw [first, claimsOf_append, kindsMade_append, claimsOf_singleton, List.mem_append]
      rintro (now | later)
      · exact avoids.1 (Command.kind?_of_mem now)
      · exact others later

/-- A kind that two courses avoid is avoided by one after the other. -/
theorem Avoids.bind {course : Recognition Memory Body Result} (avoids : course.Avoids kind)
    {next : Result → Recognition Memory Body Next} (others : ∀ result, (next result).Avoids kind) :
    (course.bind next).Avoids kind := by
  induction course with
  | done result => exact others result
  | fail failure => trivial
  | ask command answers step => exact ⟨avoids.1, fun answer => step answer (avoids.2 answer)⟩

theorem avoids_search (filters : List RecordFilter) :
    (search filters : Recognition Memory Body _).Avoids kind :=
  ⟨nofun, fun _ => trivial⟩

theorem avoids_insist {Value : Type} (outcome : Except AnalysisError Value) :
    (insist outcome : Recognition Memory Body Value).Avoids kind := by
  cases outcome <;> trivial

variable {Kind Item : Type} [ServiceKind Kind] [Hosts Body Kind]

theorem avoids_use (other : ServiceKind.key Kind ≠ kind) (id : Nat) (name : Text) (body : Kind) :
    (use id name body : Recognition Memory Body Slot).Avoids kind := by
  refine ⟨?_, avoids_insist⟩
  rw [Command.kind?, Hosts.kindKey_inject]
  exact fun same => other (Option.some.inj same)

theorem avoids_extend (id : Nat) (slot : Slot) (update : Kind → Record → Kind) :
    (extend Kind id slot update : Recognition Memory Body Unit).Avoids kind :=
  ⟨nofun, avoids_insist⟩

/-- Using records one by one makes services of one kind alone. -/
theorem avoids_useEach (other : ServiceKind.key Kind ≠ kind)
    (read? : Record → Option (Text × Kind)) (found : List (Nat × Record)) :
    (useEach read? found : Recognizer Memory Body).Avoids kind := by
  induction found with
  | nil => trivial
  | cons entry rest step =>
      rw [useEach]
      cases read? entry.2 with
      | none => exact step
      | some claim => exact (avoids_use other _ _ _).bind fun _ => step

/-- Gathering records makes services of one kind alone. -/
theorem avoids_gather (other : ServiceKind.key Kind ≠ kind) (read? : Record → Option Item)
    (start : Item → Kind) (add : Kind → Item → Kind) (places : List (Text × Slot))
    (found : List (Nat × Record)) :
    (Grouping.gather read? start add places found : Recognizer Memory Body).Avoids kind := by
  induction found generalizing places with
  | nil => trivial
  | cons entry rest step =>
      rw [Grouping.gather]
      cases read? entry.2 with
      | none => exact step places
      | some item =>
          dsimp only
          split
          · exact (avoids_extend _ _ _).bind fun _ => step places
          · exact (avoids_use other _ _ _).bind fun _ => step _

end Recognition

/-! ## Orphans -/

variable [Hosts Body Orphan]

/-- The sweep makes an orphan of a record if it counts one, and no other service. -/
theorem kindsOf_sweepCell (state : Analyzer Body × Nat) (cell : Cell) :
    ∃ made, (Analyzer.sweepCell state cell).2 = state.2 + made
      ∧ (kindsOf (Analyzer.sweepCell state cell).1.services).Perm
        (List.replicate made (ServiceKind.key Orphan) ++ kindsOf state.1.services) := by
  rw [Analyzer.sweepCell]
  split
  · exact ⟨0, rfl, List.Perm.refl _⟩
  · split
    · exact ⟨0, rfl, List.Perm.refl _⟩
    · have orphan : (state.1.orphanOf cell.record).header.kind = ServiceKind.key Orphan :=
        Hosts.kindKey_inject _
      have filed := kindsOf_file state.1 (state.1.orphanOf cell.record)
      rw [orphan] at filed
      exact ⟨1, rfl, filed⟩

/-- A sweep adds orphans and nothing else, as many as it counts. -/
theorem kindsOf_foldl_sweepCell (cells : List Cell) (state : Analyzer Body × Nat) :
    ∃ made, (cells.foldl Analyzer.sweepCell state).2 = state.2 + made
      ∧ (kindsOf (cells.foldl Analyzer.sweepCell state).1.services).Perm
        (List.replicate made (ServiceKind.key Orphan) ++ kindsOf state.1.services) := by
  induction cells generalizing state with
  | nil => exact ⟨0, rfl, List.Perm.refl _⟩
  | cons cell rest step =>
      rcases kindsOf_sweepCell state cell with ⟨first, countedFirst, kindsFirst⟩
      rcases step (Analyzer.sweepCell state cell) with ⟨others, counted, kinds⟩
      refine ⟨others + first, ?_, ?_⟩
      · rw [List.foldl_cons, counted, countedFirst]
        omega
      · rw [List.foldl_cons, List.replicate_add, List.append_assoc]
        exact kinds.trans (kindsFirst.append_left _)

/-- The services of an analysis are those of the recognizers' claims and the counted orphans. -/
theorem kindsOf_of_analyzeIn {registry : Registry Memory Body} {settings : Settings}
    {memory : Memory} {origin : Text} {records : List Record} {analysis : Analysis Body}
    (analyzed : (registry.analyzeIn settings memory origin records).1 = .ok analysis) :
    (kindsOf analysis.services).Perm
      (List.replicate analysis.orphans (ServiceKind.key Orphan)
        ++ kindsMade (claimsOf (Registry.exchanges
          ⟨.start origin records settings.emptyTtl, memory⟩ registry.entries))) := by
  have led := leads_runRecognizers ⟨.start origin records settings.emptyTtl, memory⟩
    registry.entries
  have recognized := led.kinds
  have nothing : kindsOf (Analyzer.start origin records settings.emptyTtl :
      Analyzer Body).services = [] := rfl
  rw [nothing, List.append_nil] at recognized
  rcases Registry.exists_sweep_of_analyzeIn analyzed with ⟨ended, ran, rfl⟩
  rw [ran] at recognized
  rcases kindsOf_foldl_sweepCell ended.analyzer.cells (ended.analyzer, 0) with
    ⟨made, counted, kinds⟩
  rw [Nat.zero_add] at counted
  subst counted
  exact kinds.trans (recognized.append_left _)

/-- If the recognizers have made no orphan, all orphans of an analysis have been counted. -/
theorem count_kindsOf_of_analyzeIn {registry : Registry Memory Body} {settings : Settings}
    {memory : Memory} {origin : Text} {records : List Record} {analysis : Analysis Body}
    (leaves : ServiceKind.key Orphan ∉ kindsMade (claimsOf (Registry.exchanges
      ⟨.start origin records settings.emptyTtl, memory⟩ registry.entries)))
    (analyzed : (registry.analyzeIn settings memory origin records).1 = .ok analysis) :
    (kindsOf analysis.services).count (ServiceKind.key Orphan) = analysis.orphans := by
  rw [(kindsOf_of_analyzeIn analyzed).count_eq, List.count_append, List.count_replicate_self,
    List.count_eq_zero.mpr leaves, Nat.add_zero]

/-- The built-in recognizers leave orphans to the sweep. -/
theorem Registry.makesNo_builtin [Hosts Body Challenge] [Hosts Body MailExchangers]
    [Hosts Body Server] [Hosts Body Alias] :
    (Registry.builtin : Registry Memory Body).MakesNo (ServiceKind.key Orphan) := by
  have avoids : ∀ entry ∈ (Registry.builtin : Registry Memory Body).entries,
      ∀ recognizer ∈ entry.recognizer, recognizer.Avoids (ServiceKind.key Orphan) := by
    rw [entries_builtin]
    simp only [List.forall_mem_cons]
    refine ⟨?_, ?_, ?_, ?_, ?_, fun _ member => absurd member List.not_mem_nil⟩
    · rintro _ ⟨⟩
      refine (Recognition.avoids_search _).bind fun found => ?_
      rw [claimEach_challenge]
      exact Recognition.avoids_useEach (by decide) _ _
    · rintro _ ⟨⟩
      exact (Recognition.avoids_search _).bind fun found =>
        Recognition.avoids_gather (by decide) _ _ _ _ _
    · rintro _ ⟨⟩
      exact (Recognition.avoids_search _).bind fun found =>
        Recognition.avoids_gather (by decide) _ _ _ _ _
    · rintro _ ⟨⟩
      refine (Recognition.avoids_search _).bind fun found => ?_
      rw [claimEach_alias]
      exact Recognition.avoids_useEach (by decide) _ _
    · rintro _ ⟨⟩
  intro entry member recognizer present scene
  exact (avoids entry member recognizer present).not_mem_kindsMade scene

end ZoneServices
