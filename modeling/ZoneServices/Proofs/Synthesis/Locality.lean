import Mathlib.Data.List.Basic
import Mathlib.Data.List.Flatten
import ZoneServices.Kind.Builtin
import ZoneServices.Proofs.Filing
import ZoneServices.Workflow

/-!
# Services do not affect each other

The records of a zone are made service by service, so a service that cannot write its records costs
the zone just these.  This is said of two zones at once: the second comes from the first by edits,
which keep, remove and insert services in any number of places.  A service that is broken by an
edit is one that is removed, with the broken one inserted for it.  Both syntheses are then put
together from the same pieces.

A publication is watched by noting every call to the provider.
-/

namespace ZoneServices

open Directory

/-! ## Edits -/

/-- A value of a list that is edited: kept, or only in the list before, or only in that after. -/
inductive Edit (Value : Type) where
  | keep (value : Value)
  | remove (value : Value)
  | insert (value : Value)
deriving DecidableEq, Repr

namespace Edit

variable {Value Other : Type}

/-- An edit with its value changed. -/
def map (change : Value → Other) : Edit Value → Edit Other
  | .keep value => .keep (change value)
  | .remove value => .remove (change value)
  | .insert value => .insert (change value)

/-- The value that the list before has here. -/
def before? : Edit Value → Option Value
  | .keep value => some value
  | .remove value => some value
  | .insert _ => none

/-- The value that the list after has here. -/
def after? : Edit Value → Option Value
  | .keep value => some value
  | .remove _ => none
  | .insert value => some value

/-- The value that both lists have here. -/
def kept? : Edit Value → Option Value
  | .keep value => some value
  | .remove _ => none
  | .insert _ => none

/-- The list before some edits. -/
def before (edits : List (Edit Value)) : List Value :=
  edits.filterMap before?

/-- The list after some edits. -/
def after (edits : List (Edit Value)) : List Value :=
  edits.filterMap after?

/-- The values that some edits keep. -/
def kept (edits : List (Edit Value)) : List Value :=
  edits.filterMap kept?

theorem before_map (change : Value → Other) (edits : List (Edit Value)) :
    before (edits.map (map change)) = (before edits).map change := by
  rw [before, before, List.filterMap_map, List.map_filterMap]
  apply List.filterMap_congr
  intro edit _
  cases edit <;> rfl

theorem after_map (change : Value → Other) (edits : List (Edit Value)) :
    after (edits.map (map change)) = (after edits).map change := by
  rw [after, after, List.filterMap_map, List.map_filterMap]
  apply List.filterMap_congr
  intro edit _
  cases edit <;> rfl

/-- What is kept is in both lists, in one order. -/
theorem kept_sublist (edits : List (Edit Value)) :
    (kept edits).Sublist (before edits) ∧ (kept edits).Sublist (after edits) := by
  induction edits with
  | nil => exact ⟨.slnil, .slnil⟩
  | cons edit rest step =>
      rcases step with ⟨inBefore, inAfter⟩
      cases edit with
      | keep value => exact ⟨inBefore.cons_cons value, inAfter.cons_cons value⟩
      | remove value => exact ⟨inBefore.cons value, inAfter⟩
      | insert value => exact ⟨inBefore, inAfter.cons value⟩

end Edit

/-! ## Syntheses in pieces -/

namespace Synthesis

/-- Some syntheses put together, in their order. -/
def joined (pieces : List Synthesis) : Synthesis :=
  ⟨pieces.flatMap (·.records), pieces.flatMap (·.failures)⟩

/-- Whether a synthesis has the records and the failures of another, in their order. -/
structure Includes (synthesis other : Synthesis) : Prop where
  records : other.records.Sublist synthesis.records
  failures : other.failures.Sublist synthesis.failures

/-- Fewer pieces in the same order give fewer records and fewer failures. -/
theorem includes_of_sublist {pieces others : List Synthesis} (fewer : others.Sublist pieces) :
    (joined pieces).Includes (joined others) where
  records := fewer.flatMap _
  failures := fewer.flatMap _

end Synthesis

variable {Body : Type} [ServiceBody Body]

namespace Zone

/-- What a service of a zone writes: at its own time to live if it has one, on its own subdomain. -/
def written (zone : Zone Body) (origin : Text) (service : Service Body) :
    Except SynthesisError (List Record) :=
  ServiceBody.records service.body service.header.subdomain
    (service.header.effectiveTtl zone.header.defaultTtl) (Owner.qualified origin)

/-- What a service of a zone adds to the synthesis. -/
def piece (zone : Zone Body) (origin : Text) (service : Service Body) : Synthesis :=
  service.synthesize zone.header.defaultTtl (Owner.qualified origin)

/-- Whether edits by subdomain turn the services of a zone into those of another. -/
structure IsEdited (zone : Zone Body) (edits : Directory (List (Edit (Service Body))))
    (later : Zone Body) : Prop where
  sameTtl : later.header.defaultTtl = zone.header.defaultTtl
  before : ∀ subdomain, (zone.services.get? subdomain).getD [] =
    Edit.before ((edits.get? subdomain).getD [])
  after : ∀ subdomain, (later.services.get? subdomain).getD [] =
    Edit.after ((edits.get? subdomain).getD [])

/-- A piece has the records that are written, or else the failure of the service. -/
theorem piece_eq (zone : Zone Body) (origin : Text) (service : Service Body) :
    zone.piece origin service =
      match zone.written origin service with
      | .ok records => ⟨records, []⟩
      | .error error =>
        ⟨[], [⟨service.header.id, service.header.kind, service.header.subdomain, error⟩]⟩ :=
  service.synthesize_eq _ _

/-- A service that fails gives no record. -/
theorem records_piece (zone : Zone Body) (origin : Text) (service : Service Body) :
    (zone.piece origin service).records =
      match zone.written origin service with
      | .ok records => records
      | .error _ => [] := by
  rw [piece_eq]
  cases zone.written origin service with
  | ok records => rfl
  | error error => rfl

/-- A failure names the id, the kind and the subdomain of the service that failed. -/
theorem failures_piece (zone : Zone Body) (origin : Text) (service : Service Body) :
    (zone.piece origin service).failures =
      (match zone.written origin service with
      | .ok _ => none
      | .error error => some ⟨service.header.id, service.header.kind, service.header.subdomain,
        error⟩ : Option SynthesisFailure).toList := by
  rw [piece_eq]
  cases zone.written origin service with
  | ok records => rfl
  | error error => rfl

/-- A service writes the same in two zones that have the same time to live. -/
theorem piece_eq_of_sameTtl {zone other : Zone Body}
    (same : other.header.defaultTtl = zone.header.defaultTtl) (origin : Text) :
    other.piece origin = zone.piece origin := by
  funext service
  rw [piece, piece, same]

omit [ServiceBody Body] in
theorem isEdited_of_map (zone : Zone Body) (edits : Directory (List (Edit (Service Body))))
    (listed : zone.services = edits.map Edit.before) :
    zone.IsEdited edits { zone with services := edits.map Edit.after } where
  sameTtl := rfl
  before subdomain := by
    rw [listed, get?_map]
    cases edits.get? subdomain <;> rfl
  after subdomain := by
    dsimp only
    rw [get?_map]
    cases edits.get? subdomain <;> rfl

/-- The synthesis of a zone joins the pieces of its services in order. -/
theorem generate_eq_joined (zone : Zone Body) (origin : Text) :
    zone.generate origin = Synthesis.joined (zone.allServices.map (zone.piece origin)) := by
  rw [generate_eq, Synthesis.joined, List.flatMap_map, List.flatMap_map]
  rfl

end Zone

/-- The services of a directory with edits of their lists are edited in the same way. -/
theorem inOrder_eq_filterMap {Value Other : Type} {pick? : Other → Option Value}
    {directory : Directory (List Value)} {edits : Directory (List Other)}
    (picked : ∀ key, (directory.get? key).getD [] =
      ((edits.get? key).getD []).filterMap pick?) :
    inOrder directory = (inOrder edits).filterMap pick? := by
  have same : inOrder directory = inOrder (edits.map fun listed => listed.filterMap pick?) := by
    apply inOrder_eq_of_getD_eq
    intro key
    rw [picked, get?_map]
    cases edits.get? key with
    | none => rfl
    | some listed => rfl
  rw [same, inOrder, inOrder, List.filterMap_flatten]
  congr 1
  change (edits.entries.map _).map Prod.snd = (edits.entries.map Prod.snd).map _
  rw [List.map_map, List.map_map]
  rfl

/-! ## Watched publications -/

/-- A call to the provider. -/
inductive SourceCall where
  | check (name : Text)
  | list (name : Text)
  | push (name : Text) (records : List Record)
deriving DecidableEq, Repr

variable {World : Type}

/-- Actions on a world that note the calls to the provider. -/
abbrev Noting (World : Type) : Type → Type :=
  StateT (List SourceCall) (StateM World)

namespace Noting

/-- An action of the provider that is noted as a call. -/
def call {Answer : Type} (noted : SourceCall) (action : StateM World Answer) :
    Noting World Answer := do
  modify (· ++ [noted])
  action

theorem run_call_bind {Answer Result : Type} (noted : SourceCall) (action : StateM World Answer)
    (next : Answer → Noting World Result) (calls : List SourceCall) (world : World) :
    ((call noted action >>= next).run calls).run world =
      ((next (action.run world).1).run (calls ++ [noted])).run (action.run world).2 := rfl

end Noting

/-- A provider whose calls are noted. -/
def RecordSource.noting (source : RecordSource (StateM World)) : RecordSource (Noting World) where
  checkDomain name := Noting.call (.check name) (source.checkDomain name)
  listRecords name := Noting.call (.list name) (source.listRecords name)
  pushRecords name records := Noting.call (.push name records) (source.pushRecords name records)

/--
A publication makes one call, which pushes the records of the synthesis, and reports the synthesis
with the answer to this call.
-/
theorem run_publishZone (source : RecordSource (StateM World)) (domain : Domain)
    (zone : Zone Body) (world : World) :
    ((publishZone source.noting domain zone).run []).run world =
      let synthesis := zone.generate domain.name
      let pushed := (source.pushRecords domain.name synthesis.records).run world
      ((⟨synthesis, pushed.1.mapError fun complaint =>
          ⟨zone.header.id, domain.name, complaint⟩⟩,
        [.push domain.name synthesis.records]), pushed.2) := by
  rw [publishZone]
  change ((Noting.call _ _ >>= _).run []).run world = _
  rw [Noting.run_call_bind]
  dsimp only
  rcases (source.pushRecords domain.name (zone.generate domain.name).records).run world with
    ⟨answer, after⟩
  cases answer with
  | error complaint => rfl
  | ok done => rfl

/-! ## The main theorem -/

/--
The synthesis of a zone is put together service by service, the synthesis of an edited zone has the
pieces of the services that are kept, and a publication pushes what was put together.
-/
theorem generate_is_local (zone : Zone Body) (origin : Text) :
    (zone.allServices = zone.services.entries.flatMap Prod.snd
        ∧ zone.services.entries.Pairwise fun earlier later => earlier.1 < later.1)
      ∧ (zone.generate origin).records = zone.allServices.flatMap (fun service =>
        match zone.written origin service with
        | .ok records => records
        | .error _ => [])
      ∧ (zone.generate origin).failures = zone.allServices.filterMap (fun service =>
        match zone.written origin service with
        | .ok _ => none
        | .error error =>
          some ⟨service.header.id, service.header.kind, service.header.subdomain, error⟩)
      ∧ (∀ edits later, zone.IsEdited edits later →
        let pieces := (inOrder edits).map (Edit.map (zone.piece origin))
        zone.generate origin = .joined (Edit.before pieces)
          ∧ later.generate origin = .joined (Edit.after pieces)
          ∧ (zone.generate origin).Includes (.joined (Edit.kept pieces))
          ∧ (later.generate origin).Includes (.joined (Edit.kept pieces)))
      ∧ ∀ (World : Type) (source : RecordSource (StateM World)) (domain : Domain) (world : World),
        ((publishZone source.noting domain zone).run []).run world =
          let synthesis := zone.generate domain.name
          let pushed := (source.pushRecords domain.name synthesis.records).run world
          ((⟨synthesis, pushed.1.mapError fun complaint =>
              ⟨zone.header.id, domain.name, complaint⟩⟩,
            [.push domain.name synthesis.records]), pushed.2) := by
  refine ⟨⟨?_, zone.services.sorted⟩, ?_, ?_, ?_, ?_⟩
  · rw [List.flatMap_def]
    rfl
  · rw [zone.generate_eq_joined, Synthesis.joined, List.flatMap_map]
    dsimp only
    congr 1
    funext service
    exact zone.records_piece origin service
  · rw [zone.generate_eq_joined, Synthesis.joined, List.flatMap_map, List.flatMap_map,
      List.filterMap_eq_flatMap_toList]
    dsimp only
    congr 1
    funext service
    exact zone.failures_piece origin service
  -- Both zones list the same edits, each its own side of them.
  · intro edits later edited pieces
    have earlierPieces : zone.generate origin = .joined (Edit.before pieces) := by
      rw [zone.generate_eq_joined, Edit.before_map]
      congr 1
      exact congrArg (List.map _) (inOrder_eq_filterMap edited.before)
    have laterPieces : later.generate origin = .joined (Edit.after pieces) := by
      rw [later.generate_eq_joined, Edit.after_map, Zone.piece_eq_of_sameTtl edited.sameTtl]
      congr 1
      exact congrArg (List.map _) (inOrder_eq_filterMap edited.after)
    rcases Edit.kept_sublist pieces with ⟨inBefore, inAfter⟩
    refine ⟨earlierPieces, laterPieces, ?_, ?_⟩
    · rw [earlierPieces]
      exact Synthesis.includes_of_sublist inBefore
    · rw [laterPieces]
      exact Synthesis.includes_of_sublist inAfter
  · intro World source domain world
    exact run_publishZone source domain zone world

/-- A service of a body on a subdomain at the time to live of its zone. -/
def serviceOn (subdomain : Text) (body : Builtin) : Service Builtin :=
  .ofBody body (.ofRecord (Record.make subdomain .a 0 "example.com.".toList [])) subdomain 0
    "example.com.".toList

/-- A token is kept while the exchanger beside it is broken and an address is added elsewhere. -/
def breakingEdits : Directory (List (Edit (Service Builtin))) :=
  .ofList
    [ ("www".toList,
        [ .remove (serviceOn "www".toList
            (.mailExchangers ⟨[⟨10, "mail".toList⟩, ⟨20, "relay".toList⟩]⟩)),
          .insert (serviceOn "www".toList
            (.mailExchangers ⟨[⟨10, "mail".toList⟩, ⟨20, "..".toList⟩]⟩)),
          .keep (serviceOn "www".toList (.challenge ⟨"token".toList⟩)) ]),
      ("api".toList, [.insert (serviceOn "api".toList (.server ⟨[.v4 ⟨192, 0, 2, 1⟩]⟩))]) ]

/-- The zone before the breaking edits. -/
def unbrokenZone : Zone Builtin where
  header := ⟨⟨1⟩, ⟨1⟩, 300, .epoch, none, none, none⟩
  services := breakingEdits.map Edit.before

/-- The record of the token that is kept. -/
def keptToken : Record :=
  ⟨"_scaleway-challenge.www.example.com.".toList, .txt, 300, "\"token\"".toList⟩

theorem generate_is_local_of_unbrokenZone :
    ∃ later : Zone Builtin,
      unbrokenZone.IsEdited breakingEdits later
        ∧ (unbrokenZone.generate "example.com".toList).isComplete = true
        ∧ (later.generate "example.com".toList).failures.map (·.subdomain) = ["www".toList]
        ∧ (later.generate "example.com".toList).records =
          [⟨"api.example.com.".toList, .a, 300, "192.0.2.1".toList⟩, keptToken]
        ∧ (later.generate "example.com".toList).Includes ⟨[keptToken], []⟩ := by
  have edited := unbrokenZone.isEdited_of_map breakingEdits rfl
  rcases generate_is_local unbrokenZone "example.com".toList with ⟨_, _, _, pieces, _⟩
  rcases pieces breakingEdits _ edited with ⟨before, after, _, included⟩
  have kept : Synthesis.joined (Edit.kept ((inOrder breakingEdits).map
      (Edit.map (unbrokenZone.piece "example.com".toList)))) = ⟨[keptToken], []⟩ := by
    decide +kernel
  rw [kept] at included
  refine ⟨_, edited, ?_, ?_, ?_, included⟩
  · rw [before]
    decide +kernel
  · rw [after]
    decide +kernel
  · rw [after]
    decide +kernel

end ZoneServices
