import ZoneServices.Analysis.Analyzer

/-!
# Recognition

A recognizer knows a zone under analysis by questions and claims alone, and may choose each of
them after the answers to those before.  So it is a tree: each node is a question or a claim,
and has a branch for every answer. What holds of every single question and claim then holds of
every recognizer, by induction on the tree.

Recognizers may share a memory of their own, which the analysis passes from one to the next
without looking into it.
-/

namespace ZoneServices

/-- A question or a claim of a recognizer. -/
inductive Command (Memory Body : Type) [ServiceBody Body] where
  | search (filters : List RecordFilter)
  | record (id : Nat)
  | origin
  | defaultTtl
  | use (id : Nat) (name : Text) (body : Body)
  | drop (id : Nat)
  | extend (id : Nat) (slot : Slot) (extension : Extension Body)
  | recall
  | remember (memory : Memory)

variable {Memory Body : Type} [ServiceBody Body]

/-- What is answered to a question or a claim. -/
@[reducible]
def Command.Answer : Command Memory Body → Type
  | .search _ => List (Nat × Record)
  | .record _ => Option Record
  | .origin => Text
  | .defaultTtl => UInt32
  | .use .. => Except AnalysisError Slot
  | .drop _ => Except AnalysisError Unit
  | .extend .. => Except AnalysisError Unit
  | .recall => Memory
  | .remember _ => Unit

/-- What recognizers act on: the zone under analysis and the memory they share. -/
structure Scene (Memory Body : Type) where
  analyzer : Analyzer Body
  memory : Memory

/-- The answer to a claim and the scene after it; a refused claim leaves the scene as it was. -/
def Scene.settle {Value : Type} (scene : Scene Memory Body)
    (outcome : Except AnalysisError (Value × Analyzer Body)) :
    Except AnalysisError Value × Scene Memory Body :=
  match outcome with
  | .ok (value, analyzer) => (.ok value, { scene with analyzer })
  | .error error => (.error error, scene)

/-- The answer to a question or a claim, and the scene after it. -/
def Command.perform (scene : Scene Memory Body) :
    (command : Command Memory Body) → command.Answer × Scene Memory Body
  | .search filters => (scene.analyzer.search filters, scene)
  | .record id => (scene.analyzer.record? id, scene)
  | .origin => (scene.analyzer.origin, scene)
  | .defaultTtl => (scene.analyzer.defaultTtl, scene)
  | .use id name body => scene.settle (scene.analyzer.use id name body)
  | .drop id => scene.settle ((scene.analyzer.drop id).map fun analyzer => ((), analyzer))
  | .extend id slot extension =>
    scene.settle ((scene.analyzer.extend id slot extension).map fun analyzer => ((), analyzer))
  | .recall => (scene.memory, scene)
  | .remember memory => ((), { scene with memory })

/-- A course of questions and claims that yields a result or fails. -/
inductive Recognition (Memory Body : Type) [ServiceBody Body] (Result : Type) where
  | done (result : Result)
  | fail (failure : Failure)
  | ask (command : Command Memory Body) (next : command.Answer → Recognition Memory Body Result)

/-- A course of questions and claims that is run for what it claims. -/
abbrev Recognizer (Memory Body : Type) [ServiceBody Body] : Type :=
  Recognition Memory Body Unit

namespace Recognition

variable {Result Next : Type}

/-- One course after another, which may depend on the result of the first. -/
def bind (recognition : Recognition Memory Body Result)
    (next : Result → Recognition Memory Body Next) : Recognition Memory Body Next :=
  match recognition with
  | .done result => next result
  | .fail failure => .fail failure
  | .ask command answers => .ask command fun answer => (answers answer).bind next

instance : Monad (Recognition Memory Body) where
  pure := .done
  bind := bind

/-- The result of a course in a scene, and the scene after it. -/
def run (scene : Scene Memory Body) :
    Recognition Memory Body Result → Except Failure Result × Scene Memory Body
  | .done result => (.ok result, scene)
  | .fail failure => (.error failure, scene)
  | .ask command next =>
    let answered := command.perform scene
    (next answered.1).run answered.2

/-- A single question or claim, whose answer is the result. -/
def call (command : Command Memory Body) : Recognition Memory Body command.Answer :=
  .ask command .done

/-- The value that a claim yields; a refused claim is a failure. -/
def insist {Value : Type} (outcome : Except AnalysisError Value) :
    Recognition Memory Body Value :=
  match outcome with
  | .ok value => .done value
  | .error error => .fail (.ofError error)

/-- Asks for the free records that match one of some filters. -/
def search (filters : List RecordFilter) : Recognition Memory Body (List (Nat × Record)) :=
  .ask (.search filters) .done

/--
Makes a service of a free record on the subdomain of a name, and fails if the claim is refused.
-/
def use {Kind : Type} [ServiceKind Kind] [Hosts Body Kind] (id : Nat) (name : Text) (kind : Kind) :
    Recognition Memory Body Slot :=
  .ask (.use id name (Hosts.inject kind)) insist

/-- Adds a free record to a service of a kind, and fails if the claim is refused. -/
def extend (Kind : Type) [ServiceKind Kind] [Hosts Body Kind] (id : Nat) (slot : Slot)
    (update : Kind → Record → Kind) : Recognition Memory Body Unit :=
  .ask (.extend id slot (.ofUpdate Kind update)) insist

end Recognition

end ZoneServices
