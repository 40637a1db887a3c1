import Admission.Chain.Index

/-!
Contract: the active and the warming generation of a listener's filter chains.

A batch is built into the warming slot and becomes active once every warm-up target that its
build registered is ready. If none is outstanding at the end of the build, that happens at once;
otherwise the last target to become ready queues a notification, and dispatching it activates the
generation. A newer batch replaces an older warming one, whose notification is then ignored.

Owns: generations and their numbering, warm-ups, the queue of notifications, and the list of chains
that an activation removes. A rejected batch leaves nothing behind but the numbers it used.
-/

namespace Admission.Chain

open Admission.Listener

structure InitTarget where
  generation : GenerationId
  /-- The position among the targets of its generation. -/
  number : Nat
  name : String
  deriving DecidableEq, Repr

/-- The targets that a generation still waits for. -/
structure Warmup where
  generation : GenerationId
  outstanding : List InitTarget
  deriving DecidableEq, Repr

structure Activation where
  generation : GenerationId
  previous : Option GenerationId
  /-- The chains that the previous generation had and the new one has not, by identity. -/
  removed : List FilterChainId
  deriving DecidableEq, Repr

inductive UpdateOutcome where
  | activated (activation : Activation)
  | warming (generation : GenerationId) (outstanding : Nat)
  deriving DecidableEq, Repr

/-- What an update answers: its outcome or its first fault, the targets it handed out that are not
ready, and how many chains were built. -/
structure UpdateReport where
  generation : GenerationId
  outcome : Except ConfigError UpdateOutcome
  targets : List InitTarget
  built : Nat

/-- The generations of one listener's filter chains. -/
structure Registry where
  listener : String
  active : Option MatchIndex
  warming : Option MatchIndex
  /-- The warm-ups of accepted batches. -/
  warmups : List Warmup
  /-- Generations whose last target became ready, oldest first. -/
  warmed : List GenerationId
  nextGeneration : Nat
  nextChain : Nat

/-- A successful look-up, with the generation it was made in. -/
structure LookupMatch where
  chain : FilterChain
  index : MatchIndex

namespace Registry

/-- The registry of a listener before its first batch. -/
def new (listener : String) : Registry where
  listener
  active := none
  warming := none
  warmups := []
  warmed := []
  nextGeneration := 1
  nextChain := 1

def outstanding (registry : Registry) (generation : GenerationId) : List InitTarget :=
  (registry.warmups.filter (·.generation = generation)).flatMap (·.outstanding)

def waiting (registry : Registry) : Nat :=
  (registry.warming.map fun index => (registry.outstanding index.generation).length).getD 0

/-- Inserts an identity into ascending ones, once. -/
def insertId (id : FilterChainId) : List FilterChainId → List FilterChainId
  | [] => [id]
  | other :: rest =>
      if id = other then other :: rest
      else if id.value < other.value then id :: other :: rest
      else other :: insertId id rest

/-- The identities of the chains of a replaced index that the active one has not, ascending. -/
def retire (registry : Registry) (old : MatchIndex) : List FilterChainId :=
  let current := (registry.active.map MatchIndex.chainIds).getD []
  (old.chainIds.filter (· ∉ current)).foldl (fun ids id => insertId id ids) []

/-- Makes the warming generation active. Nothing if `generation` is not warming. -/
def completeWarmup (registry : Registry) (generation : GenerationId) :
    Registry × Option Activation :=
  match registry.warming with
  | none => (registry, none)
  | some index =>
      if index.generation = generation then
        let swapped := { registry with active := some index, warming := none }
        (swapped, some {
          generation
          previous := registry.active.map (·.generation)
          removed := (registry.active.map swapped.retire).getD [] })
      else (registry, none)

def numberTargets (generation : GenerationId) (requests : List TargetRequest) :
    List (TargetRequest × InitTarget) :=
  requests.zipIdx.map fun (request, number) => (request, ⟨generation, number, request.name⟩)

/-- Builds a batch into the warming slot; activates it if it waits for nothing. -/
def beginUpdate
    (registry : Registry)
    (descriptors : List FilterChainDescriptor)
    (builder : ChainBuilder) : Registry × UpdateReport :=
  let generation : GenerationId := ⟨registry.nextGeneration⟩
  let build := MatchIndex.build generation registry.listener descriptors builder registry.active
    registry.nextChain
  let targets :=
    ((numberTargets generation build.state.targets).filter (!·.1.ready)).map (·.2)
  let counted := { registry with
    nextGeneration := registry.nextGeneration + 1
    nextChain := build.state.nextChain }
  match build.outcome with
  | .error error => (counted, ⟨generation, .error error, targets, build.state.built⟩)
  | .ok index =>
      let warming := { counted with
        warming := some index
        warmups := counted.warmups ++ [⟨generation, targets⟩] }
      let waiting := .warming generation targets.length
      if targets.isEmpty then
        let (activated, activation) := warming.completeWarmup generation
        (activated, ⟨generation, .ok ((activation.map UpdateOutcome.activated).getD waiting),
          targets, build.state.built⟩)
      else (warming, ⟨generation, .ok waiting, targets, build.state.built⟩)

/-- Marks a target as ready. The last outstanding target of a generation queues a notification; a
target that is ready already, or whose batch was rejected, changes nothing. -/
def targetReady (registry : Registry) (target : InitTarget) : Registry :=
  let rest (warmup : Warmup) : Warmup :=
    { warmup with outstanding := warmup.outstanding.filter (· ≠ target) }
  let finished := registry.warmups.filter fun warmup =>
    target ∈ warmup.outstanding ∧ (rest warmup).outstanding = []
  { registry with
    warmups := registry.warmups.map rest
    warmed := registry.warmed ++ finished.map (·.generation) }

/-- Delivers notifications, oldest first. -/
def deliver (registry : Registry) : List GenerationId → Registry × List Activation
  | [] => (registry, [])
  | generation :: rest =>
      let (next, activation) := registry.completeWarmup generation
      let (final, activations) := next.deliver rest
      (final, activation.toList ++ activations)

/-- Delivers all queued notifications. -/
def dispatchWarmed (registry : Registry) : Registry × List Activation :=
  { registry with warmed := [] }.deliver registry.warmed

/-- Finds the chain of a socket in the active generation; also how often its locality was checked. -/
def lookup (registry : Registry) (socket : Socket) : Option LookupMatch × Nat :=
  match registry.active with
  | none => (none, 0)
  | some index =>
      let selection := index.find socket
      (selection.chain.map (⟨·, index⟩), selection.localityChecks)

def debugGeneration : Option GenerationId → String
  | some generation => s!"Some(GenerationId({generation.value}))"
  | none => "None"

def debug (registry : Registry) : String :=
  "FilterChainRegistry \x7b listener: " ++ Text.quoted registry.listener ++ ", active: " ++
    debugGeneration (registry.active.map (·.generation)) ++ ", warming: " ++
    debugGeneration (registry.warming.map (·.generation)) ++ " \x7d"

end Registry

end Admission.Chain
