import Admission.Proofs.Chain.Succession
import Admission.Proofs.Except

/-!
Contract: runs of a registry, and what a run tells about the warm-up targets of a generation.

Owns:
- `Event`, all that can be done to a registry, with `Registry.step` and `Registry.run`, and
  `Registry.activated`, the activations of a run in their order;
- what a dispatch and an update do in each case;
- `Origin`, the update of a run that drew the number of a generation, with the targets that its
  build registered and those of them that are not ready at the end of the run. Nothing in it looks
  at the bookkeeping of the registry.
-/

namespace Admission.Chain

/-- Something that is done to a registry. -/
inductive Event where
  | update (descriptors : List FilterChainDescriptor) (builder : ChainBuilder)
  /-- A warm-up target becomes ready. -/
  | ready (target : InitTarget)
  /-- Queued warm-up notifications are dispatched. -/
  | dispatch

/-- The target that an event makes ready. -/
def Event.target? : Event → Option InitTarget
  | ready target => some target
  | _ => none

/-- The targets that a run makes ready, in order. -/
def readied (events : List Event) : List InitTarget :=
  events.filterMap (·.target?)

private theorem readied_append (events more : List Event) :
    readied (events ++ more) = readied events ++ readied more :=
  List.filterMap_append

/-- The targets that a build registered and that were not ready at once. -/
def Build.handedOut (build : Build) (generation : GenerationId) : List InitTarget :=
  ((Registry.numberTargets generation build.state.targets).filter (!·.1.ready)).map (·.2)

theorem Build.generation_of_handedOut {build : Build} {generation : GenerationId}
    {target : InitTarget} (handed : target ∈ build.handedOut generation) :
    target.generation = generation := by
  unfold handedOut Registry.numberTargets at handed
  simp only [List.mem_map, List.mem_filter] at handed
  obtain ⟨entry, ⟨⟨numbered, _, rfl⟩, _⟩, rfl⟩ := handed
  rfl

namespace Registry

/-! ## Runs -/

def step (registry : Registry) : Event → Registry
  | .update descriptors builder => (registry.beginUpdate descriptors builder).1
  | .ready target => registry.targetReady target
  | .dispatch => registry.dispatchWarmed.1

/-- The registry after a run. -/
def run (registry : Registry) (events : List Event) : Registry :=
  events.foldl step registry

/-- A registry after a run from its beginning. -/
def ran (listener : String) (events : List Event) : Registry :=
  (Registry.new listener).run events

/-- The activations that an event brings about. -/
def activations (registry : Registry) : Event → List Activation
  | .update descriptors builder =>
      match (registry.beginUpdate descriptors builder).2.outcome with
      | .ok (.activated activation) => [activation]
      | _ => []
  | .ready _ => []
  | .dispatch => registry.dispatchWarmed.2

/-- The activations of a run, in order. -/
def activated (registry : Registry) : List Event → List Activation
  | [] => []
  | event :: rest => registry.activations event ++ (registry.step event).activated rest

theorem run_append (registry : Registry) (events more : List Event) :
    registry.run (events ++ more) = (registry.run events).run more :=
  List.foldl_append

theorem ran_append (listener : String) (events more : List Event) :
    ran listener (events ++ more) = (ran listener events).run more :=
  run_append _ events more

theorem ran_concat (listener : String) (events : List Event) (event : Event) :
    ran listener (events ++ [event]) = (ran listener events).step event :=
  ran_append listener events [event]

@[simp]
theorem activated_singleton (registry : Registry) (event : Event) :
    registry.activated [event] = registry.activations event :=
  List.append_nil _

theorem activated_append (registry : Registry) (events more : List Event) :
    registry.activated (events ++ more) =
      registry.activated events ++ (registry.run events).activated more := by
  induction events generalizing registry with
  | nil => rfl
  | cons event rest inductionHypothesis =>
      have after : registry.run (event :: rest) = (registry.step event).run rest := rfl
      rw [List.cons_append, after]
      simp only [activated]
      rw [inductionHypothesis, List.append_assoc]

/-! ## Updates -/

section Update

variable {registry : Registry} {descriptors : List FilterChainDescriptor} {builder : ChainBuilder}

/-- A batch that is refused leaves nothing but the numbers it has drawn. -/
theorem beginUpdate_of_refused {error : ConfigError}
    (refused : (registry.buildOf descriptors builder).outcome = .error error) :
    (registry.beginUpdate descriptors builder).1 =
        registry.drawn (registry.buildOf descriptors builder) ∧
      (registry.beginUpdate descriptors builder).2.outcome = .error error := by
  have folded : MatchIndex.build ⟨registry.nextGeneration⟩ registry.listener descriptors builder
      registry.active registry.nextChain = registry.buildOf descriptors builder := rfl
  unfold beginUpdate
  simp only [folded]
  generalize registry.buildOf descriptors builder = build at refused ⊢
  rw [refused]
  constructor
  · rfl
  · rfl

/-- An accepted batch waits for the targets that its build has handed out. -/
theorem beginUpdate_of_waiting {index : MatchIndex}
    (accepted : (registry.buildOf descriptors builder).outcome = .ok index)
    (waits : (registry.buildOf descriptors builder).handedOut index.generation ≠ []) :
    (registry.beginUpdate descriptors builder).1 =
        (registry.drawn (registry.buildOf descriptors builder)).warm index
          ((registry.buildOf descriptors builder).handedOut index.generation) ∧
      (registry.beginUpdate descriptors builder).2.outcome =
        .ok (.warming index.generation
          ((registry.buildOf descriptors builder).handedOut index.generation).length) := by
  have generation : index.generation = ⟨registry.nextGeneration⟩ :=
    MatchIndex.generation_of_accepted accepted
  have folded : MatchIndex.build ⟨registry.nextGeneration⟩ registry.listener descriptors builder
      registry.active registry.nextChain = registry.buildOf descriptors builder := rfl
  unfold beginUpdate
  simp only [folded]
  generalize registry.buildOf descriptors builder = build at accepted waits ⊢
  have some : (build.handedOut index.generation).isEmpty = false :=
    List.isEmpty_eq_false_iff.mpr waits
  rw [generation] at some ⊢
  unfold Build.handedOut at some ⊢
  rw [accepted]
  simp only [some, warm, generation]
  constructor
  · rfl
  · rfl

/-- An accepted batch that waits for nothing becomes active. -/
theorem beginUpdate_of_ready {index : MatchIndex}
    (accepted : (registry.buildOf descriptors builder).outcome = .ok index)
    (ready : (registry.buildOf descriptors builder).handedOut index.generation = []) :
    (registry.beginUpdate descriptors builder).1 =
        ((registry.drawn (registry.buildOf descriptors builder)).warm index []).swap index ∧
      (registry.beginUpdate descriptors builder).2.outcome =
        .ok (.activated (registry.activationOf index)) := by
  have generation : index.generation = ⟨registry.nextGeneration⟩ :=
    MatchIndex.generation_of_accepted accepted
  have folded : MatchIndex.build ⟨registry.nextGeneration⟩ registry.listener descriptors builder
      registry.active registry.nextChain = registry.buildOf descriptors builder := rfl
  unfold beginUpdate
  simp only [folded]
  generalize registry.buildOf descriptors builder = build at accepted ready ⊢
  have completed : ((registry.drawn build).warm index []).completeWarmup ⟨registry.nextGeneration⟩ =
      (((registry.drawn build).warm index []).swap index, some (registry.activationOf index)) := by
    rw [← generation]
    exact if_pos rfl
  rw [generation] at ready
  unfold Build.handedOut at ready
  unfold warm drawn at completed ⊢
  rw [generation] at completed ⊢
  rw [accepted, ready]
  simp only [List.isEmpty_nil, if_true]
  rw [completed]
  constructor
  · rfl
  · rfl

theorem refused_of_answer {error : ConfigError}
    (answer : (registry.beginUpdate descriptors builder).2.outcome = .error error) :
    (registry.buildOf descriptors builder).outcome = .error error := by
  cases outcome : (registry.buildOf descriptors builder).outcome with
  | error other =>
      rw [(beginUpdate_of_refused outcome).2, Except.error.injEq] at answer
      rw [answer]
  | ok index =>
      by_cases ready : (registry.buildOf descriptors builder).handedOut index.generation = []
      · rw [(beginUpdate_of_ready outcome ready).2] at answer
        exact absurd answer (by simp)
      · rw [(beginUpdate_of_waiting outcome ready).2] at answer
        exact absurd answer (by simp)

theorem accepted_of_answer {outcome : UpdateOutcome}
    (answer : (registry.beginUpdate descriptors builder).2.outcome = .ok outcome) :
    ∃ index, (registry.buildOf descriptors builder).outcome = .ok index := by
  cases built : (registry.buildOf descriptors builder).outcome with
  | error error =>
      rw [(beginUpdate_of_refused built).2] at answer
      exact absurd answer (by simp)
  | ok index => exact ⟨index, rfl⟩

theorem waiting_of_answer {generation : GenerationId} {count : Nat}
    (answer : (registry.beginUpdate descriptors builder).2.outcome =
      .ok (.warming generation count)) :
    ∃ index, (registry.buildOf descriptors builder).outcome = .ok index ∧
      index.generation = generation ∧
      (registry.buildOf descriptors builder).handedOut index.generation ≠ [] := by
  obtain ⟨index, accepted⟩ := accepted_of_answer answer
  have waits : (registry.buildOf descriptors builder).handedOut index.generation ≠ [] := by
    intro ready
    rw [(beginUpdate_of_ready accepted ready).2] at answer
    exact absurd answer (by simp)
  have same := (beginUpdate_of_waiting accepted waits).2.symm.trans answer
  rw [Except.ok.injEq, UpdateOutcome.warming.injEq] at same
  exact ⟨index, accepted, same.1, waits⟩

/-- What the build of an update leaves, and what it activates. -/
def settle (registry : Registry) (build : Build) : Registry × List Activation :=
  match build.outcome with
  | .error _ => (registry.drawn build, [])
  | .ok index =>
      if build.handedOut index.generation = [] then
        (((registry.drawn build).warm index []).swap index, [registry.activationOf index])
      else ((registry.drawn build).warm index (build.handedOut index.generation), [])

/-- The build of an update decides everything else. -/
theorem update_eq_settle :
    (registry.step (.update descriptors builder), registry.activations (.update descriptors builder)) =
      registry.settle (registry.buildOf descriptors builder) := by
  unfold step activations settle
  dsimp only
  cases outcome : (registry.buildOf descriptors builder).outcome with
  | error error =>
      obtain ⟨after, answer⟩ := beginUpdate_of_refused outcome
      rw [after, answer]
  | ok index =>
      dsimp only
      by_cases ready : (registry.buildOf descriptors builder).handedOut index.generation = []
      · obtain ⟨after, answer⟩ := beginUpdate_of_ready outcome ready
        rw [after, answer, if_pos ready]
      · obtain ⟨after, answer⟩ := beginUpdate_of_waiting outcome ready
        rw [after, answer, if_neg ready]

theorem step_update :
    registry.step (.update descriptors builder) =
      (registry.settle (registry.buildOf descriptors builder)).1 :=
  congrArg (·.1) update_eq_settle

/-- What an update answers besides its outcome is what its build says. -/
theorem report_eq (registry : Registry) (descriptors : List FilterChainDescriptor)
    (builder : ChainBuilder) :
    (registry.beginUpdate descriptors builder).2 =
      ⟨⟨registry.nextGeneration⟩, (registry.beginUpdate descriptors builder).2.outcome,
        (registry.buildOf descriptors builder).handedOut ⟨registry.nextGeneration⟩,
        (registry.buildOf descriptors builder).state.built⟩ := by
  have folded : MatchIndex.build ⟨registry.nextGeneration⟩ registry.listener descriptors builder
      registry.active registry.nextChain = registry.buildOf descriptors builder := rfl
  unfold beginUpdate
  simp only [folded]
  cases (registry.buildOf descriptors builder).outcome with
  | error error => rfl
  | ok index =>
      dsimp only
      split <;> rfl

end Update

/-! ## Dispatches -/

private theorem deliver_of_not_mem {registry : Registry} {generations : List GenerationId}
    (absent : ∀ index, registry.warming = some index → index.generation ∉ generations) :
    registry.deliver generations = (registry, []) := by
  induction generations with
  | nil => rfl
  | cons generation rest inductionHypothesis =>
      have stale : registry.completeWarmup generation = (registry, none) := by
        unfold completeWarmup
        cases waiting : registry.warming with
        | none => rfl
        | some index =>
            have different : index.generation ≠ generation := by
              intro same
              apply absent index waiting
              rw [same]
              exact List.mem_cons_self
            dsimp only
            rw [if_neg different]
      have later : registry.deliver rest = (registry, []) := by
        apply inductionHypothesis
        intro index waiting queued
        exact absent index waiting (List.mem_cons_of_mem _ queued)
      unfold deliver
      rw [stale]
      dsimp only
      rw [later]
      rfl

private theorem deliver_of_mem {registry : Registry} {index : MatchIndex}
    {generations : List GenerationId} (waiting : registry.warming = some index)
    (queued : index.generation ∈ generations) :
    registry.deliver generations = (registry.swap index, [registry.activationOf index]) := by
  rcases registry.deliver_cases generations with ⟨other, also, delivered⟩ | delivered
  · rw [waiting] at also
    rw [Option.some.inj also]
    exact delivered
  · -- Delivery empties the warming slot at the notification of the index itself.
    exfalso
    induction generations with
    | nil => exact absurd queued List.not_mem_nil
    | cons generation rest inductionHypothesis =>
        unfold deliver at delivered
        unfold completeWarmup at delivered
        rw [waiting] at delivered
        dsimp only at delivered
        by_cases same : index.generation = generation
        · rw [if_pos same] at delivered
          simp at delivered
        · rw [if_neg same] at delivered
          apply inductionHypothesis
          · rcases List.mem_cons.mp queued with here | later
            · exact absurd here same
            · exact later
          · exact delivered

/-- A dispatch activates the warming index if its notification is queued. -/
theorem dispatchWarmed_of_mem {registry : Registry} {index : MatchIndex}
    (waiting : registry.warming = some index) (queued : index.generation ∈ registry.warmed) :
    registry.dispatchWarmed =
      ({ registry with warmed := [] }.swap index, [registry.activationOf index]) := by
  unfold dispatchWarmed
  exact deliver_of_mem waiting queued

/-- A dispatch does nothing else than to empty the queue if no notification of the warming index is
there. -/
theorem dispatchWarmed_of_not_mem {registry : Registry}
    (absent : ∀ index, registry.warming = some index → index.generation ∉ registry.warmed) :
    registry.dispatchWarmed = ({ registry with warmed := [] }, []) := by
  unfold dispatchWarmed
  exact deliver_of_not_mem absent

end Registry

/-! ## Origins -/

/-- The update of a run that drew the number of a generation. Updates draw a number each, also those
that are refused. -/
structure Origin (listener : String) (events : List Event) (generation : GenerationId) where
  /-- What was done before the update. -/
  earlier : List Event
  descriptors : List FilterChainDescriptor
  builder : ChainBuilder
  /-- What was done since. -/
  later : List Event
  split : events = earlier ++ .update descriptors builder :: later
  drawn : (Registry.ran listener earlier).nextGeneration = generation.value

/-- The first update draws the number 1. -/
theorem Registry.nextGeneration_ran_nil (listener : String) :
    (ran listener []).nextGeneration = 1 :=
  rfl

namespace Origin

variable {listener : String} {events : List Event} {generation : GenerationId}

def build (origin : Origin listener events generation) : Build :=
  (Registry.ran listener origin.earlier).buildOf origin.descriptors origin.builder

/-- What the update answered. -/
def outcome (origin : Origin listener events generation) : Except ConfigError UpdateOutcome :=
  ((Registry.ran listener origin.earlier).beginUpdate origin.descriptors origin.builder).2.outcome

/-- The targets that the build registered, each with what was asked for it. -/
def registered (origin : Origin listener events generation) : List (TargetRequest × InitTarget) :=
  Registry.numberTargets generation origin.build.state.targets

/-- A registered target was ready at once or has become ready since. -/
def IsReady (origin : Origin listener events generation) (entry : TargetRequest × InitTarget) :
    Prop :=
  entry.1.ready = true ∨ entry.2 ∈ readied origin.later

instance (origin : Origin listener events generation) (entry : TargetRequest × InitTarget) :
    Decidable (origin.IsReady entry) :=
  inferInstanceAs (Decidable (_ ∨ _))

/-- The registered targets that are not ready at the end of the run. -/
def missing (origin : Origin listener events generation) : List InitTarget :=
  (origin.registered.filter fun entry => ¬ origin.IsReady entry).map (·.2)

/-- The registered targets that were not ready when the build ended. -/
def outstanding (origin : Origin listener events generation) : List InitTarget :=
  (origin.registered.filter fun entry => ¬ entry.1.ready).map (·.2)

/-- A batch was accepted since. -/
def Superseded (origin : Origin listener events generation) : Prop :=
  ∃ between descriptors builder rest index,
    origin.later = between ++ .update descriptors builder :: rest ∧
      ((Registry.ran listener
        (origin.earlier ++ .update origin.descriptors origin.builder :: between)).buildOf
          descriptors builder).outcome = .ok index

/-- The origin as seen after one more event. -/
def concat (origin : Origin listener events generation) (event : Event) :
    Origin listener (events ++ [event]) generation where
  earlier := origin.earlier
  descriptors := origin.descriptors
  builder := origin.builder
  later := origin.later ++ [event]
  split := by
    conv_lhs => rw [origin.split]
    simp
  drawn := origin.drawn

/-- The origin of a generation whose update is the last event. -/
def last {listener : String} {events : List Event}
    (drawn : (Registry.ran listener events).nextGeneration = generation.value)
    (descriptors : List FilterChainDescriptor) (builder : ChainBuilder) :
    Origin listener (events ++ [.update descriptors builder]) generation where
  earlier := events
  descriptors
  builder
  later := []
  split := rfl
  drawn

theorem outstanding_eq (origin : Origin listener events generation) :
    origin.outstanding = origin.build.handedOut generation := by
  unfold outstanding Build.handedOut registered
  congr 1
  apply List.filter_congr
  intro entry _
  simp

/-- A target is missing if it was outstanding and has not become ready since. -/
theorem missing_eq (origin : Origin listener events generation) :
    origin.missing = origin.outstanding.filter (· ∉ readied origin.later) := by
  unfold missing outstanding IsReady
  rw [List.filter_map, List.filter_filter]
  congr 1
  apply List.filter_congr
  intro entry _
  simp [not_or, Bool.and_comm]

theorem missing_concat (origin : Origin listener events generation) (event : Event) :
    (origin.concat event).missing = origin.missing.filter (· ∉ event.target?.toList) := by
  have same : (origin.concat event).outstanding = origin.outstanding := rfl
  have since : (origin.concat event).later = origin.later ++ [event] := rfl
  have last : readied [event] = event.target?.toList := by
    unfold readied
    cases shape : event.target? <;> simp [shape]
  rw [missing_eq, missing_eq, same, since, readied_append, last, List.filter_filter]
  apply List.filter_congr
  intro target _
  simp [List.mem_append, not_or, Bool.and_comm]

end Origin

end Admission.Chain
