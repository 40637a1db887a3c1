import Admission.Proofs.Chain.Readiness

/-!
Contract: a generation that is not warming leaves no trace in what a registry does.

Owns:
- `Registry.forget`, a registry without the warm-up and the notifications of a generation, and
  `forget_step`, its exchange with every event;
- what a ready call can and cannot bring about: `targetReady_of_refused` and
  `activated_targetReady`.
-/

namespace Admission.Chain

/-- A change that leaves every value of a list alone leaves the list alone. -/
theorem map_eq_self {α : Type} {change : α → α} {values : List α}
    (spared : ∀ value ∈ values, change value = value) : values.map change = values := by
  conv_rhs => rw [← List.map_id values]
  exact List.map_congr_left spared

namespace Registry

/-- Takes the warm-up of a generation and its notifications out. -/
def forget (registry : Registry) (generation : GenerationId) : Registry :=
  { registry with
    warmups := registry.warmups.filter (·.generation ≠ generation)
    warmed := registry.warmed.filter (· ≠ generation) }

/-- Of a generation that is not drawn yet there is nothing to forget. -/
theorem InStep.forget_of_undrawn {registry : Registry} (inStep : registry.InStep)
    {generation : GenerationId} (undrawn : registry.nextGeneration ≤ generation.value) :
    registry.forget generation = registry := by
  have other : ∀ drawn : GenerationId, drawn.value < registry.nextGeneration →
      drawn ≠ generation := by
    intro drawn below same
    rw [same] at below
    omega
  have warmups : registry.warmups.filter (·.generation ≠ generation) = registry.warmups := by
    rw [List.filter_eq_self]
    intro warmup listed
    exact decide_eq_true (other warmup.generation (inStep.drawn warmup listed))
  have warmed : registry.warmed.filter (· ≠ generation) = registry.warmed := by
    rw [List.filter_eq_self]
    intro queued listed
    exact decide_eq_true (other queued (inStep.queued queued listed).1)
  unfold forget
  rw [warmups, warmed]

theorem activated_of_refused {registry : Registry} {descriptors : List FilterChainDescriptor}
    {builder : ChainBuilder} {error : ConfigError}
    (refused : (registry.buildOf descriptors builder).outcome = .error error) :
    registry.activations (.update descriptors builder) = [] := by
  unfold activations
  dsimp only
  rw [(beginUpdate_of_refused refused).2]

section Forget

variable {registry : Registry} {generation : GenerationId}

private theorem forget_settle {build : Build}
    (fresh : ∀ index, build.outcome = .ok index → index.generation ≠ generation) :
    (registry.forget generation).settle build =
      ((registry.settle build).1.forget generation, (registry.settle build).2) := by
  unfold settle
  cases outcome : build.outcome with
  | error error => rfl
  | ok index =>
      have different := fresh index outcome
      have enlisted : ∀ targets : List InitTarget,
          (registry.warmups ++ [Warmup.mk index.generation targets]).filter
              (·.generation ≠ generation) =
            registry.warmups.filter (·.generation ≠ generation) ++
              [⟨index.generation, targets⟩] := by
        intro targets
        rw [List.filter_append, List.filter_cons_of_pos (by simpa using different), List.filter_nil]
      dsimp only
      split
      · unfold forget swap warm drawn
        dsimp only
        rw [enlisted]
        rfl
      · unfold forget warm drawn
        dsimp only
        rw [enlisted]

/-- An update does not look at warm-ups and notifications. -/
theorem forget_update (fresh : generation.value ≠ registry.nextGeneration)
    (descriptors : List FilterChainDescriptor) (builder : ChainBuilder) :
    (registry.forget generation).step (.update descriptors builder) =
        (registry.step (.update descriptors builder)).forget generation ∧
      (registry.forget generation).activations (.update descriptors builder) =
        registry.activations (.update descriptors builder) := by
  have different : ∀ index, (registry.buildOf descriptors builder).outcome = .ok index →
      index.generation ≠ generation := by
    intro index accepted same
    apply fresh
    rw [← same, MatchIndex.generation_of_accepted accepted]
  have forgotten : ((registry.forget generation).step (.update descriptors builder),
      (registry.forget generation).activations (.update descriptors builder)) =
        (registry.forget generation).settle (registry.buildOf descriptors builder) :=
    update_eq_settle
  rw [forget_settle different, ← update_eq_settle] at forgotten
  exact Prod.mk.inj forgotten

theorem forget_targetReady (target : InitTarget) :
    (registry.forget generation).targetReady target =
      (registry.targetReady target).forget generation := by
  unfold forget targetReady
  dsimp only
  rw [List.filter_append, List.filter_map, List.filter_map, List.filter_filter, List.filter_filter]
  congr 3
  apply List.filter_congr
  intro warmup _
  simp [Bool.and_comm]

private theorem forget_dispatch
    (stale : ∀ index, registry.warming = some index → index.generation ≠ generation) :
    (registry.forget generation).step .dispatch = (registry.step .dispatch).forget generation ∧
      (registry.forget generation).activations .dispatch = registry.activations .dispatch := by
  have mem_iff : ∀ index, registry.warming = some index →
      (index.generation ∈ (registry.forget generation).warmed ↔
        index.generation ∈ registry.warmed) := by
    intro index waiting
    unfold forget
    dsimp only
    rw [List.mem_filter]
    simp [stale index waiting]
  unfold step activations
  dsimp only
  by_cases queued : ∃ index, registry.warming = some index ∧ index.generation ∈ registry.warmed
  · obtain ⟨index, waiting, listed⟩ := queued
    have forgotten : (registry.forget generation).warming = some index := waiting
    rw [dispatchWarmed_of_mem waiting listed,
      dispatchWarmed_of_mem forgotten ((mem_iff index waiting).mpr listed)]
    exact ⟨rfl, rfl⟩
  · have absent : ∀ index, registry.warming = some index → index.generation ∉ registry.warmed :=
      fun index waiting listed => queued ⟨index, waiting, listed⟩
    have forgotten : ∀ index, (registry.forget generation).warming = some index →
        index.generation ∉ (registry.forget generation).warmed :=
      fun index waiting listed => absent index waiting ((mem_iff index waiting).mp listed)
    rw [dispatchWarmed_of_not_mem absent, dispatchWarmed_of_not_mem forgotten]
    exact ⟨rfl, rfl⟩

/-- A generation that a dispatch cannot activate leaves no trace in what an event does. -/
theorem forget_step (drawn : generation.value < registry.nextGeneration) {event : Event}
    (stale : event = .dispatch →
      ∀ index, registry.warming = some index → index.generation ≠ generation) :
    (registry.forget generation).step event = (registry.step event).forget generation ∧
      (registry.forget generation).activations event = registry.activations event := by
  cases event with
  | update descriptors builder => exact forget_update (Nat.ne_of_lt drawn) descriptors builder
  | ready target => exact ⟨forget_targetReady target, rfl⟩
  | dispatch => exact forget_dispatch (stale rfl)

end Forget

/-! ## Ready calls -/

theorem targetReady_of_not_outstanding {registry : Registry} {target : InitTarget}
    (unknown : ∀ warmup ∈ registry.warmups, target ∉ warmup.outstanding) :
    registry.targetReady target = registry := by
  have kept : registry.warmups.map (fun warmup =>
      { warmup with outstanding := warmup.outstanding.filter (· ≠ target) }) = registry.warmups := by
    apply map_eq_self
    intro warmup listed
    have all : warmup.outstanding.filter (· ≠ target) = warmup.outstanding := by
      rw [List.filter_eq_self]
      intro other held
      simp only [ne_eq, decide_not, Bool.not_eq_true', decide_eq_false_iff_not]
      intro same
      rw [same] at held
      exact unknown warmup listed held
    rw [all]
  have none : registry.finishedBy target = [] := by
    unfold finishedBy
    rw [List.map_eq_nil_iff, List.filter_eq_nil_iff]
    intro warmup listed
    simp [unknown warmup listed]
  have warmed := registry.warmed_targetReady target
  rw [none, List.append_nil] at warmed
  unfold targetReady at warmed ⊢
  dsimp only at warmed ⊢
  rw [warmed, kept]

/-- A target of a generation that waits for nothing changes nothing. -/
theorem InStep.targetReady_of_settled {registry : Registry} (inStep : registry.InStep)
    {target : InitTarget} (nothing : registry.outstanding target.generation = []) :
    registry.targetReady target = registry := by
  apply targetReady_of_not_outstanding
  intro warmup listed held
  have own := inStep.own warmup listed target held
  have member : target ∈ registry.outstanding target.generation :=
    mem_outstanding.mpr ⟨warmup, listed, own.symm, held⟩
  rw [nothing] at member
  exact List.not_mem_nil member

/-- A target of a batch that was refused changes nothing. -/
theorem targetReady_of_refused {listener : String} {events : List Event} {target : InitTarget}
    (origin : Origin listener events target.generation) {error : ConfigError}
    (refused : origin.build.outcome = .error error) :
    (ran listener events).targetReady target = ran listener events := by
  apply (inStep_ran listener events).targetReady_of_settled
  have drawn := origin.drawn
  have after : origin.after =
      (ran listener origin.earlier).drawn origin.build := (beginUpdate_of_refused refused).1
  have given : target.generation.value < origin.after.nextGeneration := by
    rw [after]
    show target.generation.value < (ran listener origin.earlier).nextGeneration + 1
    omega
  have before : origin.after.outstanding target.generation = [] := by
    rw [after, outstanding_eq_nil_iff]
    intro warmup listed same
    have earlier := (inStep_ran listener origin.earlier).drawn warmup listed
    rw [same] at earlier
    omega
  rw [origin.ran_eq, outstanding_run given, before]
  rfl

private theorem forget_targetReady_self {registry : Registry} (inStep : registry.InStep)
    (target : InitTarget) :
    (registry.targetReady target).forget target.generation = registry.forget target.generation := by
  rw [← forget_targetReady]
  apply targetReady_of_not_outstanding
  intro warmup listed held
  obtain ⟨earlier, different⟩ := List.mem_filter.mp listed
  have own := inStep.own warmup earlier target held
  simp [own] at different

/-- Two registries that differ in the warm-up of a generation alone, which waits for less in the
first. -/
structure Ahead (left right : Registry) (generation : GenerationId) : Prop where
  leftInStep : left.InStep
  rightInStep : right.InStep
  drawn : generation.value < left.nextGeneration
  same : left.forget generation = right.forget generation
  less : ∀ target ∈ left.outstanding generation, target ∈ right.outstanding generation

/-- A dispatch does not activate what still waits for a target. -/
theorem InStep.dispatchWarmed_of_unfinished {registry : Registry} (inStep : registry.InStep)
    {index : MatchIndex} (waiting : registry.warming = some index)
    (unfinished : registry.outstanding index.generation ≠ []) :
    registry.dispatchWarmed = ({ registry with warmed := [] }, []) := by
  apply dispatchWarmed_of_not_mem
  intro other here
  rw [waiting] at here
  rw [← Option.some.inj here]
  exact inStep.not_queued unfinished

/-- The generation waits for targets in both, or else a dispatch would activate it in the first. -/
theorem Ahead.dispatch_of_waiting {left right : Registry} {index : MatchIndex}
    (ahead : left.Ahead right index.generation) (waiting : left.warming = some index)
    (elsewhere : ∀ activation ∈ left.activations .dispatch,
      activation.generation ≠ index.generation) :
    (left.step .dispatch).forget index.generation =
        (right.step .dispatch).forget index.generation ∧
      left.activations .dispatch = right.activations .dispatch := by
  have rightWaiting : right.warming = some index :=
    (congrArg (·.warming) ahead.same).symm.trans waiting
  have unfinished : left.outstanding index.generation ≠ [] := by
    intro nothing
    have queued := (ahead.leftInStep.queued_iff waiting).mpr nothing
    have activates : left.activations .dispatch = [left.activationOf index] := by
      unfold activations
      dsimp only
      rw [dispatchWarmed_of_mem waiting queued]
    rw [activates] at elsewhere
    exact elsewhere (left.activationOf index) List.mem_cons_self rfl
  have rightUnfinished : right.outstanding index.generation ≠ [] := by
    intro nothing
    obtain ⟨target, listed⟩ := List.exists_mem_of_ne_nil _ unfinished
    have member := ahead.less target listed
    rw [nothing] at member
    exact List.not_mem_nil member
  unfold Registry.step activations
  dsimp only
  rw [ahead.leftInStep.dispatchWarmed_of_unfinished waiting unfinished,
    ahead.rightInStep.dispatchWarmed_of_unfinished rightWaiting rightUnfinished]
  exact ⟨congrArg (fun registry : Registry => { registry with warmed := [] }) ahead.same, rfl⟩

/-- Unless it activates the generation itself, an event does the same to both. -/
theorem Ahead.step {left right : Registry} {generation : GenerationId}
    (ahead : left.Ahead right generation) {event : Event}
    (elsewhere : ∀ activation ∈ left.activations event, activation.generation ≠ generation) :
    (left.step event).Ahead (right.step event) generation ∧
      left.activations event = right.activations event := by
  have sameWarming : left.warming = right.warming := congrArg (·.warming) ahead.same
  have sameNext : left.nextGeneration = right.nextGeneration :=
    congrArg (·.nextGeneration) ahead.same
  have rightDrawn := ahead.drawn
  rw [sameNext] at rightDrawn
  have both : (left.step event).forget generation = (right.step event).forget generation ∧
      left.activations event = right.activations event := by
    by_cases held : event = .dispatch ∧
        ∃ index, left.warming = some index ∧ index.generation = generation
    · obtain ⟨rfl, index, waiting, rfl⟩ := held
      exact ahead.dispatch_of_waiting waiting elsewhere
    · have leftStale : event = .dispatch →
          ∀ index, left.warming = some index → index.generation ≠ generation :=
        fun dispatches index waiting equal => held ⟨dispatches, index, waiting, equal⟩
      have rightStale := leftStale
      rw [sameWarming] at rightStale
      have leftForgets := forget_step ahead.drawn leftStale
      have rightForgets := forget_step rightDrawn rightStale
      rw [ahead.same] at leftForgets
      exact ⟨leftForgets.1.symm.trans rightForgets.1, leftForgets.2.symm.trans rightForgets.2⟩
  have less : ∀ target ∈ (left.step event).outstanding generation,
      target ∈ (right.step event).outstanding generation := by
    rw [outstanding_step ahead.drawn, outstanding_step rightDrawn]
    intro target listed
    obtain ⟨before, kept⟩ := List.mem_filter.mp listed
    exact List.mem_filter.mpr ⟨ahead.less target before, kept⟩
  exact ⟨⟨ahead.leftInStep.step event, ahead.rightInStep.step event,
    ahead.drawn.trans_le (left.nextGeneration_le_step event), both.1, less⟩, both.2⟩

private theorem Ahead.activated {left right : Registry} {generation : GenerationId}
    (ahead : left.Ahead right generation) {events : List Event}
    (elsewhere : ∀ activation ∈ left.activated events, activation.generation ≠ generation) :
    left.activated events = right.activated events := by
  induction events generalizing left right with
  | nil => rfl
  | cons event rest inductionHypothesis =>
      unfold Registry.activated at elsewhere ⊢
      have here : ∀ activation ∈ left.activations event, activation.generation ≠ generation :=
        fun activation listed => elsewhere activation (List.mem_append_left _ listed)
      obtain ⟨after, sameHere⟩ := ahead.step here
      have later := inductionHypothesis after
        fun activation listed => elsewhere activation (List.mem_append_right _ listed)
      rw [sameHere, later]

/-- A ready call is without effect on activations, unless they are those of its own generation. -/
theorem InStep.activated_targetReady {registry : Registry} (inStep : registry.InStep)
    {target : InitTarget} {events : List Event}
    (elsewhere : ∀ activation ∈ (registry.targetReady target).activated events,
      activation.generation ≠ target.generation) :
    (registry.targetReady target).activated events = registry.activated events := by
  by_cases nothing : registry.outstanding target.generation = []
  · rw [inStep.targetReady_of_settled nothing]
  · have drawn : target.generation.value < registry.nextGeneration := by
      obtain ⟨other, listed⟩ := List.exists_mem_of_ne_nil _ nothing
      obtain ⟨warmup, member, same, _⟩ := mem_outstanding.mp listed
      rw [← same]
      exact inStep.drawn warmup member
    have ahead : (registry.targetReady target).Ahead registry target.generation := by
      refine ⟨inStep.targetReady target, inStep, drawn, forget_targetReady_self inStep target, ?_⟩
      rw [outstanding_targetReady]
      exact fun other listed => List.mem_of_mem_filter listed
    exact ahead.activated elsewhere

end Registry

end Admission.Chain
