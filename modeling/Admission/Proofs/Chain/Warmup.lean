import Admission.Proofs.Chain.History

/-!
Contract: warm-ups, the queue of notifications and the two slots of a registry keep in step.

Owns:
- `Registry.InStep`, the invariant, kept by every event;
- what a dispatch does in a registry that is in step, and that the generations which a run activates
  ascend.
-/

namespace Admission.Chain

namespace Registry

/-! ## Outstanding targets -/

theorem mem_outstanding {registry : Registry} {generation : GenerationId} {target : InitTarget} :
    target ∈ registry.outstanding generation ↔
      ∃ warmup ∈ registry.warmups, warmup.generation = generation ∧ target ∈ warmup.outstanding := by
  unfold outstanding
  simp only [List.mem_flatMap, List.mem_filter, decide_eq_true_eq, and_assoc]

theorem outstanding_eq_nil_iff {registry : Registry} {generation : GenerationId} :
    registry.outstanding generation = [] ↔
      ∀ warmup ∈ registry.warmups, warmup.generation = generation → warmup.outstanding = [] := by
  unfold outstanding
  simp only [List.flatMap_eq_nil_iff, List.mem_filter, decide_eq_true_eq, and_imp]

/-- A target that becomes ready is taken from what its generation waits for. -/
theorem outstanding_targetReady (registry : Registry) (target : InitTarget)
    (generation : GenerationId) :
    (registry.targetReady target).outstanding generation =
      (registry.outstanding generation).filter (· ≠ target) := by
  unfold outstanding targetReady
  dsimp only
  induction registry.warmups with
  | nil => rfl
  | cons warmup rest inductionHypothesis =>
      rw [List.map_cons]
      by_cases here : warmup.generation = generation
      · rw [List.filter_cons_of_pos (by simpa using here),
          List.filter_cons_of_pos (by simpa using here), List.flatMap_cons, List.flatMap_cons,
          List.filter_append, inductionHypothesis]
      · rw [List.filter_cons_of_neg (by simpa using here),
          List.filter_cons_of_neg (by simpa using here), inductionHypothesis]

theorem outstanding_concat_of_ne {registry : Registry} {warmup : Warmup} {generation : GenerationId}
    (different : warmup.generation ≠ generation) :
    { registry with warmups := registry.warmups ++ [warmup] }.outstanding generation =
      registry.outstanding generation := by
  unfold outstanding
  dsimp only
  rw [List.filter_append, List.filter_cons_of_neg (by simpa using different), List.filter_nil,
    List.append_nil]

/-! ## The invariant -/

/-- Warm-ups, queue and slots fit together. -/
structure InStep (registry : Registry) : Prop where
  /-- A warm-up waits for targets of its own generation. -/
  own : ∀ warmup ∈ registry.warmups, ∀ target ∈ warmup.outstanding,
    target.generation = warmup.generation
  drawn : ∀ warmup ∈ registry.warmups, warmup.generation.value < registry.nextGeneration
  single : (registry.warmups.map (·.generation)).Nodup
  /-- A notification is queued only for a number that is given out and waits for nothing. -/
  queued : ∀ generation ∈ registry.warmed,
    generation.value < registry.nextGeneration ∧ registry.outstanding generation = []
  /-- A warming generation that waits for nothing is queued once. -/
  warming : ∀ index, registry.warming = some index →
    index.generation.value < registry.nextGeneration ∧
      (registry.outstanding index.generation = [] → registry.warmed.count index.generation = 1)
  active : ∀ index, registry.active = some index → index.generation.value < registry.nextGeneration
  ascending : ∀ older newer, registry.active = some older → registry.warming = some newer →
    older.generation.value < newer.generation.value

theorem inStep_new (listener : String) : (Registry.new listener).InStep where
  own := fun _ none => absurd none (by simp [Registry.new])
  drawn := fun _ none => absurd none (by simp [Registry.new])
  single := List.nodup_nil
  queued := fun _ none => absurd none (by simp [Registry.new])
  warming := fun _ none => absurd none (by simp [Registry.new])
  active := fun _ none => absurd none (by simp [Registry.new])
  ascending := fun _ _ none => absurd none (by simp [Registry.new])

/-- The generations whose last target a call makes ready. -/
def finishedBy (registry : Registry) (target : InitTarget) : List GenerationId :=
  (registry.warmups.filter fun warmup =>
    target ∈ warmup.outstanding ∧ warmup.outstanding.filter (· ≠ target) = []).map (·.generation)

/-- An accepted batch leaves a warm-up, the slots aside. -/
def enlist (registry : Registry) (build : Build) (generation : GenerationId)
    (targets : List InitTarget) : Registry :=
  { registry.drawn build with warmups := registry.warmups ++ [⟨generation, targets⟩] }

theorem warmed_targetReady (registry : Registry) (target : InitTarget) :
    (registry.targetReady target).warmed = registry.warmed ++ registry.finishedBy target := rfl

namespace InStep

variable {registry : Registry} (inStep : registry.InStep)

include inStep

theorem outstanding_of_mem {warmup : Warmup} (listed : warmup ∈ registry.warmups) :
    registry.outstanding warmup.generation = warmup.outstanding := by
  have single := inStep.single
  unfold outstanding
  clear inStep
  generalize registry.warmups = warmups at listed single ⊢
  induction warmups with
  | nil => exact absurd listed List.not_mem_nil
  | cons first rest inductionHypothesis =>
      rw [List.map_cons, List.nodup_cons] at single
      rcases List.mem_cons.mp listed with rfl | later
      · have others : rest.filter (·.generation = warmup.generation) = [] := by
          rw [List.filter_eq_nil_iff]
          intro other member same
          apply single.1
          rw [← of_decide_eq_true same]
          exact List.mem_map_of_mem member
        rw [List.filter_cons_of_pos (by simp), others]
        simp
      · have different : first.generation ≠ warmup.generation := by
          intro same
          apply single.1
          rw [same]
          exact List.mem_map_of_mem later
        rw [List.filter_cons_of_neg (by simpa using different)]
        exact inductionHypothesis later single.2

/-- A call finishes a generation if the target is the last that the generation waits for. -/
theorem mem_finishedBy_iff {target : InitTarget} {generation : GenerationId} :
    generation ∈ registry.finishedBy target ↔
      target ∈ registry.outstanding generation ∧
        (registry.outstanding generation).filter (· ≠ target) = [] := by
  unfold finishedBy
  simp only [List.mem_map, List.mem_filter, decide_eq_true_eq]
  constructor
  · rintro ⟨warmup, ⟨listed, member, last⟩, rfl⟩
    rw [inStep.outstanding_of_mem listed]
    exact ⟨member, last⟩
  · rintro ⟨member, last⟩
    obtain ⟨warmup, listed, rfl, held⟩ := mem_outstanding.mp member
    rw [inStep.outstanding_of_mem listed] at last
    exact ⟨warmup, ⟨listed, held, last⟩, rfl⟩

theorem finishedBy_nodup (target : InitTarget) : (registry.finishedBy target).Nodup :=
  (List.Sublist.map _ List.filter_sublist).nodup inStep.single

/-- A generation that waits for something is not queued. -/
theorem not_queued {generation : GenerationId} (waits : registry.outstanding generation ≠ []) :
    generation ∉ registry.warmed :=
  fun queued => waits (inStep.queued generation queued).2

theorem targetReady (target : InitTarget) : (registry.targetReady target).InStep where
  own := by
    intro warmup listed other held
    unfold Registry.targetReady at listed
    obtain ⟨before, earlier, rfl⟩ := List.mem_map.mp listed
    exact inStep.own before earlier other (List.mem_of_mem_filter held)
  drawn := by
    intro warmup listed
    unfold Registry.targetReady at listed
    obtain ⟨before, earlier, rfl⟩ := List.mem_map.mp listed
    exact inStep.drawn before earlier
  single := by
    unfold Registry.targetReady
    rw [List.map_map]
    exact inStep.single
  queued := by
    intro generation queued
    rw [warmed_targetReady] at queued
    rw [outstanding_targetReady]
    rcases List.mem_append.mp queued with earlier | finished
    · obtain ⟨given, nothing⟩ := inStep.queued generation earlier
      rw [nothing]
      exact ⟨given, rfl⟩
    · obtain ⟨member, last⟩ := inStep.mem_finishedBy_iff.mp finished
      obtain ⟨warmup, listed, rfl, _⟩ := mem_outstanding.mp member
      exact ⟨inStep.drawn warmup listed, last⟩
  warming := by
    intro index waiting
    obtain ⟨given, queuedOnce⟩ := inStep.warming index waiting
    refine ⟨given, ?_⟩
    rw [outstanding_targetReady, warmed_targetReady, List.count_append]
    intro none
    -- Either nothing was outstanding before, or this call was the last one.
    by_cases before : registry.outstanding index.generation = []
    · have unfinished : index.generation ∉ registry.finishedBy target := by
        intro finished
        have member := (inStep.mem_finishedBy_iff.mp finished).1
        rw [before] at member
        exact List.not_mem_nil member
      rw [queuedOnce before, List.count_eq_zero_of_not_mem unfinished]
    · have member : target ∈ registry.outstanding index.generation := by
        obtain ⟨some, listed⟩ := List.exists_mem_of_ne_nil _ before
        have same := List.filter_eq_nil_iff.mp none some listed
        have equal : some = target := by simpa using same
        rw [← equal]
        exact listed
      have finished := inStep.mem_finishedBy_iff.mpr ⟨member, none⟩
      rw [List.count_eq_zero_of_not_mem (inStep.not_queued before),
        List.count_eq_one_of_mem (inStep.finishedBy_nodup target) finished]
  active := inStep.active
  ascending := inStep.ascending

private theorem counted (build : Build) : (registry.drawn build).InStep where
  own := inStep.own
  drawn := fun warmup listed => Nat.lt_succ_of_lt (inStep.drawn warmup listed)
  single := inStep.single
  queued := by
    intro generation queued
    obtain ⟨given, nothing⟩ := inStep.queued generation queued
    exact ⟨Nat.lt_succ_of_lt given, nothing⟩
  warming := by
    intro index waiting
    obtain ⟨given, queuedOnce⟩ := inStep.warming index waiting
    exact ⟨Nat.lt_succ_of_lt given, queuedOnce⟩
  active := fun index here => Nat.lt_succ_of_lt (inStep.active index here)
  ascending := inStep.ascending

private theorem enlist (build : Build) {generation : GenerationId} {targets : List InitTarget}
    (fresh : generation.value = registry.nextGeneration)
    (own : ∀ target ∈ targets, target.generation = generation) :
    (registry.enlist build generation targets).InStep := by
  have counted := inStep.counted build
  have elsewhere : ∀ other : GenerationId, other.value < registry.nextGeneration →
      generation ≠ other := by
    intro other given same
    rw [← same] at given
    omega
  have unchanged : ∀ other : GenerationId, other.value < registry.nextGeneration →
      (registry.enlist build generation targets).outstanding other = registry.outstanding other :=
    fun other given => outstanding_concat_of_ne (elsewhere other given)
  refine ⟨?_, ?_, ?_, ?_, ?_, counted.active, counted.ascending⟩
  · intro warmup listed target held
    rcases List.mem_append.mp listed with earlier | here
    · exact inStep.own warmup earlier target held
    · rw [List.mem_singleton.mp here] at held ⊢
      exact own target held
  · intro warmup listed
    rcases List.mem_append.mp listed with earlier | here
    · exact counted.drawn warmup earlier
    · rw [List.mem_singleton.mp here]
      show generation.value < registry.nextGeneration + 1
      omega
  · unfold Registry.enlist
    dsimp only
    rw [List.map_append, List.map_singleton, ← List.concat_eq_append]
    apply List.Nodup.concat
    · intro listed
      obtain ⟨warmup, earlier, same⟩ := List.mem_map.mp listed
      exact elsewhere _ (inStep.drawn warmup earlier) same.symm
    · exact inStep.single
  · intro other queued
    obtain ⟨given, nothing⟩ := inStep.queued other queued
    rw [unchanged other given]
    exact ⟨Nat.lt_succ_of_lt given, nothing⟩
  · intro index waiting
    obtain ⟨given, queuedOnce⟩ := inStep.warming index waiting
    rw [unchanged index.generation given]
    exact ⟨Nat.lt_succ_of_lt given, queuedOnce⟩

private theorem withWarming {index : MatchIndex}
    (given : index.generation.value < registry.nextGeneration)
    (waits : registry.outstanding index.generation ≠ [])
    (newer : ∀ older, registry.active = some older →
      older.generation.value < index.generation.value) :
    { registry with warming := some index }.InStep where
  own := inStep.own
  drawn := inStep.drawn
  single := inStep.single
  queued := inStep.queued
  warming := by
    intro other waiting
    rw [← Option.some.inj waiting]
    exact ⟨given, fun nothing => absurd nothing waits⟩
  active := inStep.active
  ascending := by
    intro older other here waiting
    rw [← Option.some.inj waiting]
    exact newer older here

private theorem swap {index : MatchIndex}
    (given : index.generation.value < registry.nextGeneration) :
    (registry.swap index).InStep where
  own := inStep.own
  drawn := inStep.drawn
  single := inStep.single
  queued := inStep.queued
  warming := fun _ none => absurd none (by simp [Registry.swap])
  active := by
    intro other here
    rw [← Option.some.inj here]
    exact given
  ascending := fun _ _ _ none => absurd none (by simp [Registry.swap])

private theorem beginUpdate (descriptors : List FilterChainDescriptor) (builder : ChainBuilder) :
    (registry.beginUpdate descriptors builder).1.InStep := by
  cases outcome : (registry.buildOf descriptors builder).outcome with
  | error error =>
      rw [(beginUpdate_of_refused outcome).1]
      exact inStep.counted _
  | ok index =>
      have fresh : index.generation.value = registry.nextGeneration :=
        congrArg (·.value) (MatchIndex.generation_of_accepted outcome)
      by_cases ready : (registry.buildOf descriptors builder).handedOut index.generation = []
      · rw [(beginUpdate_of_ready outcome ready).1]
        have enlisted : (registry.enlist (registry.buildOf descriptors builder) index.generation
            []).InStep := inStep.enlist _ fresh (by simp)
        apply enlisted.swap
        show index.generation.value < registry.nextGeneration + 1
        omega
      · rw [(beginUpdate_of_waiting outcome ready).1]
        have enlisted : (registry.enlist (registry.buildOf descriptors builder) index.generation
            ((registry.buildOf descriptors builder).handedOut index.generation)).InStep :=
          inStep.enlist _ fresh fun _ handed => Build.generation_of_handedOut handed
        apply enlisted.withWarming
        · show index.generation.value < registry.nextGeneration + 1
          omega
        · rw [enlisted.outstanding_of_mem (List.mem_append_right _ List.mem_cons_self)]
          exact ready
        · intro older here
          rw [fresh]
          exact inStep.active older here

/-- A warming index is queued if it waits for nothing, and only then. -/
theorem queued_iff {index : MatchIndex} (waiting : registry.warming = some index) :
    index.generation ∈ registry.warmed ↔ registry.outstanding index.generation = [] := by
  constructor
  · intro queued
    exact (inStep.queued index.generation queued).2
  · intro nothing
    have once := (inStep.warming index waiting).2 nothing
    apply List.count_pos_iff.mp
    omega

/-- A dispatch activates the warming index if it waits for nothing, and does nothing otherwise. -/
theorem dispatchWarmed_cases :
    (∃ index, registry.warming = some index ∧ registry.outstanding index.generation = [] ∧
      registry.dispatchWarmed =
        ({ registry with warmed := [] }.swap index, [registry.activationOf index])) ∨
    ((∀ index, registry.warming = some index → registry.outstanding index.generation ≠ []) ∧
      registry.dispatchWarmed = ({ registry with warmed := [] }, [])) := by
  by_cases ready : ∃ index, registry.warming = some index ∧
      registry.outstanding index.generation = []
  · obtain ⟨index, waiting, nothing⟩ := ready
    have queued := (inStep.queued_iff waiting).mpr nothing
    exact .inl ⟨index, waiting, nothing, dispatchWarmed_of_mem waiting queued⟩
  · have unfinished : ∀ index, registry.warming = some index →
        registry.outstanding index.generation ≠ [] :=
      fun index waiting nothing => ready ⟨index, waiting, nothing⟩
    have absent : ∀ index, registry.warming = some index → index.generation ∉ registry.warmed :=
      fun index waiting => inStep.not_queued (unfinished index waiting)
    exact .inr ⟨unfinished, dispatchWarmed_of_not_mem absent⟩

/-- The queue may be emptied while the warming index still waits. -/
theorem emptied
    (unfinished : ∀ index, registry.warming = some index →
      registry.outstanding index.generation ≠ []) : { registry with warmed := [] }.InStep where
  own := inStep.own
  drawn := inStep.drawn
  single := inStep.single
  queued := fun _ none => absurd none List.not_mem_nil
  warming := by
    intro index waiting
    exact ⟨(inStep.warming index waiting).1, fun nothing => absurd nothing (unfinished index waiting)⟩
  active := inStep.active
  ascending := inStep.ascending

private theorem dispatchWarmed : registry.dispatchWarmed.1.InStep := by
  rcases inStep.dispatchWarmed_cases with ⟨index, waiting, _, dispatched⟩ | ⟨unfinished, dispatched⟩
  · rw [dispatched]
    have given := (inStep.warming index waiting).1
    have swapped := inStep.swap given
    exact ⟨swapped.own, swapped.drawn, swapped.single, fun _ none => absurd none List.not_mem_nil,
      fun _ none => absurd none (by simp [Registry.swap]), swapped.active, swapped.ascending⟩
  · rw [dispatched]
    exact inStep.emptied unfinished

theorem step (event : Event) : (registry.step event).InStep := by
  cases event with
  | update descriptors builder => exact inStep.beginUpdate descriptors builder
  | ready target => exact inStep.targetReady target
  | dispatch => exact inStep.dispatchWarmed

theorem run (events : List Event) : (registry.run events).InStep := by
  induction events generalizing registry with
  | nil => exact inStep
  | cons event rest inductionHypothesis => exact inductionHypothesis (inStep.step event)

end InStep

theorem inStep_ran (listener : String) (events : List Event) : (ran listener events).InStep :=
  (inStep_new listener).run events

/-! ## Activations -/

/-- An event activates one index, newer than the one before, or leaves the active one. -/
theorem InStep.activations_cases {registry : Registry} (inStep : registry.InStep) (event : Event) :
    (registry.activations event = [] ∧ (registry.step event).active = registry.active) ∨
    (∃ index, registry.activations event = [registry.activationOf index] ∧
      (registry.step event).active = some index ∧
      ∀ older, registry.active = some older →
        older.generation.value < index.generation.value) := by
  cases event with
  | update descriptors builder =>
      unfold activations Registry.step
      dsimp only
      cases outcome : (registry.buildOf descriptors builder).outcome with
      | error error =>
          obtain ⟨after, answer⟩ := beginUpdate_of_refused outcome
          rw [after, answer]
          exact .inl ⟨rfl, rfl⟩
      | ok index =>
          by_cases ready : (registry.buildOf descriptors builder).handedOut index.generation = []
          · obtain ⟨after, answer⟩ := beginUpdate_of_ready outcome ready
            rw [after, answer]
            refine .inr ⟨index, rfl, rfl, ?_⟩
            intro older here
            rw [MatchIndex.generation_of_accepted outcome]
            exact inStep.active older here
          · obtain ⟨after, answer⟩ := beginUpdate_of_waiting outcome ready
            rw [after, answer]
            exact .inl ⟨rfl, rfl⟩
  | ready target => exact .inl ⟨rfl, rfl⟩
  | dispatch =>
      unfold activations Registry.step
      dsimp only
      rcases inStep.dispatchWarmed_cases with ⟨index, waiting, _, dispatched⟩ | ⟨_, dispatched⟩
      · rw [dispatched]
        refine .inr ⟨index, rfl, rfl, ?_⟩
        intro older here
        exact inStep.ascending older index here waiting
      · rw [dispatched]
        exact .inl ⟨rfl, rfl⟩

/-- The generations that a run activates ascend, from the active one on. -/
theorem InStep.activated_ascending {registry : Registry} (inStep : registry.InStep)
    (events : List Event) :
    (∀ activation ∈ registry.activated events, ∀ older, registry.active = some older →
      older.generation.value < activation.generation.value) ∧
    ((registry.activated events).map (·.generation.value)).Pairwise (· < ·) := by
  induction events generalizing registry with
  | nil => simp [activated]
  | cons event rest inductionHypothesis =>
      obtain ⟨later, pairwise⟩ := inductionHypothesis (inStep.step event)
      unfold activated
      rcases inStep.activations_cases event with ⟨none, same⟩ | ⟨index, one, now, newer⟩
      · rw [none, List.nil_append]
        rw [same] at later
        exact ⟨later, pairwise⟩
      · rw [one, List.singleton_append, List.map_cons, List.pairwise_cons]
        have above : ∀ activation ∈ (registry.step event).activated rest,
            index.generation.value < activation.generation.value :=
          fun activation listed => later activation listed index now
        refine ⟨?_, ?_, pairwise⟩
        · intro activation listed older here
          rcases List.mem_cons.mp listed with rfl | rest
          · exact newer older here
          · exact (newer older here).trans (above activation rest)
        · intro value listed
          obtain ⟨activation, member, rfl⟩ := List.mem_map.mp listed
          exact above activation member

/-- An active index is replaced, never lost. -/
theorem InStep.active_isSome_run {registry : Registry} (inStep : registry.InStep)
    (present : registry.active.isSome) (events : List Event) :
    (registry.run events).active.isSome := by
  induction events generalizing registry with
  | nil => exact present
  | cons event rest inductionHypothesis =>
      apply inductionHypothesis (inStep.step event)
      rcases inStep.activations_cases event with ⟨_, same⟩ | ⟨index, _, now, _⟩
      · rw [same]
        exact present
      · rw [now]
        rfl

end Registry

end Admission.Chain
