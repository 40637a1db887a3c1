import Admission.Chain.Scripted
import Admission.Proofs.Chain.Warmup

/-!
Contract: a warm-up ends with exactly one activation, or is superseded.

Owns:
- the agreement of a registry's bookkeeping with the run that led to it, `outstanding_eq_missing`;
- `no_warmup_is_lost`.
-/

namespace Admission.Chain

namespace Registry

/-! ## What the bookkeeping knows of the run -/

theorem nextGeneration_le_step (registry : Registry) (event : Event) :
    registry.nextGeneration ≤ (registry.step event).nextGeneration := by
  cases event with
  | update descriptors builder =>
      unfold step
      dsimp only
      cases outcome : (registry.buildOf descriptors builder).outcome with
      | error error =>
          rw [(beginUpdate_of_refused outcome).1]
          exact Nat.le_succ _
      | ok index =>
          by_cases ready : (registry.buildOf descriptors builder).handedOut index.generation = []
          · rw [(beginUpdate_of_ready outcome ready).1]
            exact Nat.le_succ _
          · rw [(beginUpdate_of_waiting outcome ready).1]
            exact Nat.le_succ _
  | ready target => exact Nat.le_refl _
  | dispatch =>
      unfold step dispatchWarmed
      rcases deliver_cases { registry with warmed := [] } registry.warmed with
        ⟨index, _, delivered⟩ | delivered
      · rw [delivered]
        exact Nat.le_refl _
      · rw [delivered]

/-- A generation waits for what it waited for before, less the target that becomes ready. -/
theorem outstanding_step {registry : Registry} {generation : GenerationId}
    (given : generation.value < registry.nextGeneration) (event : Event) :
    (registry.step event).outstanding generation =
      (registry.outstanding generation).filter (· ∉ event.target?.toList) := by
  have all : (registry.outstanding generation).filter (· ∉ ([] : List InitTarget)) =
      registry.outstanding generation := by simp
  cases event with
  | update descriptors builder =>
      refine Eq.trans ?_ all.symm
      unfold step
      dsimp only
      cases outcome : (registry.buildOf descriptors builder).outcome with
      | error error =>
          rw [(beginUpdate_of_refused outcome).1]
          rfl
      | ok index =>
          have fresh : index.generation.value = registry.nextGeneration :=
            congrArg (·.value) (MatchIndex.generation_of_accepted outcome)
          have different : index.generation ≠ generation := by
            intro same
            rw [same] at fresh
            omega
          by_cases ready : (registry.buildOf descriptors builder).handedOut index.generation = []
          · rw [(beginUpdate_of_ready outcome ready).1]
            exact @outstanding_concat_of_ne _ ⟨index.generation, []⟩ _ different
          · rw [(beginUpdate_of_waiting outcome ready).1]
            exact @outstanding_concat_of_ne _ ⟨index.generation, _⟩ _ different
  | ready target =>
      have same := registry.outstanding_targetReady target generation
      refine same.trans ?_
      apply List.filter_congr
      intro other _
      simp [Event.target?]
  | dispatch =>
      refine Eq.trans ?_ all.symm
      unfold step dispatchWarmed
      rcases deliver_cases { registry with warmed := [] } registry.warmed with
        ⟨index, _, delivered⟩ | delivered
      · rw [delivered]
        rfl
      · rw [delivered]
        rfl

theorem outstanding_run {registry : Registry} {generation : GenerationId}
    (given : generation.value < registry.nextGeneration) (events : List Event) :
    (registry.run events).outstanding generation =
      (registry.outstanding generation).filter (· ∉ readied events) := by
  induction events generalizing registry with
  | nil =>
      have same : registry.run [] = registry := rfl
      rw [same]
      simp [readied]
  | cons event rest inductionHypothesis =>
      have after : registry.run (event :: rest) = (registry.step event).run rest := rfl
      have later := given.trans_le (registry.nextGeneration_le_step event)
      have split : readied (event :: rest) = event.target?.toList ++ readied rest := by
        unfold readied
        cases shape : event.target? <;> simp [shape]
      rw [after, inductionHypothesis later, outstanding_step given, List.filter_filter, split]
      apply List.filter_congr
      intro target _
      simp [List.mem_append, not_or, Bool.and_comm]

/-- While it is not superseded and waits at every dispatch, a warming index stays so. -/
theorem InStep.warming_run {registry : Registry} (inStep : registry.InStep) {index : MatchIndex}
    (waiting : registry.warming = some index) {events : List Event}
    (refused : ∀ between descriptors builder rest,
      events = between ++ .update descriptors builder :: rest →
      ∀ other, ((registry.run between).buildOf descriptors builder).outcome ≠ .ok other)
    (unfinished : ∀ between rest, events = between ++ .dispatch :: rest →
      (registry.run between).outstanding index.generation ≠ []) :
    (registry.run events).warming = some index := by
  induction events generalizing registry with
  | nil => exact waiting
  | cons event rest inductionHypothesis =>
      apply inductionHypothesis (inStep.step event)
      · cases event with
        | update descriptors builder =>
            unfold Registry.step
            dsimp only
            cases outcome : (registry.buildOf descriptors builder).outcome with
            | error error =>
                rw [(beginUpdate_of_refused outcome).1]
                exact waiting
            | ok other => exact absurd outcome (refused [] descriptors builder rest rfl other)
        | ready target => exact waiting
        | dispatch =>
            have waits : registry.outstanding index.generation ≠ [] := unfinished [] rest rfl
            rcases inStep.dispatchWarmed_cases with ⟨other, same, nothing, _⟩ | ⟨_, dispatched⟩
            · rw [waiting] at same
              rw [← Option.some.inj same] at nothing
              exact absurd nothing waits
            · unfold Registry.step
              rw [dispatched]
              exact waiting
      · intro between descriptors builder later shape
        exact refused (event :: between) descriptors builder later (by rw [shape]; rfl)
      · intro between later shape
        exact unfinished (event :: between) later (by rw [shape]; rfl)

end Registry

namespace Origin

open Registry

variable {listener : String} {events : List Event} {generation : GenerationId}
  (origin : Origin listener events generation)

/-- The registry as the update left it. -/
def after : Registry :=
  (ran listener origin.earlier).step (.update origin.descriptors origin.builder)

theorem ran_eq : ran listener events = origin.after.run origin.later := by
  conv_lhs => rw [origin.split]
  unfold ran
  rw [run_append]
  rfl

private theorem generation_eq {index : MatchIndex} (accepted : origin.build.outcome = .ok index) :
    index.generation = generation := by
  rw [MatchIndex.generation_of_accepted accepted, origin.drawn]

private theorem drawn_after {index : MatchIndex} (accepted : origin.build.outcome = .ok index) :
    generation.value < origin.after.nextGeneration := by
  unfold after step
  dsimp only
  have before := origin.drawn
  by_cases ready : origin.build.handedOut index.generation = []
  · rw [(beginUpdate_of_ready accepted ready).1]
    show generation.value < (ran listener origin.earlier).nextGeneration + 1
    omega
  · rw [(beginUpdate_of_waiting accepted ready).1]
    show generation.value < (ran listener origin.earlier).nextGeneration + 1
    omega

private theorem outstanding_after {index : MatchIndex}
    (accepted : origin.build.outcome = .ok index) :
    origin.after.outstanding generation = origin.outstanding := by
  have inStep : origin.after.InStep := (inStep_ran listener origin.earlier).step _
  have same := origin.generation_eq accepted
  have listed : ⟨index.generation, origin.build.handedOut index.generation⟩ ∈
      origin.after.warmups := by
    unfold after step
    dsimp only
    by_cases ready : origin.build.handedOut index.generation = []
    · rw [(beginUpdate_of_ready accepted ready).1, ready]
      exact List.mem_append_right _ List.mem_cons_self
    · rw [(beginUpdate_of_waiting accepted ready).1]
      exact List.mem_append_right _ List.mem_cons_self
  rw [same] at listed
  rw [inStep.outstanding_of_mem listed, origin.outstanding_eq]

/-- A generation waits for the targets of its build that are not ready. -/
theorem outstanding_eq_missing {index : MatchIndex} (accepted : origin.build.outcome = .ok index) :
    (ran listener events).outstanding generation = origin.missing := by
  rw [origin.ran_eq, outstanding_run (origin.drawn_after accepted), origin.outstanding_after accepted,
    origin.missing_eq]

/-- What an update answers is decided by the targets that its build left outstanding. -/
theorem outcome_cases :
    (∃ error, origin.build.outcome = .error error ∧ origin.outcome = .error error) ∨
    (∃ index, origin.build.outcome = .ok index ∧ origin.outstanding = [] ∧
      origin.outcome = .ok (.activated ((ran listener origin.earlier).activationOf index))) ∨
    (∃ index, origin.build.outcome = .ok index ∧ origin.outstanding ≠ [] ∧
      origin.outcome = .ok (.warming generation origin.outstanding.length) ∧
      origin.after.warming = some index) := by
  cases outcome : origin.build.outcome with
  | error error => exact .inl ⟨error, rfl, (beginUpdate_of_refused outcome).2⟩
  | ok index =>
      have same := origin.generation_eq outcome
      have handed : origin.build.handedOut index.generation = origin.outstanding := by
        rw [origin.outstanding_eq, same]
      by_cases ready : origin.build.handedOut index.generation = []
      · rw [← handed]
        exact .inr (.inl ⟨index, rfl, ready, (beginUpdate_of_ready outcome ready).2⟩)
      · obtain ⟨after, answer⟩ := beginUpdate_of_waiting outcome ready
        have warming : origin.after.warming = some index := by
          unfold Origin.after step
          dsimp only
          rw [after]
          rfl
        have answered : origin.outcome = .ok (.warming generation origin.outstanding.length) := by
          rw [← handed]
          apply answer.trans
          rw [same]
          rfl
        rw [handed] at ready
        exact .inr (.inr ⟨index, rfl, ready, answered, warming⟩)

end Origin

namespace Registry

/-- Whatever is warming was accepted in the run. -/
theorem exists_origin_of_warming (listener : String) (events : List Event) {index : MatchIndex}
    (waiting : (ran listener events).warming = some index) :
    ∃ origin : Origin listener events index.generation, origin.build.outcome = .ok index := by
  induction events using List.reverseRecOn with
  | nil => exact absurd waiting (by simp [ran, run, Registry.new])
  | append_singleton events event inductionHypothesis =>
      have kept (same : (ran listener events).warming = some index) :
          ∃ origin : Origin listener (events ++ [event]) index.generation,
            origin.build.outcome = .ok index := by
        obtain ⟨origin, accepted⟩ := inductionHypothesis same
        exact ⟨origin.concat event, accepted⟩
      rw [ran_concat] at waiting
      cases event with
      | update descriptors builder =>
          unfold step at waiting
          dsimp only at waiting
          cases outcome : ((ran listener events).buildOf descriptors builder).outcome with
          | error error =>
              rw [(beginUpdate_of_refused outcome).1] at waiting
              exact kept waiting
          | ok other =>
              have fresh : (ran listener events).nextGeneration = other.generation.value := by
                rw [MatchIndex.generation_of_accepted outcome]
              by_cases ready :
                  ((ran listener events).buildOf descriptors builder).handedOut other.generation = []
              · rw [(beginUpdate_of_ready outcome ready).1] at waiting
                exact absurd waiting (by simp [swap])
              · rw [(beginUpdate_of_waiting outcome ready).1] at waiting
                rw [← Option.some.inj waiting]
                exact ⟨Origin.last fresh descriptors builder, outcome⟩
      | ready target => exact kept waiting
      | dispatch =>
          unfold step at waiting
          rcases (inStep_ran listener events).dispatchWarmed_cases with
            ⟨other, _, _, dispatched⟩ | ⟨_, dispatched⟩
          · rw [dispatched] at waiting
            exact absurd waiting (by simp [swap])
          · rw [dispatched] at waiting
            exact kept waiting

/-- Whatever is active was accepted in the run. -/
theorem exists_origin_of_active (listener : String) (events : List Event) {index : MatchIndex}
    (here : (ran listener events).active = some index) :
    ∃ origin : Origin listener events index.generation, origin.build.outcome = .ok index := by
  induction events using List.reverseRecOn with
  | nil => exact absurd here (by simp [ran, run, Registry.new])
  | append_singleton events event inductionHypothesis =>
      have kept (same : (ran listener events).active = some index) :
          ∃ origin : Origin listener (events ++ [event]) index.generation,
            origin.build.outcome = .ok index := by
        obtain ⟨origin, accepted⟩ := inductionHypothesis same
        exact ⟨origin.concat event, accepted⟩
      rw [ran_concat] at here
      cases event with
      | update descriptors builder =>
          unfold step at here
          dsimp only at here
          cases outcome : ((ran listener events).buildOf descriptors builder).outcome with
          | error error =>
              rw [(beginUpdate_of_refused outcome).1] at here
              exact kept here
          | ok other =>
              have fresh : (ran listener events).nextGeneration = other.generation.value := by
                rw [MatchIndex.generation_of_accepted outcome]
              by_cases ready :
                  ((ran listener events).buildOf descriptors builder).handedOut other.generation = []
              · rw [(beginUpdate_of_ready outcome ready).1] at here
                rw [← Option.some.inj here]
                exact ⟨Origin.last fresh descriptors builder, outcome⟩
              · rw [(beginUpdate_of_waiting outcome ready).1] at here
                exact kept here
      | ready target => exact kept here
      | dispatch =>
          unfold step at here
          rcases (inStep_ran listener events).dispatchWarmed_cases with
            ⟨other, waiting, _, dispatched⟩ | ⟨_, dispatched⟩
          · rw [dispatched] at here
            rw [← Option.some.inj here]
            obtain ⟨origin, accepted⟩ := exists_origin_of_warming listener events waiting
            exact ⟨origin.concat .dispatch, accepted⟩
          · rw [dispatched] at here
            exact kept here

/-- A generation that waits at the end of its build, is not superseded and misses no target any more
is still warming if something was missing at every dispatch so far. -/
theorem warming_of_unfinished {listener : String} {events : List Event} {generation : GenerationId}
    (origin : Origin listener events generation) {index : MatchIndex}
    (accepted : origin.build.outcome = .ok index) (waits : origin.outstanding ≠ [])
    (current : ¬ origin.Superseded)
    (unfinished : ∀ between rest, origin.later = between ++ .dispatch :: rest →
      ∃ target ∈ origin.outstanding, target ∉ readied between) :
    (ran listener events).warming = some index := by
  have inStep : origin.after.InStep := (inStep_ran listener origin.earlier).step _
  have waiting : origin.after.warming = some index := by
    rcases origin.outcome_cases with
      ⟨error, refused, _⟩ | ⟨_, _, ready, _⟩ | ⟨other, same, _, _, waiting⟩
    · rw [accepted] at refused
      exact absurd refused (by simp)
    · exact absurd ready waits
    · rw [accepted] at same
      rw [Except.ok.inj same]
      exact waiting
  rw [origin.ran_eq]
  apply inStep.warming_run waiting
  · intro between descriptors builder rest shape other outcome
    apply current
    refine ⟨between, descriptors, builder, rest, other, shape, ?_⟩
    unfold ran
    rw [run_append]
    exact outcome
  · intro between rest shape nothing
    obtain ⟨target, listed, unready⟩ := unfinished between rest shape
    rw [origin.generation_eq accepted, outstanding_run (origin.drawn_after accepted),
      origin.outstanding_after accepted] at nothing
    have member : target ∈ origin.outstanding.filter (· ∉ readied between) :=
      List.mem_filter.mpr ⟨listed, decide_eq_true unready⟩
    rw [nothing] at member
    exact List.not_mem_nil member

/-- Whatever an event activates was accepted in the run and misses no target. -/
theorem exists_origin_of_activation {listener : String} {events : List Event} {event : Event}
    {activation : Activation} (activates : activation ∈ (ran listener events).activations event) :
    ∃ origin : Origin listener (events ++ [event]) activation.generation,
      (∃ index, origin.build.outcome = .ok index) ∧ origin.missing = [] := by
  cases event with
  | update descriptors builder =>
      unfold activations at activates
      dsimp only at activates
      cases outcome : ((ran listener events).buildOf descriptors builder).outcome with
      | error error =>
          rw [(beginUpdate_of_refused outcome).2] at activates
          exact absurd activates List.not_mem_nil
      | ok index =>
          by_cases ready :
              ((ran listener events).buildOf descriptors builder).handedOut index.generation = []
          · rw [(beginUpdate_of_ready outcome ready).2] at activates
            rw [List.mem_singleton.mp activates]
            have fresh : (ran listener events).nextGeneration = index.generation.value := by
              rw [MatchIndex.generation_of_accepted outcome]
            have nothing : (Origin.last fresh descriptors builder).outstanding = [] := by
              rw [Origin.outstanding_eq]
              exact ready
            have complete : (Origin.last fresh descriptors builder).missing = [] := by
              rw [Origin.missing_eq, nothing, List.filter_nil]
            exact ⟨Origin.last fresh descriptors builder, ⟨index, outcome⟩, complete⟩
          · rw [(beginUpdate_of_waiting outcome ready).2] at activates
            exact absurd activates List.not_mem_nil
  | ready target => exact absurd activates List.not_mem_nil
  | dispatch =>
      unfold activations at activates
      dsimp only at activates
      rcases (inStep_ran listener events).dispatchWarmed_cases with
        ⟨index, waiting, nothing, dispatched⟩ | ⟨_, dispatched⟩
      · rw [dispatched] at activates
        rw [List.mem_singleton.mp activates]
        obtain ⟨origin, accepted⟩ := exists_origin_of_warming listener events waiting
        rw [origin.outstanding_eq_missing accepted] at nothing
        have complete : (origin.concat .dispatch).missing = [] := by
          rw [origin.missing_concat, nothing, List.filter_nil]
        exact ⟨origin.concat .dispatch, ⟨index, accepted⟩, complete⟩
      · rw [dispatched] at activates
        exact absurd activates List.not_mem_nil

/-- What a run activates is activated once. -/
theorem count_activated {listener : String} {events : List Event} {activation : Activation}
    (activates : activation ∈ (Registry.new listener).activated events) :
    (((Registry.new listener).activated events).map (·.generation)).count activation.generation =
      1 := by
  have ascending := ((inStep_new listener).activated_ascending events).2
  apply List.count_eq_one_of_mem
  · rw [List.pairwise_map] at ascending
    unfold List.Nodup
    rw [List.pairwise_map]
    apply ascending.imp
    intro older newer less same
    rw [same] at less
    exact Nat.lt_irrefl _ less
  · exact List.mem_map_of_mem activates

/-- A warming generation misses a target of its own or is queued once, never both. The first dispatch
at which it misses none activates it, unless it was superseded, and it is activated only once. An update
becomes active at once exactly if its build left no target outstanding, and otherwise says how many
there are. -/
theorem no_warmup_is_lost (listener : String) (events : List Event) :
    (∀ index, (ran listener events).warming = some index →
      ∃ origin : Origin listener events index.generation, origin.build.outcome = .ok index ∧
        ((origin.missing ≠ [] ∧ index.generation ∉ (ran listener events).warmed) ∨
          (origin.missing = [] ∧ (ran listener events).warmed.count index.generation = 1))) ∧
    (∀ before after generation, events = before ++ .dispatch :: after →
      ∀ origin : Origin listener before generation,
        (∃ index, origin.build.outcome = .ok index) → origin.outstanding ≠ [] →
        ¬ origin.Superseded → origin.missing = [] →
        (∀ between rest, origin.later = between ++ .dispatch :: rest →
          ∃ target ∈ origin.outstanding, target ∉ readied between) →
        (∃ activation, (ran listener before).activations .dispatch = [activation] ∧
          activation.generation = generation) ∧
        (((Registry.new listener).activated events).map (·.generation)).count generation = 1) ∧
    (∀ generation, ∀ origin : Origin listener events generation,
      ((∃ activation, origin.outcome = .ok (.activated activation)) ↔
        (∃ index, origin.build.outcome = .ok index) ∧ origin.outstanding = []) ∧
      (∀ number pending, origin.outcome = .ok (.warming number pending) ↔
        (∃ index, origin.build.outcome = .ok index) ∧ origin.outstanding ≠ [] ∧
          number = generation ∧ pending = origin.outstanding.length)) := by
  refine ⟨?_, ?_, ?_⟩
  · intro index waiting
    have inStep := inStep_ran listener events
    obtain ⟨origin, accepted⟩ := exists_origin_of_warming listener events waiting
    have missing := origin.outstanding_eq_missing accepted
    refine ⟨origin, accepted, ?_⟩
    rw [← missing]
    by_cases nothing : (ran listener events).outstanding index.generation = []
    · exact .inr ⟨nothing, (inStep.warming index waiting).2 nothing⟩
    · exact .inl ⟨nothing, inStep.not_queued nothing⟩
  · intro before after generation shape origin accepted waits current complete unfinished
    obtain ⟨index, accepted⟩ := accepted
    have inStep := inStep_ran listener before
    have waiting := warming_of_unfinished origin accepted waits current unfinished
    have same := origin.generation_eq accepted
    have nothing : (ran listener before).outstanding index.generation = [] := by
      rw [same, origin.outstanding_eq_missing accepted]
      exact complete
    have queued := (inStep.queued_iff waiting).mpr nothing
    have activates : (ran listener before).activations .dispatch =
        [(ran listener before).activationOf index] := by
      unfold activations
      dsimp only
      rw [dispatchWarmed_of_mem waiting queued]
    have listed : (ran listener before).activationOf index ∈
        (Registry.new listener).activated events := by
      rw [shape, activated_append]
      apply List.mem_append_right
      unfold activated
      apply List.mem_append_left
      have here : (Registry.new listener).run before = ran listener before := rfl
      rw [here, activates]
      exact List.mem_cons_self
    refine ⟨⟨_, activates, same⟩, ?_⟩
    rw [← same]
    exact count_activated listed
  · intro generation origin
    rcases origin.outcome_cases with
      ⟨error, refused, answer⟩ | ⟨index, accepted, ready, answer⟩ |
      ⟨index, accepted, waits, answer, _⟩
    · rw [refused, answer]
      simp
    · rw [accepted, answer, ready]
      simp
    · rw [accepted, answer]
      simp [waits, eq_comm]

/-- A chain with one target that takes its time and one that is ready at once. -/
def slowBuilder : ChainBuilder :=
  BuildScript.builder ⟨none, false, [("", [⟨"certificate", false⟩, ⟨"cluster", true⟩])]⟩

/-- A generation whose last target has become ready. -/
def slowStart : List Event := [
  .update [FilterChainDescriptor.blank] slowBuilder,
  .ready ⟨⟨1⟩, 0, "certificate"⟩]

def slowOrigin : Origin "listener" slowStart ⟨1⟩ where
  earlier := []
  descriptors := [FilterChainDescriptor.blank]
  builder := slowBuilder
  later := [.ready ⟨⟨1⟩, 0, "certificate"⟩]
  split := rfl
  drawn := nextGeneration_ran_nil _

theorem no_warmup_is_lost_slowStart :
    ∃ origin : Origin "listener" slowStart ⟨1⟩,
      (∃ index, origin.build.outcome = .ok index) ∧ origin.outstanding ≠ [] ∧
      ¬ origin.Superseded ∧ origin.missing = [] ∧
      (∀ between rest, origin.later = between ++ .dispatch :: rest →
        ∃ target ∈ origin.outstanding, target ∉ readied between) ∧
      ∃ activation, (ran "listener" slowStart).activations .dispatch = [activation] ∧
        activation.generation = ⟨1⟩ := by
  have accepted : ∃ index, slowOrigin.build.outcome = .ok index :=
    exists_ok_of_isOk (by decide +kernel)
  have waits : slowOrigin.outstanding ≠ [] := by decide +kernel
  have complete : slowOrigin.missing = [] := by decide +kernel
  have current : ¬ slowOrigin.Superseded := by
    intro ⟨between, descriptors, builder, rest, _, shape, _⟩
    have listed : Event.update descriptors builder ∈ slowOrigin.later := by
      rw [shape]
      exact List.mem_append_right _ List.mem_cons_self
    exact absurd (List.mem_singleton.mp listed) (by simp)
  have first : ∀ between rest, slowOrigin.later = between ++ .dispatch :: rest →
      ∃ target ∈ slowOrigin.outstanding, target ∉ readied between := by
    intro between rest shape
    have listed : Event.dispatch ∈ slowOrigin.later := by
      rw [shape]
      exact List.mem_append_right _ List.mem_cons_self
    exact absurd (List.mem_singleton.mp listed) (by simp)
  refine ⟨slowOrigin, accepted, waits, current, complete, first, ?_⟩
  exact ((no_warmup_is_lost "listener" (slowStart ++ [.dispatch])).2.1 slowStart [] ⟨1⟩ rfl slowOrigin
    accepted waits current complete first).1

end Registry

end Admission.Chain
