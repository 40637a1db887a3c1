import Admission.Proofs.Chain.Stale
import Admission.Proofs.Listener.Events
import Admission.Proofs.Listener.Survival

/-!
Contract: in which order the generations of a listener become active, and what brings it about.

Owns: `generations_ascend`.
-/

namespace Admission.Listener.ListenerState

open Admission.Chain

variable {σ : Type}

private theorem inStep_registry (config : ListenerConfig σ) (carrier : Carrier)
    (operations : List Operation) : (ran config carrier operations).registry.InStep := by
  rw [registry_ran]
  exact Registry.inStep_ran config.name (events operations)

/-- Whatever an operation activates was accepted in the run and misses no target of its build. -/
theorem exists_origin_of_activation (config : ListenerConfig σ) (carrier : Carrier)
    (operations : List Operation) {operation : Operation} {activation : Activation}
    (activates : activation ∈ (ran config carrier operations).activations operation) :
    ∃ origin : Origin config.name (events (operations ++ [operation])) activation.generation,
      (∃ index, origin.build.outcome = .ok index) ∧ origin.missing = [] := by
  rw [activations_eq, registry_ran] at activates
  cases does : operation.event? with
  | none =>
      rw [does] at activates
      exact absurd activates List.not_mem_nil
  | some event =>
      have single : events [operation] = [event] := by
        rw [events_cons, does]
        rfl
      rw [does, Option.toList_some, Registry.activated_singleton] at activates
      rw [events_append, single]
      exact Registry.exists_origin_of_activation activates

/-- A generation becomes active only after all targets of its own build are ready. No ready call
activates anything; what is activated afterwards would be activated without the call as well, unless
the generation of the target itself becomes active; and a target of a refused batch changes nothing.
The generations that become active ascend, what is warming is newer than what is active and older
than what comes next, and from the first activation on something is active. -/
theorem generations_ascend (config : ListenerConfig σ) (carrier : Carrier)
    (operations : List Operation) :
    (∀ operation, ∀ activation ∈ (ran config carrier operations).activations operation,
      ∃ origin : Origin config.name (events (operations ++ [operation])) activation.generation,
        (∃ index, origin.build.outcome = .ok index) ∧ origin.missing = []) ∧
    (∀ target,
      (ran config carrier operations).activations (.ready target) = [] ∧
      (∀ rest,
        (∀ activation ∈ ((ran config carrier operations).step (.ready target)).activated rest,
          activation.generation ≠ target.generation) →
        ((ran config carrier operations).step (.ready target)).activated rest =
          (ran config carrier operations).activated rest) ∧
      ∀ origin : Origin config.name (events operations) target.generation, ∀ error,
        origin.build.outcome = .error error →
        (ran config carrier operations).step (.ready target) = ran config carrier operations) ∧
    (((ListenerState.new config carrier).activated operations).map
      (·.generation.value)).Pairwise (· < ·) ∧
    (∀ index, (ran config carrier operations).registry.warming = some index →
      index.generation.value < (ran config carrier operations).registry.nextGeneration ∧
      ∀ older, (ran config carrier operations).registry.active = some older →
        older.generation.value < index.generation.value) ∧
    ((ran config carrier operations).registry.active.isSome →
      ∀ rest, (ran config carrier (operations ++ rest)).registry.active.isSome) := by
  have inStep := inStep_registry config carrier operations
  refine ⟨?_, ?_, ?_, ?_, ?_⟩
  · intro operation activation activates
    exact exists_origin_of_activation config carrier operations activates
  · intro target
    refine ⟨rfl, ?_, ?_⟩
    · intro rest elsewhere
      rw [activated_eq] at elsewhere ⊢
      rw [activated_eq]
      exact inStep.activated_targetReady elsewhere
    · intro origin error refused
      have unchanged := Registry.targetReady_of_refused origin refused
      rw [← registry_ran config carrier] at unchanged
      unfold step targetReady
      dsimp only
      rw [unchanged]
  · rw [activated_eq]
    exact ((Registry.inStep_new config.name).activated_ascending (events operations)).2
  · intro index waiting
    exact ⟨(inStep.warming index waiting).1, fun older here => inStep.ascending older index here waiting⟩
  · intro present rest
    have after := inStep.active_isSome_run present (events rest)
    rw [registry_ran] at after
    rw [registry_ran, events_append, Registry.ran_append]
    exact after

/-- A refused batch, and an accepted one whose last target has become ready. -/
def settling : List Operation := [
  .apply [FilterChainDescriptor.blank, FilterChainDescriptor.blank] Registry.slowBuilder,
  .apply [FilterChainDescriptor.blank] Registry.slowBuilder,
  .ready ⟨⟨2⟩, 0, "certificate"⟩]

/-- The refused batch. -/
def settlingRefusal : Origin "listener" (events settling) ⟨1⟩ where
  earlier := []
  descriptors := [FilterChainDescriptor.blank, FilterChainDescriptor.blank]
  builder := Registry.slowBuilder
  later := (events settling).tail
  split := rfl
  drawn := Registry.nextGeneration_ran_nil _

theorem generations_ascend_settling :
    (∃ activation, activation ∈ (ran unfiltered .recorded settling).activations .dispatch ∧
      ∃ origin : Origin "listener" (events (settling ++ [.dispatch])) activation.generation,
        (∃ index, origin.build.outcome = .ok index) ∧ origin.missing = []) ∧
    ((∃ target, target ∈ settlingRefusal.build.handedOut ⟨1⟩) ∧
      (∃ error, settlingRefusal.build.outcome = .error error) ∧
      ((ran unfiltered .recorded settling).step (.ready ⟨⟨1⟩, 0, "certificate"⟩)).activated
          [.dispatch] = (ran unfiltered .recorded settling).activated [.dispatch] ∧
      (ran unfiltered .recorded settling).step (.ready ⟨⟨1⟩, 0, "certificate"⟩) =
        ran unfiltered .recorded settling) ∧
    (∃ index, (ran unfiltered .recorded settling).registry.warming = some index ∧
      index.generation.value < (ran unfiltered .recorded settling).registry.nextGeneration) ∧
    ((ran unfiltered .recorded (settling ++ [.dispatch])).registry.active.isSome ∧
      (ran unfiltered .recorded (settling ++ [.dispatch] ++ [.shutdown])).registry.active.isSome) := by
  have facts := generations_ascend unfiltered .recorded settling
  obtain ⟨complete, without, _, between, _⟩ := facts
  have refused : ∃ error, settlingRefusal.build.outcome = .error error :=
    exists_error_of_isOk (by decide +kernel)
  refine ⟨?_, ⟨?_, ?_, ?_, ?_⟩, ?_, ?_⟩
  · have some : ((ran unfiltered .recorded settling).activations .dispatch).isEmpty = false := by
      decide +kernel
    obtain ⟨activation, activates⟩ :=
      List.exists_mem_of_ne_nil _ (List.isEmpty_eq_false_iff.mp some)
    exact ⟨activation, activates, complete .dispatch activation activates⟩
  · exact ⟨⟨⟨1⟩, 0, "certificate"⟩, by decide +kernel⟩
  · exact refused
  · apply (without ⟨⟨1⟩, 0, "certificate"⟩).2.1
    decide +kernel
  · obtain ⟨error, outcome⟩ := refused
    exact (without ⟨⟨1⟩, 0, "certificate"⟩).2.2 settlingRefusal error outcome
  · have present : (ran unfiltered .recorded settling).registry.warming.isSome = true := by
      decide +kernel
    obtain ⟨index, waiting⟩ := Option.isSome_iff_exists.mp present
    exact ⟨index, waiting, (between index waiting).1⟩
  · have present :
        (ran unfiltered .recorded (settling ++ [.dispatch])).registry.active.isSome := by
      decide +kernel
    obtain ⟨_, _, _, _, lasting⟩ :=
      generations_ascend unfiltered .recorded (settling ++ [.dispatch])
    exact ⟨present, lasting present [.shutdown]⟩

end Admission.Listener.ListenerState
