import Admission.Proofs.Listener.Enclosure
import Admission.Proofs.Listener.Survival

/-!
Contract: a refused batch is as if it had never been submitted.

Owns: `ListenerState.renumber`, a listener under other numbers, which goes on as it would under its
own, and `rejection_is_invisible`.
-/

namespace Admission.Listener.ListenerState

open Admission.Chain

variable {σ : Type} {state : ListenerState σ}

/-- A listener under other numbers. -/
def renumber (moves : Renumbering) (state : ListenerState σ) : ListenerState σ :=
  state.moved moves (state.registry.renumber moves)

section Renumber

variable {moves : Renumbering}

private theorem run_renumber (reached : state.registry.Reached moves)
    (operations : List Operation) :
    (state.renumber moves).run operations =
      (state.run (operations.filterMap (Operation.withdraw moves))).renumber moves := by
  have registries := Registry.run_renumber reached (events operations)
  unfold renumber
  rw [run_moved (Registry.mirrors_renumber reached (events operations)), registries, registry_run,
    events_withdraw]

private theorem activated_renumber (reached : state.registry.Reached moves)
    (operations : List Operation) :
    (state.renumber moves).activated operations =
      (state.activated (operations.filterMap (Operation.withdraw moves))).map
        (Activation.renumber moves) := by
  have registries := (Registry.mirrors_renumber reached (events operations)).activated
  rw [activated_eq, activated_eq, events_withdraw]
  exact registries

end Renumber

section Refused

variable {descriptors : List FilterChainDescriptor} {builder : ChainBuilder} {error : ConfigError}

private theorem apply_of_refused
    (refused : (state.applyChains descriptors builder).1.outcome = .error error) :
    state.step (.apply descriptors builder) =
      { state with
        registry := state.registry.drawn (state.registry.buildOf descriptors builder) } := by
  have built : (state.registry.buildOf descriptors builder).outcome = .error error := by
    apply Registry.refused_of_answer
    rw [applyChains_eq] at refused
    exact refused
  have after : state.registry.step (.update descriptors builder) =
      state.registry.drawn (state.registry.buildOf descriptors builder) :=
    (Registry.beginUpdate_of_refused built).1
  rw [state.apply_of_inactive (Registry.activated_of_refused built), after]

/-- A refused batch leaves nothing but the numbers it has drawn, and whatever is done afterwards does
the same as without it, up to these numbers: there is a renumbering that leaves them out. Ready calls
for targets of the batch, which are none without it, do nothing. -/
theorem rejection_is_invisible (reachable : state.Reachable)
    (refused : (state.applyChains descriptors builder).1.outcome = .error error) :
    ∃ moves : Renumbering,
      moves.generations = ⟨state.registry.nextGeneration, 1⟩ ∧
      moves.chains.first = state.registry.nextChain ∧
      state.step (.apply descriptors builder) =
        { state with
          registry := { state.registry with
            nextGeneration := state.registry.nextGeneration + 1
            nextChain := state.registry.nextChain + moves.chains.count } } ∧
      ∀ rest,
        (state.step (.apply descriptors builder)).run rest =
          (state.run (rest.filterMap (Operation.withdraw moves))).renumber moves ∧
        (state.step (.apply descriptors builder)).activated rest =
          (state.activated (rest.filterMap (Operation.withdraw moves))).map
            (Activation.renumber moves) ∧
        ∀ socket,
          ((state.step (.apply descriptors builder)).run rest).registry.lookup socket =
            ((state.run (rest.filterMap (Operation.withdraw moves))).registry.lookup socket).map
              (Option.map (LookupMatch.renumber moves)) id := by
  have order : state.registry.nextChain ≤
      (state.registry.buildOf descriptors builder).state.nextChain :=
    state.registry.nextChain_le_drawn descriptors builder
  have drawn := apply_of_refused refused
  have reached := @Registry.reached_gap state.registry descriptors builder
  have renumbered : state.step (.apply descriptors builder) =
      state.renumber (state.registry.gap descriptors builder) := by
    unfold renumber
    rw [drawn, reachable.moved_gap,
      Registry.renumber_gap descriptors builder reachable.inStep reachable.enclosed]
  refine ⟨state.registry.gap descriptors builder, rfl, rfl, ?_, ?_⟩
  · rw [drawn]
    unfold Registry.drawn Registry.gap
    dsimp only
    rw [Nat.add_sub_cancel' order]
  · intro rest
    rw [renumbered, run_renumber reached, activated_renumber reached]
    refine ⟨rfl, rfl, ?_⟩
    intro socket
    exact lookup_renumber rfl socket

end Refused

/-- A generation that waits for a target. -/
def waiting : List Operation := [.apply [FilterChainDescriptor.blank] Registry.slowBuilder]

/-- A batch with the same chain twice is refused. Its target becomes ready, and that of the
generation that waited before. -/
theorem rejection_is_invisible_waiting :
    ∃ error moves,
      ((ran unfiltered .recorded waiting).applyChains
        [FilterChainDescriptor.blank, FilterChainDescriptor.blank]
        Registry.slowBuilder).1.outcome = .error error ∧
      moves.generations = ⟨2, 1⟩ ∧
      ((ran unfiltered .recorded waiting).step
          (.apply [FilterChainDescriptor.blank, FilterChainDescriptor.blank]
            Registry.slowBuilder)).run
          [.ready ⟨⟨2⟩, 0, "certificate"⟩, .ready ⟨⟨1⟩, 0, "certificate"⟩, .dispatch] =
        ((ran unfiltered .recorded waiting).run
          [.ready ⟨⟨1⟩, 0, "certificate"⟩, .dispatch]).renumber moves := by
  have refused : ∃ error, ((ran unfiltered .recorded waiting).applyChains
      [FilterChainDescriptor.blank, FilterChainDescriptor.blank]
      Registry.slowBuilder).1.outcome = .error error :=
    exists_error_of_isOk (by decide +kernel)
  obtain ⟨error, outcome⟩ := refused
  obtain ⟨moves, generations, _, _, rest⟩ :=
    rejection_is_invisible ⟨unfiltered, .recorded, waiting, rfl⟩ outcome
  have second : (ran unfiltered .recorded waiting).registry.nextGeneration = 2 := by
    decide +kernel
  rw [second] at generations
  have withdrawn : [Operation.ready ⟨⟨2⟩, 0, "certificate"⟩, .ready ⟨⟨1⟩, 0, "certificate"⟩,
        .dispatch].filterMap (Operation.withdraw moves) =
      [.ready ⟨⟨1⟩, 0, "certificate"⟩, .dispatch] := by
    simp [Operation.withdraw, InitTarget.back?, generations, Shift.back?]
  have same := (rest [.ready ⟨⟨2⟩, 0, "certificate"⟩, .ready ⟨⟨1⟩, 0, "certificate"⟩,
    .dispatch]).1
  rw [withdrawn] at same
  exact ⟨error, moves, outcome, generations, same⟩

end Admission.Listener.ListenerState
