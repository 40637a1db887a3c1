import Admission.Proofs.Chain.Superseded
import Admission.Proofs.Listener.Rejection

/-!
Contract: a batch that is superseded before it becomes active is as if it had never been submitted,
unless it takes the warming slot from a generation that would have become active.

Owns: `ListenerState.Resembles`, and `supersession_is_invisible` with a run in which the exception
shows, `overtaken_is_visible`.
-/

namespace Admission.Listener.ListenerState

open Admission.Chain

variable {σ : Type}

/-- Up to numbering, a listener is another one but for its registry, and its registry finds the
same. -/
structure Resembles (moves : Renumbering) (left right : ListenerState σ) : Prop where
  same : left = right.moved moves left.registry
  lookup : ∀ socket, left.registry.lookup socket =
    (right.registry.lookup socket).map (Option.map (LookupMatch.renumber moves)) id

private theorem resembles_of_mirrors {moves : Renumbering} {registry : Registry}
    {state : ListenerState σ} {operations : List Operation}
    (mirrors : registry.Mirrors moves state.registry (events operations)) :
    ((state.moved moves registry).run operations).Resembles moves
      (state.run (operations.filterMap (Operation.withdraw moves))) := by
  have whole := mirrors
  rw [← List.append_nil (events operations)] at whole
  have active := whole.split.2.active
  rw [run_moved mirrors]
  refine ⟨rfl, ?_⟩
  intro socket
  apply lookup_renumber
  rw [registry_run, events_withdraw]
  exact active

/-- A batch that is left warming changes nothing but the registry, and begins to hold the warming
slot. -/
theorem Reachable.apply_of_waiting {state : ListenerState σ} (reachable : state.Reachable)
    {descriptors : List FilterChainDescriptor} {builder : ChainBuilder}
    {generation : GenerationId} {count : Nat}
    (waits : (state.applyChains descriptors builder).1.outcome = .ok (.warming generation count)) :
    ∃ index : MatchIndex,
      index.generation = generation ∧ generation = ⟨state.registry.nextGeneration⟩ ∧
      (state.registry.step (.update descriptors builder)).Holding
        (state.registry.gap descriptors builder) state.registry index ∧
      state.step (.apply descriptors builder) =
        state.moved (state.registry.gap descriptors builder)
          (state.registry.step (.update descriptors builder)) := by
  have answer : (state.registry.beginUpdate descriptors builder).2.outcome =
      .ok (.warming generation count) := by
    rw [applyChains_eq] at waits
    exact waits
  have inactive : state.registry.activations (.update descriptors builder) = [] := by
    unfold Registry.activations
    dsimp only
    rw [answer]
  obtain ⟨index, accepted, same, targets⟩ := Registry.waiting_of_answer answer
  refine ⟨index, same, ?_, ?_, ?_⟩
  · rw [← same, MatchIndex.generation_of_accepted accepted]
  · exact Registry.holding_of_waiting reachable.inStep reachable.enclosed accepted targets
  · rw [state.apply_of_inactive inactive, reachable.moved_gap]

/-- A batch is left warming, and another one is accepted before it becomes active. If without it no
generation that was warming becomes active in between, everything is the same without it, up to the
numbers it has drawn. In the end nothing is left of it but its warm-up. -/
theorem supersession_is_invisible {state : ListenerState σ} (reachable : state.Reachable)
    {descriptors : List FilterChainDescriptor} {builder : ChainBuilder}
    {generation : GenerationId} {count : Nat}
    (waits : (state.applyChains descriptors builder).1.outcome = .ok (.warming generation count)) :
    ∃ moves : Renumbering,
      moves.generations = ⟨generation.value, 1⟩ ∧
      moves.chains.first = state.registry.nextChain ∧
      moves.chains.first + moves.chains.count =
        (state.step (.apply descriptors builder)).registry.nextChain ∧
      ∀ between next nextBuilder outcome,
        (((state.step (.apply descriptors builder)).run between).applyChains next
          nextBuilder).1.outcome = .ok outcome →
        (∀ activation ∈ (state.step (.apply descriptors builder)).activated between,
          activation.generation ≠ generation) →
        (∀ activation ∈ state.activated (between.filterMap (Operation.withdraw moves)),
          state.registry.warming.map (·.generation) ≠ some activation.generation) →
        ∀ rest,
          (∀ seen, seen <+: between ++ .apply next nextBuilder :: rest →
            ((state.step (.apply descriptors builder)).run seen).Resembles moves
              (state.run (seen.filterMap (Operation.withdraw moves))) ∧
            (state.step (.apply descriptors builder)).activated seen =
              (state.activated (seen.filterMap (Operation.withdraw moves))).map
                (Activation.renumber moves)) ∧
          ((state.step (.apply descriptors builder)).run
              (between ++ .apply next nextBuilder :: rest)).registry.forget generation =
            (state.run ((between ++ .apply next nextBuilder :: rest).filterMap
              (Operation.withdraw moves))).registry.renumber moves := by
  obtain ⟨index, rfl, number, holding, applied⟩ := reachable.apply_of_waiting waits
  have order : state.registry.nextChain ≤
      (state.registry.buildOf descriptors builder).state.nextChain :=
    state.registry.nextChain_le_drawn descriptors builder
  have registry : (state.step (.apply descriptors builder)).registry =
      state.registry.step (.update descriptors builder) := by
    rw [applied]
    rfl
  refine ⟨state.registry.gap descriptors builder, ?_, rfl, ?_, ?_⟩
  · rw [number]
    rfl
  · rw [registry, Registry.step_update, (state.registry.settle_counters _).2]
    exact Nat.add_sub_cancel' order
  · intro between next nextBuilder outcome follows kept undisturbed rest
    have leftStalls :
        (state.registry.step (.update descriptors builder)).Stalls (events between) := by
      intro activation listed
      rw [← registry, ← activated_eq] at listed
      rw [holding.warming]
      intro same
      exact kept activation listed (Option.some.inj same).symm
    have rightStalls : state.registry.Stalls ((events between).filterMap
        (Event.withdraw (state.registry.gap descriptors builder))) := by
      intro activation listed
      rw [← events_withdraw, ← activated_eq] at listed
      exact undisturbed activation listed
    rw [applyChains_eq, registry_run, registry] at follows
    obtain ⟨other, succeeds⟩ := Registry.accepted_of_answer follows
    have whole : events (between ++ .apply next nextBuilder :: rest) =
        events between ++ .update next nextBuilder :: events rest := by
      rw [events_append, events_cons]
      rfl
    obtain ⟨mirrors, outlived⟩ :=
      holding.mirrors leftStalls rightStalls succeeds (events rest)
    rw [← whole] at mirrors
    constructor
    · intro seen first
      obtain ⟨unseen, split⟩ := first
      rw [← split, events_append] at mirrors
      have mirrorsSeen := mirrors.split.1
      constructor
      · rw [applied]
        exact resembles_of_mirrors mirrorsSeen
      · rw [activated_eq, activated_eq, events_withdraw, registry]
        exact mirrorsSeen.activated
    · have after := (outlived.run (events rest)).same
      rw [← Registry.run_append, ← Registry.run_append, ← List.filterMap_append, List.append_assoc,
        List.singleton_append, ← whole, ← events_withdraw] at after
      rw [registry_run, registry_run, registry]
      exact after

/-- A batch that takes the warming slot from the generation that waits. -/
def overtaking : Operation := .apply [FilterChainDescriptor.blank] Registry.slowBuilder

/-- A chain without targets. -/
def promptBuilder : ChainBuilder := BuildScript.builder ⟨none, false, []⟩

theorem supersession_is_invisible_waiting :
    ∃ moves : Renumbering,
      moves.generations = ⟨2, 1⟩ ∧
      (((ran unfiltered .recorded waiting).step overtaking).run
          [.ready ⟨⟨2⟩, 0, "certificate"⟩, .ready ⟨⟨1⟩, 0, "certificate"⟩,
            .apply [FilterChainDescriptor.blank] promptBuilder, .dispatch]).Resembles moves
        ((ran unfiltered .recorded waiting).run
          [.ready ⟨⟨1⟩, 0, "certificate"⟩, .apply [FilterChainDescriptor.blank] promptBuilder,
            .dispatch]) := by
  have waits : ((ran unfiltered .recorded waiting).applyChains [FilterChainDescriptor.blank]
      Registry.slowBuilder).1.outcome = .ok (.warming ⟨2⟩ 1) := by
    decide +kernel
  obtain ⟨moves, generations, _, _, facts⟩ :=
    supersession_is_invisible ⟨unfiltered, .recorded, waiting, rfl⟩ waits
  have withdrawn : [Operation.ready ⟨⟨2⟩, 0, "certificate"⟩, .ready ⟨⟨1⟩, 0, "certificate"⟩].filterMap
      (Operation.withdraw moves) = [.ready ⟨⟨1⟩, 0, "certificate"⟩] := by
    simp [Operation.withdraw, InitTarget.back?, generations, Shift.back?]
  have follows : ∃ outcome, ((((ran unfiltered .recorded waiting).step overtaking).run
      [.ready ⟨⟨2⟩, 0, "certificate"⟩, .ready ⟨⟨1⟩, 0, "certificate"⟩]).applyChains
        [FilterChainDescriptor.blank] promptBuilder).1.outcome = .ok outcome :=
    exists_ok_of_isOk (by decide +kernel)
  obtain ⟨outcome, follows⟩ := follows
  have kept : ∀ activation ∈ ((ran unfiltered .recorded waiting).step overtaking).activated
      [.ready ⟨⟨2⟩, 0, "certificate"⟩, .ready ⟨⟨1⟩, 0, "certificate"⟩],
      activation.generation ≠ ⟨2⟩ := by
    decide +kernel
  have undisturbed : ∀ activation ∈ (ran unfiltered .recorded waiting).activated
      ([Operation.ready ⟨⟨2⟩, 0, "certificate"⟩, .ready ⟨⟨1⟩, 0, "certificate"⟩].filterMap
        (Operation.withdraw moves)),
      (ran unfiltered .recorded waiting).registry.warming.map (·.generation) ≠
        some activation.generation := by
    rw [withdrawn]
    decide +kernel
  have same := (facts [.ready ⟨⟨2⟩, 0, "certificate"⟩, .ready ⟨⟨1⟩, 0, "certificate"⟩]
    [FilterChainDescriptor.blank] promptBuilder outcome follows kept undisturbed [.dispatch]).1
      _ (List.prefix_refl _)
  rw [List.filterMap_append, withdrawn] at same
  exact ⟨moves, generations, same.1⟩

/-- The generation that waits becomes active before the third batch, if the second is not there. -/
theorem overtaken_is_visible :
    (∃ generation count, ((ran unfiltered .recorded waiting).applyChains
        [FilterChainDescriptor.blank] Registry.slowBuilder).1.outcome =
      .ok (.warming generation count)) ∧
    ((ran unfiltered .recorded waiting).step overtaking).activated
        [.ready ⟨⟨1⟩, 0, "certificate"⟩, .dispatch] = [] ∧
    (∃ outcome, ((((ran unfiltered .recorded waiting).step overtaking).run
        [.ready ⟨⟨1⟩, 0, "certificate"⟩, .dispatch]).applyChains
          [FilterChainDescriptor.blank] promptBuilder).1.outcome = .ok outcome) ∧
    ∀ moves : Renumbering,
      ((ran unfiltered .recorded waiting).step overtaking).activated
          [.ready ⟨⟨1⟩, 0, "certificate"⟩, .dispatch] ≠
        ((ran unfiltered .recorded waiting).activated
          [.ready ⟨⟨1⟩, 0, "certificate"⟩, .dispatch]).map (Activation.renumber moves) := by
  have overtaken : ((ran unfiltered .recorded waiting).step overtaking).activated
      [.ready ⟨⟨1⟩, 0, "certificate"⟩, .dispatch] = [] := by
    decide +kernel
  have undisturbed : (ran unfiltered .recorded waiting).activated
      [.ready ⟨⟨1⟩, 0, "certificate"⟩, .dispatch] = [⟨⟨1⟩, none, []⟩] := by
    decide +kernel
  refine ⟨⟨⟨2⟩, 1, ?_⟩, overtaken, ?_, ?_⟩
  · decide +kernel
  · exact exists_ok_of_isOk (by decide +kernel)
  · intro moves
    rw [overtaken, undisturbed]
    exact (List.cons_ne_nil _ _).symm

end Admission.Listener.ListenerState
