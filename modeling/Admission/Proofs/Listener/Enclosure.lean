import Admission.Proofs.Chain.Enclosure
import Admission.Proofs.Listener.Renumbering

/-!
Contract: a listener holds no number that is not drawn yet.

Owns: `Unmoved`, a listener that a renumbering leaves as it is, its registry aside, kept by every
operation, and `unmoved_ran`: a renumbering of what comes next is one. `Reachable.inStep`,
`Reachable.enclosed` and `Reachable.unmoved` say what is known of every reachable state.
-/

namespace Admission.Listener.ListenerState

open Admission.Chain

variable {σ : Type} {moves : Renumbering} {state : ListenerState σ}

/-- A renumbering changes nothing outside the registry. -/
def Unmoved (moves : Renumbering) (state : ListenerState σ) : Prop :=
  state.moved moves state.registry = state

private theorem Unmoved.withRegistry (unmoved : state.Unmoved moves) (registry : Registry) :
    { state with registry := registry }.Unmoved moves := by
  have same : state.moved moves state.registry = state := unmoved
  exact congrArg (fun state : ListenerState σ => { state with registry := registry }) same

/-- Only chains whose numbers stay have groups. -/
theorem Unmoved.get?_groups (unmoved : state.Unmoved moves) {chain : FilterChainId}
    (moving : chain.renumber moves ≠ chain) : state.groups.get? chain = none := by
  have groups : state.groups.relabel (FilterChainId.renumber moves)
      (ConnectionGroup.renumber moves) = state.groups := congrArg (·.groups) unmoved
  have keys : state.groups.keys.map (FilterChainId.renumber moves) = state.groups.keys.map id := by
    rw [← Table.keys_relabel _ (ConnectionGroup.renumber moves), groups, List.map_id]
  rw [Table.get?_eq_none_iff]
  intro listed
  exact moving (List.map_inj_left.mp keys chain listed)

private theorem Unmoved.removeConnection (unmoved : state.Unmoved moves)
    (handle : ConnectionHandle) :
    (state.removeConnection handle).2.Unmoved moves := by
  by_cases stays : handle.chain.renumber moves = handle.chain
  · have same : handle.renumber moves = handle :=
      congrArg (fun chain => { handle with chain := chain }) stays
    have removed := @removeConnection_moved moves σ state.registry state handle
    unfold Unmoved at unmoved ⊢
    rw [same, unmoved] at removed
    rw [registry_removeConnection]
    exact (congrArg Prod.snd removed).symm
  · have nothing : state.removeConnection handle = (false, state) := by
      unfold ListenerState.removeConnection
      rw [unmoved.get?_groups stays]
    rw [nothing]
    exact unmoved

private theorem Unmoved.drainChain (unmoved : state.Unmoved moves) (chain : FilterChainId) :
    (state.drainChain chain).Unmoved moves := by
  by_cases stays : chain.renumber moves = chain
  · have drained := @drainChain_moved moves σ state.registry state chain
    unfold Unmoved at unmoved ⊢
    rw [stays, unmoved] at drained
    rw [registry_drainChain]
    exact drained.symm
  · have nothing : state.drainChain chain = state := by
      unfold ListenerState.drainChain
      rw [unmoved.get?_groups stays]
    rw [nothing]
    exact unmoved

private theorem Unmoved.drain (unmoved : state.Unmoved moves) (chains : List FilterChainId) :
    (state.drain chains).Unmoved moves := by
  have marked : ∀ (state : ListenerState σ) (draining : Bool), state.Unmoved moves →
      { state with draining := draining }.Unmoved moves := by
    intro state draining unmoved
    have same : state.moved moves state.registry = state := unmoved
    exact congrArg (fun state : ListenerState σ => { state with draining := draining }) same
  have drained : ∀ (chains : List FilterChainId) (state : ListenerState σ), state.Unmoved moves →
      (chains.foldl ListenerState.drainChain state).Unmoved moves := by
    intro chains
    induction chains with
    | nil =>
        intro state unmoved
        exact unmoved
    | cons chain rest inductionHypothesis =>
        intro state unmoved
        exact inductionHypothesis (state.drainChain chain) (unmoved.drainChain chain)
  exact marked _ _ (drained chains _ (marked state true unmoved))

/-- An operation that is its own under the numbers before leaves a listener unmoved. -/
theorem Unmoved.step_of_withdraw (unmoved : state.Unmoved moves) {operation : Operation}
    (quiet : operation.event? = none) (own : operation.withdraw moves = some operation)
    (active : state.registry.active = state.registry.active.map (MatchIndex.renumber moves)) :
    (state.step operation).Unmoved moves := by
  have stepped := step_moved_of_quiet quiet active
  unfold Unmoved at unmoved ⊢
  rw [own, unmoved] at stepped
  rw [registry_step_of_quiet state quiet]
  exact stepped.symm

theorem Unmoved.step (unmoved : state.Unmoved moves) (operation : Operation)
    (active : state.registry.active = state.registry.active.map (MatchIndex.renumber moves)) :
    (state.step operation).Unmoved moves := by
  cases does : operation.event? with
  | some event =>
      have drained : ∀ (activations : List Activation) (state : ListenerState σ),
          state.Unmoved moves →
          (activations.foldl (fun state activation => state.drain activation.removed)
            state).Unmoved moves := by
        intro activations
        induction activations with
        | nil =>
            intro state unmoved
            exact unmoved
        | cons activation rest inductionHypothesis =>
            intro state unmoved
            exact inductionHypothesis _ (unmoved.drain activation.removed)
      rw [state.step_of_event does]
      exact drained _ _ (unmoved.withRegistry _)
  | none =>
      cases operation with
      | report handle event =>
          unfold ListenerState.step onConnectionEvent
          dsimp only
          split
          · exact unmoved.removeConnection handle
          · exact unmoved
      | remove handle => exact unmoved.removeConnection handle
      | drain chains => exact unmoved.drain chains
      | apply descriptors builder => exact absurd does (by simp [Operation.event?])
      | ready target => exact absurd does (by simp [Operation.event?])
      | dispatch => exact absurd does (by simp [Operation.event?])
      | _ => exact unmoved.step_of_withdraw does rfl active

theorem Reachable.inStep (reachable : state.Reachable) : state.registry.InStep := by
  obtain ⟨config, carrier, operations, rfl⟩ := reachable
  rw [registry_ran]
  exact Registry.inStep_ran config.name (events operations)

theorem Reachable.enclosed (reachable : state.Reachable) : state.registry.Enclosed := by
  obtain ⟨config, carrier, operations, rfl⟩ := reachable
  rw [registry_ran]
  exact Registry.enclosed_ran config.name (events operations)

/-- A renumbering of what comes next changes nothing outside the registry. -/
theorem unmoved_ran (config : ListenerConfig σ) (carrier : Carrier) (operations : List Operation)
    (beyond : (ran config carrier operations).registry.Beyond moves) :
    (ran config carrier operations).Unmoved moves := by
  induction operations using List.reverseRecOn with
  | nil => rfl
  | append_singleton operations operation inductionHypothesis =>
      have after : (ran config carrier (operations ++ [operation])).registry =
          (ran config carrier operations).registry.run operation.event?.toList := by
        rw [ran_concat, registry_step]
      rw [after] at beyond
      have earlier := beyond.of_run
      have reachable : (ran config carrier operations).Reachable :=
        ⟨config, carrier, operations, rfl⟩
      have kept := Registry.renumber_of_beyond reachable.inStep reachable.enclosed earlier
      have active : (ran config carrier operations).registry.active =
          (ran config carrier operations).registry.active.map (MatchIndex.renumber moves) :=
        (congrArg Registry.active kept).symm
      rw [ran_concat]
      exact (inductionHypothesis earlier).step operation active

theorem Reachable.unmoved (reachable : state.Reachable) (beyond : state.registry.Beyond moves) :
    state.Unmoved moves := by
  obtain ⟨config, carrier, operations, rfl⟩ := reachable
  exact unmoved_ran config carrier operations beyond

/-- Under the numbers that a batch leaves, a listener is itself, whatever its registry becomes. -/
theorem Reachable.moved_gap (reachable : state.Reachable)
    (descriptors : List FilterChainDescriptor) (builder : ChainBuilder) (registry : Registry) :
    state.moved (state.registry.gap descriptors builder) registry =
      { state with registry := registry } :=
  (reachable.unmoved (Registry.beyond_gap descriptors builder)).withRegistry registry

end Admission.Listener.ListenerState
