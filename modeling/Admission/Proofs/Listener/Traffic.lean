import Admission.Proofs.Listener.Conclusion
import Admission.Proofs.Listener.Effects

/-!
Contract: what operations do to the connections.

Owns:
- `Traffic`, that sockets have come, moved on and left, and that each operation is of one of four
  kinds, `step_kinds`;
- what else an operation can do to connections: it closes some, `view_of_shelves`, or it drops some,
  `view_clearParked`;
- `Identified`, that connections are numbered as they are made.
-/

namespace Admission.Listener.ListenerState

open Admission.Chain

variable {σ : Type} {state : ListenerState σ}

/-- Sockets have come, moved on in the listener filters and left them. -/
inductive Traffic : ListenerState σ → ListenerState σ → Prop
  /-- Nothing else has changed. -/
  | waited {before after : ListenerState σ} (frame : after = { before with
      pending := after.pending
      nextSerial := after.nextSerial
      stats := after.stats
      accepted := after.accepted }) : Traffic before after
  | left (before : ListenerState σ) (pending : PendingSocket σ) :
      Traffic before (before.finish pending).2
  | trans {before middle after : ListenerState σ} (first : Traffic before middle)
      (rest : Traffic middle after) : Traffic before after

private theorem traffic_accept (state : ListenerState σ) (socket : Socket) (now : Nat) :
    Traffic state (state.accept socket now).2 := by
  rw [accept_eq]
  split
  · exact .waited rfl
  · have taken : Traffic state state.taken := .waited rfl
    exact taken.trans (.left _ _)

private theorem traffic_stepPending (state : ListenerState σ) (id : SocketId)
    (step : Pipeline σ → Socket → Pipeline σ × Socket) :
    Traffic state (state.stepPending id step).2 := by
  unfold stepPending
  split
  · exact .waited rfl
  · dsimp only
    split
    · exact .waited rfl
    · have released : Traffic state (state.released id.slot) := .waited rfl
      exact released.trans (.left _ _)

private theorem traffic_timeOut (state : ListenerState σ) (id : SocketId) :
    Traffic state (state.timeOut id).2 :=
  have timed : Traffic state _ := .waited rfl
  timed.trans (traffic_stepPending _ id _)

private theorem traffic_timeOutAll (state : ListenerState σ) (ids : List SocketId) :
    Traffic state (state.timeOutAll ids).2 := by
  induction ids generalizing state with
  | nil => exact .waited rfl
  | cons id rest inductionHypothesis =>
      exact (state.traffic_timeOut id).trans (inductionHypothesis _)

private theorem traffic_setOpen (state : ListenerState σ) (id : SocketId) (isOpen : Bool) :
    Traffic state (state.setOpen id isOpen) := by
  unfold setOpen
  split
  · exact .waited rfl
  · exact .waited rfl

/-- Each kind of operation. -/
theorem step_kinds (state : ListenerState σ) (operation : Operation) :
    operation.shelves = true ∨ Traffic state (state.step operation) ∨ operation = .shutdown ∨
      operation = .clear := by
  cases operation with
  | accept socket now => exact .inr (.inl (state.traffic_accept socket now))
  | data id bytes => exact .inr (.inl (state.traffic_stepPending id _))
  | resume id success => exact .inr (.inl (state.traffic_stepPending id _))
  | poll now => exact .inr (.inl (state.traffic_timeOutAll _))
  | setOpen id isOpen => exact .inr (.inl (state.traffic_setOpen id isOpen))
  | shutdown => exact .inr (.inr (.inl rfl))
  | clear => exact .inr (.inr (.inr rfl))
  | _ => exact .inl rfl

/-! ## Connections that are closed -/

section View

variable {α : Type} {view : Connection → α} (state)

private theorem view_withConnection (id : Nat) {change : Connection → Connection}
    (keeps : ∀ connection, view (change connection) = view connection) :
    (state.withConnection id change).connections.map view = state.connections.map view := by
  unfold withConnection
  refine List.ext_getElem? ?_
  intro position
  dsimp only
  rw [List.getElem?_map, List.getElem?_map, List.getElem?_modify]
  cases state.connections[position]? with
  | none => simp
  | some connection =>
      by_cases here : id - 1 = position
      · simp [here, keeps]
      · simp [here]

private theorem view_removeConnection (handle : ConnectionHandle) :
    (state.removeConnection handle).2.connections.map view = state.connections.map view := by
  obtain ⟨groups, parked, removed⟩ := state.removeConnection_frame handle
  rw [removed]

variable (closes : ∀ connection, view (connection.close .noFlush) = view connection)

include closes

private theorem view_dropConnection (handle : ConnectionHandle) :
    (state.dropConnection handle).connections.map view = state.connections.map view := by
  unfold dropConnection
  split
  · rfl
  · exact (view_removeConnection _ handle).trans (view_withConnection _ _ closes)

private theorem view_dropAll (handles : List ConnectionHandle) :
    (handles.foldl dropConnection state).connections.map view = state.connections.map view := by
  induction handles generalizing state with
  | nil => rfl
  | cons handle rest inductionHypothesis =>
      exact (inductionHypothesis _).trans (view_dropConnection state closes handle)

private theorem view_drainChain (chain : FilterChainId) :
    (state.drainChain chain).connections.map view = state.connections.map view := by
  unfold drainChain
  split
  · rfl
  · rename_i group _
    have dropped := view_dropAll state closes group.handles
    dsimp only
    split
    · exact dropped
    · exact dropped

private theorem view_drain (chains : List FilterChainId) :
    (state.drain chains).connections.map view = state.connections.map view := by
  have drained (state : ListenerState σ) :
      (chains.foldl drainChain state).connections.map view = state.connections.map view := by
    induction chains generalizing state with
    | nil => rfl
    | cons chain rest inductionHypothesis =>
        exact (inductionHypothesis _).trans (view_drainChain state closes chain)
  exact drained { state with draining := true }

private theorem view_drains (activations : List Activation) :
    (activations.foldl (fun state activation => state.drain activation.removed)
      state).connections.map view = state.connections.map view := by
  induction activations generalizing state with
  | nil => rfl
  | cons activation rest inductionHypothesis =>
      exact (inductionHypothesis _).trans (view_drain state closes activation.removed)

/-- Operations on chains and connections change no connection but by closing it. -/
theorem view_of_shelves {operation : Operation} (shelves : operation.shelves = true) :
    (state.step operation).connections.map view = state.connections.map view := by
  have event {event : Event} (does : operation.event? = some event) :
      (state.step operation).connections.map view = state.connections.map view := by
    rw [state.step_of_event does]
    exact view_drains { state with registry := state.registry.step event } closes _
  cases operation with
  | apply descriptors builder => exact event rfl
  | ready target => exact event rfl
  | dispatch => exact event rfl
  | report handle reported =>
      unfold step onConnectionEvent
      dsimp only
      split
      · exact view_removeConnection state handle
      · rfl
  | remove handle => exact view_removeConnection state handle
  | drain chains => exact view_drain state closes chains
  | _ => exact absurd shelves (by simp [Operation.shelves])

theorem view_shutdown : state.shutdown.connections.map view = state.connections.map view := by
  rw [shutdown_eq]
  exact view_drain state.withdrawn closes state.groups.keys

end View

/-! ## Connections that are dropped -/

section View

variable {α : Type} {view : Connection → α} (state)
  (destroys : ∀ connection, view connection.destroy = view connection)

include destroys

private theorem view_dropParked (object : Parked) :
    (state.dropParked object).connections.map view = state.connections.map view := by
  unfold dropParked
  split
  · rfl
  · rfl
  · exact view_withConnection _ _ destroys
  · rfl

theorem view_clearParked : state.clearParked.2.connections.map view = state.connections.map view := by
  have dropped (state : ListenerState σ) (objects : List Parked) :
      (objects.foldl dropParked state).connections.map view = state.connections.map view := by
    induction objects generalizing state with
    | nil => rfl
    | cons object rest inductionHypothesis =>
        exact (inductionHypothesis _).trans (view_dropParked state destroys object)
  exact dropped { state with parked := [] } state.parked

end View

theorem length_of_view {α : Type} {view : Connection → α} {after : ListenerState σ}
    (same : after.connections.map view = state.connections.map view) :
    after.connections.length = state.connections.length := by
  have lengths := congrArg List.length same
  rw [List.length_map, List.length_map] at lengths
  exact lengths

section Length

variable (state)

theorem length_of_shelves {operation : Operation} (shelves : operation.shelves = true) :
    (state.step operation).connections.length = state.connections.length :=
  length_of_view (state.view_of_shelves (fun connection => connection.close_id .noFlush) shelves)

theorem length_shutdown : state.shutdown.connections.length = state.connections.length :=
  length_of_view (state.view_shutdown fun connection => connection.close_id .noFlush)

theorem length_dropParked (object : Parked) :
    (state.dropParked object).connections.length = state.connections.length :=
  length_of_view (state.view_dropParked Connection.destroy_id object)

theorem length_clearParked :
    state.clearParked.2.connections.length = state.connections.length :=
  length_of_view (state.view_clearParked Connection.destroy_id)

end Length

/-! ## Identities -/

/-- Connections are numbered from 1, as they are made. -/
def Identified (state : ListenerState σ) : Prop :=
  state.connections.map (·.id) = List.range' 1 state.connections.length

private theorem Identified.of_same (identified : state.Identified) {after : ListenerState σ}
    (same : after.connections.map (·.id) = state.connections.map (·.id)) : after.Identified := by
  unfold Identified
  rw [same, length_of_view same]
  exact identified

private theorem Identified.concat (identified : state.Identified) {connection : Connection}
    (next : connection.id = state.connections.length + 1) {after : ListenerState σ}
    (made : after.connections = state.connections ++ [connection]) : after.Identified := by
  unfold Identified at identified ⊢
  rw [made, List.map_append, identified, List.length_append, List.length_singleton,
    List.range'_concat, List.map_singleton, next, Nat.one_mul, Nat.add_comm]

private theorem Identified.finish (identified : state.Identified) (pending : PendingSocket σ) :
    (state.finish pending).2.Identified := by
  have concluded := state.concluded_finish pending
  generalize state.finish pending = result at concluded
  cases concluded with
  | rejected => exact identified
  | unmatched => exact identified
  | @refused matched =>
      have number : (state.connectionFor pending.socket matched.chain).destroy.id =
          state.connections.length + 1 := state.connectionFor_id pending.socket matched.chain
      exact identified.concat number rfl
  | @connected matched =>
      exact identified.concat (state.connectionFor_id pending.socket matched.chain) rfl

private theorem Traffic.identified {before after : ListenerState σ} (traffic : Traffic before after)
    (identified : before.Identified) : after.Identified := by
  induction traffic with
  | waited frame =>
      rw [frame]
      exact identified
  | left before pending => exact identified.finish pending
  | trans _ _ first rest => exact rest (first identified)

theorem identified_ran (config : ListenerConfig σ) (carrier : Carrier)
    (operations : List Operation) : (ran config carrier operations).Identified := by
  induction operations using List.reverseRecOn with
  | nil => rfl
  | append_singleton operations operation inductionHypothesis =>
      rw [ran_concat]
      generalize ran config carrier operations = state at inductionHypothesis ⊢
      have closes : ∀ connection : Connection, (connection.close .noFlush).id = connection.id :=
        fun connection => connection.close_id .noFlush
      rcases state.step_kinds operation with shelves | traffic | rfl | rfl
      · exact inductionHypothesis.of_same (view_of_shelves state closes shelves)
      · exact traffic.identified inductionHypothesis
      · exact inductionHypothesis.of_same (view_shutdown state closes)
      · exact inductionHypothesis.of_same (view_clearParked state Connection.destroy_id)

end Admission.Listener.ListenerState
