import Admission.Proofs.Listener.Gauges

/-!
Contract: the gauges are exact throughout a run, and none is decremented at zero.

A gauge that is decremented at zero stays there, while one that was higher falls; from then on two
runs that began with different gauges are closer than at their beginning. So they stay apart for good
exactly if no decrement finds a zero.

Owns:
- `raise`, a listener with higher gauges, and its exchange with every operation, `run_raise`;
- `ever_ran` and `emptied_of_shutdown_clear`, what a whole run has tracked and what its end leaves;
- `gauges_exact`.
-/

namespace Admission.Listener

open Admission.Chain

/-- How much higher the gauges are. -/
structure Extra where
  pending : Nat
  active : Nat
  opened : Nat

def ListenerStats.raise (extra : Extra) (stats : ListenerStats) : ListenerStats :=
  { stats with
    pendingActive := extra.pending + stats.pendingActive
    connectionsActive := extra.active + stats.connectionsActive
    openObjects := extra.opened + stats.openObjects }

private theorem ListenerStats.without_raise (extra : Extra) {stats : ListenerStats}
    {objects : List Parked}
    (active : (objects.filterMap Parked.record?).length ≤ stats.connectionsActive)
    (opened : (objects.filterMap Parked.line?).length ≤ stats.openObjects) :
    (stats.raise extra).without objects = (stats.without objects).raise extra := by
  unfold without raise
  dsimp only
  rw [Nat.add_sub_assoc active, Nat.add_sub_assoc opened]

namespace ListenerState

variable {σ : Type}

/-- A listener with higher gauges. -/
def raise (extra : Extra) (state : ListenerState σ) : ListenerState σ :=
  state.count (·.raise extra)

variable (extra : Extra) (state : ListenerState σ)

/-! ## Operations that decrement nothing -/

private theorem removeConnection_raise (handle : ConnectionHandle) :
    ((state.raise extra).removeConnection handle).2 =
      (state.removeConnection handle).2.raise extra := by
  unfold removeConnection raise count
  dsimp only
  split
  · rfl
  · split
    · rfl
    · rename_i group _ _ record _
      dsimp only [park]
      by_cases emptied : (ConnectionGroup.mk group.chain (group.records.remove handle.slot)).size = 0 ∧
        ¬state.draining = true
      · simp only [emptied, Bool.false_eq_true, not_false_eq_true, and_self, if_true]
      · simp only [emptied, if_false]

private theorem dropConnection_raise (handle : ConnectionHandle) :
    (state.raise extra).dropConnection handle = (state.dropConnection handle).raise extra := by
  have same : (state.raise extra).record? handle = state.record? handle := rfl
  unfold dropConnection
  rw [same]
  split
  · rfl
  · rename_i record _
    exact removeConnection_raise extra
      (state.withConnection record.connection (·.close .noFlush)) handle

private theorem drainChain_raise (chain : FilterChainId) :
    (state.raise extra).drainChain chain = (state.drainChain chain).raise extra := by
  have same : (state.raise extra).groups = state.groups := rfl
  unfold drainChain
  rw [same]
  split
  · rfl
  · rename_i group _
    have dropped : group.handles.foldl dropConnection (state.raise extra) =
        (group.handles.foldl dropConnection state).raise extra :=
      List.foldl_hom (raise extra) (dropConnection_raise extra)
    dsimp only
    rw [dropped]
    have stillSame : ((group.handles.foldl dropConnection state).raise extra).groups =
        (group.handles.foldl dropConnection state).groups := rfl
    rw [stillSame]
    split
    · rfl
    · rfl

private theorem drain_raise (chains : List FilterChainId) :
    (state.raise extra).drain chains = (state.drain chains).raise extra := by
  have drained : chains.foldl drainChain ({ state with draining := true }.raise extra) =
      (chains.foldl drainChain { state with draining := true }).raise extra :=
    List.foldl_hom (raise extra) fun state chain => drainChain_raise extra state chain
  exact congrArg (fun drained => { drained with draining := state.draining }) drained

private theorem drains_raise (activations : List Activation) :
    activations.foldl (fun state activation => state.drain activation.removed) (state.raise extra) =
      (activations.foldl (fun state activation => state.drain activation.removed) state).raise
        extra :=
  List.foldl_hom (raise extra) fun state activation => drain_raise extra state activation.removed

private theorem connect_raise (socket : Socket) (chain : FilterChain) :
    (state.raise extra).connect socket chain =
      ((state.connect socket chain).1, (state.connect socket chain).2.raise extra) := rfl

private theorem route_raise (pending : PendingSocket σ) :
    ((state.raise extra).route pending).2 = (state.route pending).2.raise extra := by
  have same : (state.raise extra).registry = state.registry := rfl
  unfold route
  rw [same]
  split
  · rfl
  · dsimp only
    rw [connect_raise]
    dsimp only
    split
    · rfl
    · rfl

private theorem finish_raise (pending : PendingSocket σ) :
    ((state.raise extra).finish pending).2 = (state.finish pending).2.raise extra := by
  unfold finish
  split
  · exact route_raise extra state pending
  · unfold raise count
    dsimp only
    split
    · rfl
    · rfl

private theorem accept_raise (socket : Socket) (now : Nat) :
    ((state.raise extra).accept socket now).2 = (state.accept socket now).2.raise extra := by
  have arrival : (state.raise extra).arrival socket now = state.arrival socket now := rfl
  rw [accept_eq, accept_eq, arrival]
  split
  · rfl
  · exact finish_raise extra state.taken (state.arrival socket now)

/-! ## Operations that decrement a gauge -/

/-- The gauge of sockets in listener filters is no lower than their number. -/
def Roomy (state : ListenerState σ) : Prop :=
  state.pending.size ≤ state.stats.pendingActive

variable {extra} {state}

/-- Every socket that is there can leave the gauge. -/
theorem Roomy.pos (roomy : state.Roomy) {id : SocketId} {pending : PendingSocket σ}
    (found : state.pending? id = some pending) : 0 < state.stats.pendingActive := by
  have size := Slab.size_remove (pending?_eq_some_iff.mp found).1
  unfold Roomy at roomy
  omega

private theorem Roomy.stepPending (roomy : state.Roomy) (id : SocketId)
    (step : Pipeline σ → Socket → Pipeline σ × Socket) : (state.stepPending id step).2.Roomy := by
  have stepped := state.stepped_stepPending id step
  generalize state.stepPending id step = result at stepped
  unfold Roomy at roomy ⊢
  cases stepped with
  | unknown => exact roomy
  | held => exact (state.pending.size_modify _ _).trans_le roomy
  | left found settled =>
      have size := Slab.size_remove (pending?_eq_some_iff.mp found).1
      have left : (state.released id.slot).Roomy := by
        show (state.pending.remove id.slot).size ≤ state.stats.pendingActive - 1
        omega
      cases settled with
      | closed _ _ tally =>
          rw [tally.frame]
          exact left
      | connected => exact left

private theorem Roomy.timeOut (roomy : state.Roomy) (id : SocketId) :
    (state.timeOut id).2.Roomy := by
  refine Roomy.stepPending ?_ id _
  exact (state.pending.size_modify _ _).trans_le roomy

variable (extra)

private theorem Roomy.released_raise (roomy : state.Roomy) {id : SocketId}
    {pending : PendingSocket σ} (found : state.pending? id = some pending) :
    (state.raise extra).released id.slot = (state.released id.slot).raise extra := by
  have lower : extra.pending + state.stats.pendingActive - 1 =
      extra.pending + (state.stats.pendingActive - 1) :=
    Nat.add_sub_assoc (roomy.pos found) extra.pending
  exact congrArg (fun gauge => { state.raise extra with
    pending := state.pending.remove id.slot
    stats := { state.stats.raise extra with pendingActive := gauge } }) lower

private theorem Roomy.stepPending_raise (roomy : state.Roomy) (id : SocketId)
    (step : Pipeline σ → Socket → Pipeline σ × Socket) :
    ((state.raise extra).stepPending id step).2 = (state.stepPending id step).2.raise extra := by
  have same : (state.raise extra).pending? id = state.pending? id := rfl
  unfold ListenerState.stepPending
  rw [same]
  split
  · rfl
  · rename_i pending found
    dsimp only
    split
    · rfl
    · show (((state.raise extra).released id.slot).finish (pending.stepped step)).2 =
        ((state.released id.slot).finish (pending.stepped step)).2.raise extra
      rw [roomy.released_raise extra found]
      exact finish_raise extra (state.released id.slot) (pending.stepped step)

private theorem Roomy.timeOut_raise (roomy : state.Roomy) (id : SocketId) :
    ((state.raise extra).timeOut id).2 = (state.timeOut id).2.raise extra := by
  have marked : { state.timed with pending := state.pending.modify id.slot fun pending =>
      if state.config.continueOnTimeout then pending else pending.expire }.Roomy :=
    (state.pending.size_modify _ _).trans_le roomy
  exact marked.stepPending_raise extra id fun pipeline socket =>
    pipeline.onTimeout socket state.config.continueOnTimeout

private theorem Roomy.timeOutAll_raise (roomy : state.Roomy) (ids : List SocketId) :
    ((state.raise extra).timeOutAll ids).2 = (state.timeOutAll ids).2.raise extra := by
  induction ids generalizing state with
  | nil => rfl
  | cons id rest inductionHypothesis =>
      show (((state.raise extra).timeOut id).2.timeOutAll rest).2 =
        ((state.timeOut id).2.timeOutAll rest).2.raise extra
      rw [roomy.timeOut_raise]
      exact inductionHypothesis (roomy.timeOut id)

private theorem Roomy.shutdown_raise (roomy : state.Roomy) :
    (state.raise extra).shutdown = state.shutdown.raise extra := by
  have lower : extra.pending + state.stats.pendingActive - state.pending.size =
      extra.pending + (state.stats.pendingActive - state.pending.size) :=
    Nat.add_sub_assoc roomy extra.pending
  have withdrawn : (state.raise extra).withdrawn = state.withdrawn.raise extra :=
    congrArg (fun gauge => { state.withdrawn.raise extra with
      stats := { state.withdrawn.stats.raise extra with pendingActive := gauge } }) lower
  have same : (state.raise extra).groups = state.groups := rfl
  rw [shutdown_eq, shutdown_eq, withdrawn, same]
  exact drain_raise extra state.withdrawn state.groups.keys

private theorem dropParked_raise {object : Parked}
    (active : ([object].filterMap Parked.record?).length ≤ state.stats.connectionsActive)
    (opened : ([object].filterMap Parked.line?).length ≤ state.stats.openObjects) :
    (state.raise extra).dropParked object = (state.dropParked object).raise extra := by
  have apart : (state.raise extra).dropParked object = { state.dropParked object with
      stats := (state.stats.raise extra).without [object] } := by
    cases object with
    | socket id socket info connected => cases connected <;> rfl
    | connection record => rfl
    | group group => rfl
  have stats : (state.dropParked object).stats = state.stats.without [object] := by
    obtain ⟨connections, dropped⟩ := state.dropParked_frame object
    rw [dropped]
  rw [apart, ListenerStats.without_raise extra active opened, ← stats]
  rfl

/-- Objects are dropped from gauges that count them. -/
theorem dropAll_raise {objects : List Parked}
    (active : (objects.filterMap Parked.record?).length ≤ state.stats.connectionsActive)
    (opened : (objects.filterMap Parked.line?).length ≤ state.stats.openObjects) :
    objects.foldl dropParked (state.raise extra) =
      (objects.foldl dropParked state).raise extra := by
  induction objects generalizing state with
  | nil => rfl
  | cons object rest inductionHypothesis =>
      obtain ⟨connections, dropped⟩ := state.dropParked_frame object
      rw [← List.singleton_append, List.filterMap_append, List.length_append] at active opened
      have first := dropParked_raise extra (Nat.le_of_add_right_le active)
        (Nat.le_of_add_right_le opened)
      rw [List.foldl_cons, List.foldl_cons, first]
      refine inductionHypothesis ?_ ?_
      · rw [dropped]
        exact Nat.le_sub_of_add_le' active
      · rw [dropped]
        exact Nat.le_sub_of_add_le' opened

/-! ## Runs -/

private theorem Gauged.roomy (gauged : state.Gauged 0) : state.Roomy :=
  Nat.le_of_eq gauged.pending.symm

private theorem Gauged.step_raise (gauged : state.Gauged 0) (operation : Operation) :
    (state.raise extra).step operation = (state.step operation).raise extra := by
  have event {event : Event} (does : operation.event? = some event) :
      (state.raise extra).step operation = (state.step operation).raise extra := by
    rw [step_of_event _ does, step_of_event _ does]
    exact drains_raise extra { state with registry := state.registry.step event } _
  cases operation with
  | apply descriptors builder => exact event rfl
  | ready target => exact event rfl
  | dispatch => exact event rfl
  | accept socket now => exact accept_raise extra state socket now
  | data id bytes => exact gauged.roomy.stepPending_raise extra id _
  | resume id success => exact gauged.roomy.stepPending_raise extra id _
  | poll now => exact gauged.roomy.timeOutAll_raise extra _
  | setOpen id isOpen =>
      have same : (state.raise extra).isPending id = state.isPending id := rfl
      unfold step setOpen
      dsimp only
      rw [same]
      split
      · rfl
      · rfl
  | report handle reported =>
      unfold step onConnectionEvent
      dsimp only
      split
      · exact removeConnection_raise extra state handle
      · rfl
  | remove handle => exact removeConnection_raise extra state handle
  | drain chains => exact drain_raise extra state chains
  | shutdown => exact gauged.roomy.shutdown_raise extra
  | clear =>
      obtain ⟨_, active, opened⟩ := gauged
      have records : (state.parked.filterMap Parked.record?).length ≤
          ({ state with parked := [] } : ListenerState σ).stats.connectionsActive := by
        show _ ≤ state.stats.connectionsActive
        omega
      have lines : (state.parked.filterMap Parked.line?).length ≤
          ({ state with parked := [] } : ListenerState σ).stats.openObjects := by
        show _ ≤ state.stats.openObjects
        omega
      exact dropAll_raise extra records lines

/-- No decrement finds a gauge at zero: a run that begins with higher gauges is higher by as much at its
end. -/
theorem run_raise (config : ListenerConfig σ) (carrier : Carrier) (operations : List Operation) :
    ((ListenerState.new config carrier).raise extra).run operations =
      (ran config carrier operations).raise extra := by
  induction operations using List.reverseRecOn with
  | nil => rfl
  | append_singleton operations operation inductionHypothesis =>
      -- Each operation finds gauges that count what it is going to take away.
      have before := gauged_ran config carrier operations
      rw [ran_concat, ← before.step_raise extra operation, ← inductionHypothesis]
      exact List.foldl_append

theorem ever_ran (config : ListenerConfig σ) (carrier : Carrier) (operations : List Operation) :
    (ran config carrier operations).stats.ever =
      connectedCount ((ListenerState.new config carrier).runOutcomes operations) := by
  induction operations using List.reverseRecOn with
  | nil => rfl
  | append_singleton operations operation inductionHypothesis =>
      have counted := (effect_ran config carrier operations operation).ever
        (gauged_ran config carrier operations)
      rw [counted, inductionHypothesis, runOutcomes_concat, connectedCount_append]
      rfl

/-- When everything has ended and nothing is parked, a listener has nothing left. -/
theorem emptied_of_shutdown_clear (config : ListenerConfig σ) (carrier : Carrier)
    (operations : List Operation) :
    let ended := ran config carrier (operations ++ [.shutdown, .clear])
    ended.pending = .empty ∧ ended.records = [] ∧ ended.parked = [] := by
  have ends := (housed_ran config carrier operations).effect_shutdown
  generalize shape : (ran config carrier operations).shutdown = closed at ends
  cases ends with
  | shelved shelves => exact absurd shelves (by decide)
  | ended shelved gone =>
      obtain ⟨connections, cleared⟩ := closed.clearParked_frame
      have result : ran config carrier (operations ++ [.shutdown, .clear]) = closed.clearParked.2 := by
        rw [ran_append, ← shape]
        rfl
      rw [result, cleared]
      refine ⟨?_, records_of_no_group gone, rfl⟩
      dsimp only
      rw [shelved.frame]
      rfl

/-- Throughout a run the gauges are the sizes of what they count: the sockets in listener filters, the
connections that are tracked or parked, and these with the parked sockets that have no connection.
The connections that are gone make up the rest of those that were ever tracked. No gauge was
decremented at zero: it would have lost a part of whatever it had been higher by. A listener that has
ended and has dropped everything has gauges of zero. -/
theorem gauges_exact (config : ListenerConfig σ) (carrier : Carrier)
    (operations : List Operation) :
    let state := ran config carrier operations
    let ended := ran config carrier (operations ++ [.shutdown, .clear])
    state.stats.pendingActive = state.pending.size ∧
    state.stats.connectionsActive =
      state.connectionCount + (state.parked.filterMap Parked.record?).length ∧
    state.stats.openObjects = state.pending.size + state.connectionCount +
      (state.parked.filterMap Parked.record?).length + state.parked.countP Parked.isUnconnected ∧
    state.stats.connectionsActive + state.stats.connectionsDestroyed =
      connectedCount ((ListenerState.new config carrier).runOutcomes operations) ∧
    (∀ extra, ((ListenerState.new config carrier).raise extra).run operations =
      state.raise extra) ∧
    ended.stats.pendingActive = 0 ∧ ended.stats.connectionsActive = 0 ∧
      ended.stats.openObjects = 0 := by
  obtain ⟨waiting, active, opened⟩ := gauged_ran config carrier operations
  have last := gauged_ran config carrier (operations ++ [.shutdown, .clear])
  obtain ⟨noSockets, noRecords, nothingParked⟩ :=
    emptied_of_shutdown_clear config carrier operations
  obtain ⟨noneWaiting, noneActive, noneOpened⟩ := last
  rw [noSockets] at noneWaiting
  rw [noRecords, nothingParked] at noneActive
  rw [noSockets, noRecords, nothingParked] at noneOpened
  dsimp only
  rw [connectionCount_eq]
  refine ⟨waiting, active, ?_, ever_ran config carrier operations,
    fun extra => run_raise extra config carrier operations, noneWaiting, noneActive, noneOpened⟩
  rw [length_filterMap_line?] at opened
  omega

end ListenerState

end Admission.Listener
