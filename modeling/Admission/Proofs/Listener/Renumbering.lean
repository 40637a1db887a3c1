import Admission.Proofs.Chain.Renumbering
import Admission.Proofs.Listener.Events
import Admission.Proofs.Listener.Slab

/-!
Contract: a listener does the same under other numbers of generations and chains.

Owns:
- `ListenerState.moved`, a listener under other numbers and with another registry, and its exchange
  with every operation on sockets and connections, as far as the active generation agrees;
- `Operation.withdraw`, an operation as it is under the numbers before the renumbering;
- `run_moved`: a registry that mirrors that of a listener can stand in its place in a run.
-/

namespace Admission.Listener

open Admission.Chain

/-! ## What carries a number -/

section Renumber

variable (moves : Renumbering)

def ConnectionHandle.renumber (handle : ConnectionHandle) : ConnectionHandle :=
  { handle with chain := handle.chain.renumber moves }

def ConnectionHandle.back? (handle : ConnectionHandle) : Option ConnectionHandle :=
  (handle.chain.back? moves).map fun chain => { handle with chain }

def ConnectionRecord.renumber (record : ConnectionRecord) : ConnectionRecord :=
  { record with
    handle := record.handle.renumber moves
    generation := record.generation.renumber moves }

def ConnectionGroup.renumber (group : ConnectionGroup) : ConnectionGroup :=
  ⟨group.chain.renumber moves, group.records.map (ConnectionRecord.renumber moves)⟩

def Parked.renumber : Parked → Parked
  | .socket id peer info connected => .socket id peer info connected
  | .connection record => .connection (record.renumber moves)
  | .group emptied => .group (emptied.renumber moves)

/-- An operation under the numbers before. What is about a generation or a chain that was none then
goes. -/
def Operation.withdraw : Operation → Option Operation
  | .ready target => (target.back? moves).map .ready
  | .report handle event => (handle.back? moves).map (.report · event)
  | .remove handle => (handle.back? moves).map .remove
  | .drain chains => some (.drain (chains.filterMap (FilterChainId.back? moves)))
  | operation => some operation

/-- A listener under other numbers, with a registry of its own. -/
def ListenerState.moved {σ : Type} (registry : Registry) (state : ListenerState σ) :
    ListenerState σ :=
  { state with
    registry
    groups := state.groups.relabel (FilterChainId.renumber moves) (ConnectionGroup.renumber moves)
    parked := state.parked.map (Parked.renumber moves) }

variable {moves}

private theorem ConnectionHandle.renumber_injective :
    Function.Injective (ConnectionHandle.renumber moves) := by
  intro left right same
  unfold renumber at same
  rw [ConnectionHandle.mk.injEq] at same
  obtain ⟨chain, slot, serial⟩ := same
  cases left
  cases right
  rw [ConnectionHandle.mk.injEq]
  exact ⟨FilterChainId.renumber_injective chain, slot, serial⟩

private theorem ConnectionHandle.renumber_of_back? {handle before : ConnectionHandle}
    (known : handle.back? moves = some before) : before.renumber moves = handle := by
  obtain ⟨chain, found, rfl⟩ := Option.map_eq_some_iff.mp known
  unfold renumber
  dsimp only
  rw [FilterChainId.renumber_of_back? found]

/-- An operation does under the numbers before what its event was then. -/
theorem Operation.event?_withdraw (operation : Operation) :
    (operation.withdraw moves).bind (·.event?) = operation.event?.bind (Event.withdraw moves) := by
  cases operation with
  | ready target =>
      show ((target.back? moves).map Operation.ready).bind (·.event?) =
        (target.back? moves).map Event.ready
      cases target.back? moves with
      | none => rfl
      | some before => rfl
  | report handle event =>
      show ((handle.back? moves).map (Operation.report · event)).bind (·.event?) = none
      cases handle.back? moves with
      | none => rfl
      | some before => rfl
  | remove handle =>
      show ((handle.back? moves).map Operation.remove).bind (·.event?) = none
      cases handle.back? moves with
      | none => rfl
      | some before => rfl
  | _ => rfl

theorem events_withdraw (operations : List Operation) :
    events (operations.filterMap (Operation.withdraw moves)) =
      (events operations).filterMap (Event.withdraw moves) := by
  unfold events
  rw [List.filterMap_filterMap, List.filterMap_filterMap]
  exact congrArg (List.filterMap · operations) (funext Operation.event?_withdraw)

end Renumber

variable {moves : Renumbering}

namespace ConnectionGroup

private theorem get?_renumber (group : ConnectionGroup) (handle : ConnectionHandle) :
    (group.renumber moves).get? (handle.renumber moves) =
      (group.get? handle).map (ConnectionRecord.renumber moves) := by
  have slot : (handle.renumber moves).slot = handle.slot := rfl
  have records : (group.renumber moves).records =
      group.records.map (ConnectionRecord.renumber moves) := rfl
  unfold get?
  rw [records, slot, Slab.get?_map]
  cases group.records.get? handle.slot with
  | none => rfl
  | some record =>
      have same : (record.renumber moves).handle = handle.renumber moves ↔
          record.handle = handle := ConnectionHandle.renumber_injective.eq_iff
      rw [Option.map_some, Option.filter_some, Option.filter_some]
      by_cases here : record.handle = handle
      · simp [same, here]
      · simp [same, here]

/-- A group without the record of a slot. -/
theorem remove_renumber (group : ConnectionGroup) (slot : Nat) :
    { group.renumber moves with records := (group.renumber moves).records.remove slot } =
      { group with records := group.records.remove slot }.renumber moves := by
  unfold renumber
  dsimp only
  rw [Slab.remove_map]

private theorem size_renumber (group : ConnectionGroup) :
    (group.renumber moves).size = group.size :=
  Slab.size_map _ group.records

private theorem handles_renumber (group : ConnectionGroup) :
    (group.renumber moves).handles = group.handles.map (ConnectionHandle.renumber moves) := by
  have records : (group.renumber moves).records =
      group.records.map (ConnectionRecord.renumber moves) := rfl
  unfold handles
  rw [records, Slab.values_map, List.map_map, List.map_map]
  rfl

end ConnectionGroup

theorem lookup_renumber {left right : Registry}
    (active : left.active = right.active.map (MatchIndex.renumber moves)) (socket : Socket) :
    left.lookup socket =
      (right.lookup socket).map (Option.map (LookupMatch.renumber moves)) id := by
  unfold Registry.lookup
  rw [active]
  cases right.active with
  | none => rfl
  | some index =>
      dsimp only [Option.map_some]
      rw [index.find_renumber]
      unfold MatchIndex.Selection.relabel
      dsimp only
      rw [Prod.map_apply, Option.map_map, Option.map_map]
      rfl

namespace ListenerState

variable {σ : Type} {registry : Registry} {state : ListenerState σ}

/-! ## Connections -/

private theorem groups_moved (chain : FilterChainId) :
    (state.moved moves registry).groups.get? (chain.renumber moves) =
      (state.groups.get? chain).map (ConnectionGroup.renumber moves) :=
  Table.get?_relabel FilterChainId.renumber_injective state.groups chain

/-- No group is that of a chain in the gap. -/
theorem groups_moved_of_back? {chain : FilterChainId} (gap : chain.back? moves = none) :
    (state.moved moves registry).groups.get? chain = none :=
  Table.get?_relabel_of_forall_ne (FilterChainId.renumber_ne_of_back? gap) state.groups

private theorem record?_moved (handle : ConnectionHandle) :
    (state.moved moves registry).record? (handle.renumber moves) =
      (state.record? handle).map (ConnectionRecord.renumber moves) := by
  have chain : (handle.renumber moves).chain = handle.chain.renumber moves := rfl
  unfold record?
  rw [chain, groups_moved]
  cases state.groups.get? handle.chain with
  | none => rfl
  | some group => exact group.get?_renumber handle

private theorem park_moved (state : ListenerState σ) (object : Parked) :
    (state.moved moves registry).park (object.renumber moves) =
      (state.park object).moved moves registry := by
  unfold park moved
  dsimp only
  rw [List.map_append]
  rfl

private theorem parkSocket_moved (state : ListenerState σ) (id : SocketId) (socket : Socket)
    (info : StreamInfo) (connected : Bool) :
    (state.moved moves registry).park (.socket id socket info connected) =
      (state.park (.socket id socket info connected)).moved moves registry :=
  state.park_moved (.socket id socket info connected)

private theorem erase_moved (state : ListenerState σ) (chain : FilterChainId) :
    (state.moved moves registry).groups.erase (chain.renumber moves) =
      ({ state with groups := state.groups.erase chain }.moved moves registry).groups :=
  Table.erase_relabel FilterChainId.renumber_injective state.groups chain

private theorem insert_moved (state : ListenerState σ) (chain : FilterChainId)
    (group : ConnectionGroup) :
    (state.moved moves registry).groups.insert (chain.renumber moves) (group.renumber moves) =
      ({ state with groups := state.groups.insert chain group }.moved moves registry).groups :=
  Table.insert_relabel FilterChainId.renumber_injective state.groups chain group

theorem removeConnection_moved (handle : ConnectionHandle) :
    (state.moved moves registry).removeConnection (handle.renumber moves) =
      ((state.removeConnection handle).1, (state.removeConnection handle).2.moved moves registry) := by
  have chain : (handle.renumber moves).chain = handle.chain.renumber moves := rfl
  have slot : (handle.renumber moves).slot = handle.slot := rfl
  unfold removeConnection
  rw [chain, slot, groups_moved]
  cases state.groups.get? handle.chain with
  | none => rfl
  | some group =>
      dsimp only [Option.map_some]
      rw [group.get?_renumber]
      cases group.get? handle with
      | none => rfl
      | some record =>
          have parked : (state.moved moves registry).park (.connection (record.renumber moves)) =
              (state.park (.connection record)).moved moves registry :=
            state.park_moved (.connection record)
          have draining : ∀ state : ListenerState σ,
              (state.moved moves registry).draining = state.draining := fun _ => rfl
          dsimp only [Option.map_some]
          rw [parked, group.remove_renumber, ConnectionGroup.size_renumber, draining]
          generalize ({ group with records := group.records.remove handle.slot } : ConnectionGroup) =
            emptied
          generalize state.park (.connection record) = state
          by_cases leaves : emptied.size = 0 ∧ ¬state.draining = true
          · rw [if_pos leaves, if_pos leaves, erase_moved]
            exact congrArg (Prod.mk true)
              (park_moved { state with groups := state.groups.erase handle.chain } (.group emptied))
          · rw [if_neg leaves, if_neg leaves, insert_moved]
            rfl

/-- A handle of a chain in the gap is unknown. -/
theorem removeConnection_moved_of_back? {handle : ConnectionHandle}
    (gap : handle.back? moves = none) :
    (state.moved moves registry).removeConnection handle = (false, state.moved moves registry) := by
  unfold removeConnection
  rw [groups_moved_of_back? (Option.map_eq_none_iff.mp gap)]

private theorem dropConnection_moved (handle : ConnectionHandle) :
    (state.moved moves registry).dropConnection (handle.renumber moves) =
      (state.dropConnection handle).moved moves registry := by
  unfold dropConnection
  rw [record?_moved]
  cases state.record? handle with
  | none => rfl
  | some record =>
      have closed : ∀ change : Connection → Connection,
          (state.moved moves registry).withConnection record.connection change =
            (state.withConnection record.connection change).moved moves registry := fun _ => rfl
      have same : (record.renumber moves).connection = record.connection := rfl
      dsimp only [Option.map_some]
      rw [same, closed, removeConnection_moved]

theorem drainChain_moved (chain : FilterChainId) :
    (state.moved moves registry).drainChain (chain.renumber moves) =
      (state.drainChain chain).moved moves registry := by
  have dropped : ∀ (handles : List ConnectionHandle) (state : ListenerState σ),
      (handles.map (ConnectionHandle.renumber moves)).foldl dropConnection
          (state.moved moves registry) =
        (handles.foldl dropConnection state).moved moves registry := by
    intro handles state
    rw [List.foldl_map]
    exact List.foldl_hom (moved moves registry) fun _ handle => dropConnection_moved handle
  unfold drainChain
  rw [groups_moved]
  cases state.groups.get? chain with
  | none => rfl
  | some group =>
      dsimp only [Option.map_some]
      rw [group.handles_renumber, dropped, groups_moved]
      generalize group.handles.foldl dropConnection state = state
      cases state.groups.get? chain with
      | none => rfl
      | some emptied =>
          dsimp only [Option.map_some]
          rw [erase_moved]
          exact park_moved { state with groups := state.groups.erase chain } (.group emptied)

private theorem drainAll_moved (chains : List FilterChainId) :
    chains.foldl drainChain (state.moved moves registry) =
      ((chains.filterMap (FilterChainId.back? moves)).foldl drainChain state).moved moves
        registry := by
  induction chains generalizing state with
  | nil => rfl
  | cons chain rest inductionHypothesis =>
      rw [List.foldl_cons]
      cases known : chain.back? moves with
      | none =>
          have unknown : (state.moved moves registry).drainChain chain =
              state.moved moves registry := by
            unfold drainChain
            rw [groups_moved_of_back? known]
          rw [unknown, List.filterMap_cons_none known, inductionHypothesis]
      | some before =>
          have drained : (state.moved moves registry).drainChain chain =
              (state.drainChain before).moved moves registry := by
            rw [← FilterChainId.renumber_of_back? known]
            exact drainChain_moved before
          rw [drained, List.filterMap_cons_some known, List.foldl_cons, inductionHypothesis]

/-- Draining is draining the same chains, as far as there were any. -/
theorem drain_moved (chains : List FilterChainId) :
    (state.moved moves registry).drain chains =
      (state.drain (chains.filterMap (FilterChainId.back? moves))).moved moves registry := by
  have drained : chains.foldl drainChain ({ state with draining := true }.moved moves registry) =
      ((chains.filterMap (FilterChainId.back? moves)).foldl drainChain
        { state with draining := true }).moved moves registry := drainAll_moved chains
  unfold drain
  exact congrArg (fun after : ListenerState σ => { after with draining := state.draining }) drained

private theorem drain_moved_renumber (chains : List FilterChainId) :
    (state.moved moves registry).drain (chains.map (FilterChainId.renumber moves)) =
      (state.drain chains).moved moves registry := by
  have back : FilterChainId.back? moves ∘ FilterChainId.renumber moves = some :=
    funext FilterChainId.back?_renumber
  rw [drain_moved, List.filterMap_map, back, List.filterMap_some]

/-! ## Sockets -/

private theorem track_moved (state : ListenerState σ) (chain : FilterChain) (connection : Nat)
    (info : StreamInfo) (index : MatchIndex) :
    (state.moved moves registry).track (chain.renumber moves) connection info
        (index.renumber moves) =
      ((state.track chain connection info index).1.renumber moves,
        (state.track chain connection info index).2.moved moves registry) := by
  have id : (chain.renumber moves).id = chain.id.renumber moves := rfl
  have group : ((state.groups.get? chain.id).map (ConnectionGroup.renumber moves)).getD
      ⟨chain.renumber moves, .empty⟩ =
        ((state.groups.get? chain.id).getD ⟨chain, .empty⟩).renumber moves := by
    cases state.groups.get? chain.id with
    | none => rfl
    | some group => rfl
  unfold track drawSerial
  dsimp only
  rw [id, groups_moved, group]
  generalize (state.groups.get? chain.id).getD ⟨chain, .empty⟩ = group
  have records : (group.renumber moves).records =
      group.records.map (ConnectionRecord.renumber moves) := rfl
  have record : ConnectionRecord.mk ⟨chain.id.renumber moves, group.records.vacant, state.nextSerial⟩
        connection info (index.renumber moves) =
      (ConnectionRecord.mk ⟨chain.id, group.records.vacant, state.nextSerial⟩ connection info
        index).renumber moves := rfl
  have serial : (state.moved moves registry).nextSerial = state.nextSerial := rfl
  rw [records, Slab.vacant_map, serial, record, Slab.insert_map]
  apply Prod.ext
  · rfl
  · unfold moved count
    dsimp only
    rw [← Table.insert_relabel FilterChainId.renumber_injective]
    rfl

private theorem connect_moved (state : ListenerState σ) (socket : Socket) (chain : FilterChain) :
    (state.moved moves registry).connect socket (chain.renumber moves) =
      ((state.connect socket chain).1, (state.connect socket chain).2.moved moves registry) := rfl

section Sockets

variable (active : registry.active = state.registry.active.map (MatchIndex.renumber moves))

include active

private theorem route_moved (pending : PendingSocket σ) :
    ((state.moved moves registry).route pending).2 =
      (state.route pending).2.moved moves registry := by
  have found : (registry.lookup pending.socket).1 =
      (state.registry.lookup pending.socket).1.map (LookupMatch.renumber moves) :=
    congrArg (·.1) (lookup_renumber active pending.socket)
  have own : (state.moved moves registry).registry = registry := rfl
  unfold route
  rw [own, found]
  cases (state.registry.lookup pending.socket).1 with
  | none =>
      exact parkSocket_moved
        (state.count fun stats => { stats with noChainMatch := stats.noChainMatch + 1 })
        pending.id pending.socket.close
        (pending.info.mark .noRouteFound "filter_chain_not_found") false
  | some matched =>
      have chain : (matched.renumber moves).chain = matched.chain.renumber moves := rfl
      have index : (matched.renumber moves).index = matched.index.renumber moves := rfl
      have name : (matched.chain.renumber moves).name = matched.chain.name := rfl
      dsimp only [Option.map_some]
      rw [chain, index, connect_moved, name]
      dsimp only
      generalize (state.connect pending.socket matched.chain).1 = connection
      generalize (state.connect pending.socket matched.chain).2 = state
      split
      · exact parkSocket_moved (state.withConnection connection.id Connection.destroy) _ _ _ _
      · rw [track_moved]
        exact parkSocket_moved _ _ _ _ _

private theorem finish_moved (pending : PendingSocket σ) :
    ((state.moved moves registry).finish pending).2 =
      (state.finish pending).2.moved moves registry := by
  unfold finish
  split
  · exact route_moved active pending
  · exact parkSocket_moved (state.count fun stats =>
      if pending.info.flag.isNone then { stats with filterErrors := stats.filterErrors + 1 }
      else stats) pending.id pending.socket pending.info false

private theorem accept_moved (socket : Socket) (now : Nat) :
    ((state.moved moves registry).accept socket now).2 =
      (state.accept socket now).2.moved moves registry := by
  have config : (state.moved moves registry).config = state.config := rfl
  unfold accept drawSerial count
  dsimp only
  rw [config]
  by_cases holds : ((Pipeline.new state.config.filters).start socket).1.state = .suspended
  · rw [if_pos holds, if_pos holds]
    rfl
  · rw [if_neg holds, if_neg holds]
    exact @finish_moved moves σ registry { state with
      nextSerial := state.nextSerial + 1
      accepted := state.accepted + 1
      stats := { state.stats with openObjects := state.stats.openObjects + 1 } } active _

private theorem stepPending_moved (id : SocketId)
    (step : Pipeline σ → Socket → Pipeline σ × Socket) :
    ((state.moved moves registry).stepPending id step).2 =
      (state.stepPending id step).2.moved moves registry := by
  have pending : (state.moved moves registry).pending? id = state.pending? id := rfl
  unfold stepPending
  rw [pending]
  cases state.pending? id with
  | none => rfl
  | some pending =>
      dsimp only
      split
      · rfl
      · exact @finish_moved moves σ registry { state with
          pending := state.pending.remove id.slot
          stats := { state.stats with pendingActive := state.stats.pendingActive - 1 } } active _

private theorem timeOut_moved (id : SocketId) :
    ((state.moved moves registry).timeOut id).2 = (state.timeOut id).2.moved moves registry :=
  @stepPending_moved moves σ registry { state with
    pending := state.pending.modify id.slot fun pending =>
      if state.config.continueOnTimeout then pending
      else { pending with
        info := pending.info.mark .listenerFilterTimeout "listener_filter_timeout" }
    stats := { state.stats with pendingTimeouts := state.stats.pendingTimeouts + 1 } } active id _

private theorem timeOutAll_moved (ids : List SocketId) :
    ((state.moved moves registry).timeOutAll ids).2 =
      (state.timeOutAll ids).2.moved moves registry := by
  induction ids generalizing state with
  | nil => rfl
  | cons id rest inductionHypothesis =>
      unfold timeOutAll
      dsimp only
      have same : (state.timeOut id).2.registry = state.registry := registry_stepPending _ _ _
      rw [timeOut_moved active]
      apply inductionHypothesis
      rw [same]
      exact active

end Sockets

/-! ## Ending -/

private theorem setOpen_moved (id : SocketId) (isOpen : Bool) :
    (state.moved moves registry).setOpen id isOpen =
      (state.setOpen id isOpen).moved moves registry := by
  have pending : (state.moved moves registry).isPending id = state.isPending id := rfl
  unfold setOpen
  rw [pending]
  split
  · rfl
  · rfl

private theorem abandon_moved (state : ListenerState σ) (pending : PendingSocket σ) :
    (state.moved moves registry).abandon pending =
      (state.abandon pending).moved moves registry :=
  parkSocket_moved
    (state.count fun stats => { stats with pendingActive := stats.pendingActive - 1 }) _ _ _ _

private theorem shutdown_moved :
    (state.moved moves registry).shutdown = state.shutdown.moved moves registry := by
  have parts : ∀ state : ListenerState σ, state.shutdown =
      (fun emptied : ListenerState σ =>
        { { emptied with pending := .empty }.drain emptied.groups.keys with
          draining := state.draining })
        (state.pending.values.foldl abandon { state with draining := true }) := fun _ => rfl
  have abandoned : (state.moved moves registry).pending.values.foldl abandon
        { state.moved moves registry with draining := true } =
      (state.pending.values.foldl abandon { state with draining := true }).moved moves registry :=
    @List.foldl_hom _ _ _ (moved moves registry) abandon abandon state.pending.values
      { state with draining := true } abandon_moved
  rw [parts, parts, abandoned]
  generalize state.pending.values.foldl abandon { state with draining := true } = emptied
  have keys : (emptied.moved moves registry).groups.keys =
      emptied.groups.keys.map (FilterChainId.renumber moves) := Table.keys_relabel _ _ _
  have drained : ({ emptied with pending := .empty }.moved moves registry).drain
        (emptied.groups.keys.map (FilterChainId.renumber moves)) =
      ({ emptied with pending := .empty }.drain emptied.groups.keys).moved moves registry :=
    drain_moved_renumber emptied.groups.keys
  dsimp only
  rw [keys]
  exact congrArg (fun after : ListenerState σ => { after with draining := state.draining }) drained

private theorem dropParked_moved (state : ListenerState σ) (object : Parked) :
    (state.moved moves registry).dropParked (object.renumber moves) =
      (state.dropParked object).moved moves registry := by
  cases object with
  | socket id socket info connected =>
      cases connected with
      | true => rfl
      | false => rfl
  | connection record => rfl
  | group group => rfl

private theorem clearParked_moved :
    (state.moved moves registry).clearParked =
      (state.clearParked.1, state.clearParked.2.moved moves registry) := by
  have dropped : (state.parked.map (Parked.renumber moves)).foldl dropParked
        ({ state with parked := [] }.moved moves registry) =
      (state.parked.foldl dropParked { state with parked := [] }).moved moves registry := by
    rw [List.foldl_map]
    exact List.foldl_hom (moved moves registry) dropParked_moved
  apply Prod.ext
  · exact List.length_map _
  · exact dropped

/-! ## Steps and runs -/

/-- What does nothing to a registry does the same under other numbers. -/
theorem step_moved_of_quiet {operation : Operation} (quiet : operation.event? = none)
    (active : registry.active = state.registry.active.map (MatchIndex.renumber moves)) :
    (state.moved moves registry).step operation =
      (state.run (operation.withdraw moves).toList).moved moves registry := by
  have removed : ∀ handle : ConnectionHandle,
      ((state.moved moves registry).removeConnection handle).2 =
        ((handle.back? moves).elim state fun before =>
          (state.removeConnection before).2).moved moves registry := by
    intro handle
    cases known : handle.back? moves with
    | none => exact congrArg Prod.snd (removeConnection_moved_of_back? known)
    | some before =>
        rw [← ConnectionHandle.renumber_of_back? known]
        exact congrArg Prod.snd (removeConnection_moved before)
  cases operation with
  | accept socket now => exact accept_moved active socket now
  | data id bytes => exact stepPending_moved active id _
  | resume id success => exact stepPending_moved active id _
  | poll now => exact timeOutAll_moved active _
  | setOpen id isOpen => exact setOpen_moved id isOpen
  | report handle event =>
      have here := removed handle
      unfold step onConnectionEvent Operation.withdraw
      dsimp only
      rw [here]
      cases handle.back? moves with
      | none =>
          split
          · rfl
          · rfl
      | some before =>
          show _ = (if event.isClose then (state.removeConnection before).2 else state).moved moves
            registry
          split
          · rfl
          · rfl
  | remove handle =>
      have here := removed handle
      unfold step Operation.withdraw
      dsimp only
      rw [here]
      cases handle.back? moves with
      | none => rfl
      | some before => rfl
  | drain chains => exact drain_moved chains
  | shutdown => exact shutdown_moved
  | clear => exact congrArg Prod.snd clearParked_moved
  | _ => exact absurd quiet (by simp [Operation.event?])

/-- What a registry activates drains the same chains under other numbers. -/
theorem step_moved_effect {operation before : Operation} {event earlier : Event}
    (does : operation.event? = some event) (did : before.event? = some earlier)
    (activates : registry.activations event =
      (state.registry.activations earlier).map (Activation.renumber moves)) :
    (state.moved moves registry).step operation =
      (state.step before).moved moves (registry.step event) := by
  have own : (state.moved moves registry).registry = registry := rfl
  rw [step_of_event _ does, step_of_event _ did, own, activates, List.foldl_map]
  exact @List.foldl_hom _ _ Activation (moved moves (registry.step event))
    (fun state activation => state.drain activation.removed) _ _
    { state with registry := state.registry.step earlier }
    fun _ activation => drain_moved_renumber activation.removed

private theorem step_moved_of_event {operation : Operation} {event : Event}
    (does : operation.event? = some event)
    (activates : registry.activations event =
      (state.registry.activated (event.withdraw moves).toList).map (Activation.renumber moves)) :
    (state.moved moves registry).step operation =
      (state.run (operation.withdraw moves).toList).moved moves (registry.step event) := by
  cases operation with
  | apply descriptors builder =>
      have update : (Operation.apply descriptors builder).event? =
          some (.update descriptors builder) := rfl
      rw [← Option.some.inj does] at activates ⊢
      exact step_moved_effect update update (activates.trans
        (congrArg (List.map (Activation.renumber moves)) (state.registry.activated_singleton _)))
  | ready target =>
      rw [← Option.some.inj does] at activates ⊢
      unfold Operation.withdraw
      dsimp only
      cases known : target.back? moves with
      | none => rfl
      | some before =>
          have ready : ∀ target, (Operation.ready target).event? = some (.ready target) :=
            fun _ => rfl
          exact step_moved_effect (ready target) (ready before) rfl
  | dispatch =>
      have dispatch : Operation.dispatch.event? = some .dispatch := rfl
      rw [← Option.some.inj does] at activates ⊢
      exact step_moved_effect dispatch dispatch (activates.trans
        (congrArg (List.map (Activation.renumber moves)) (state.registry.activated_singleton _)))
  | _ => exact absurd does (by simp [Operation.event?])

private theorem registry_withdrawn (state : ListenerState σ) (operation : Operation) :
    (state.run (operation.withdraw moves).toList).registry =
      state.registry.run (operation.event?.bind (Event.withdraw moves)).toList := by
  rw [registry_run, ← Operation.event?_withdraw]
  cases operation.withdraw moves with
  | none => rfl
  | some before =>
      rw [Option.toList_some, events_cons]
      exact congrArg state.registry.run (List.append_nil _)

/-- A registry that mirrors that of a listener can stand in its place. -/
theorem run_moved {operations : List Operation}
    (mirrors : registry.Mirrors moves state.registry (events operations)) :
    (state.moved moves registry).run operations =
      (state.run (operations.filterMap (Operation.withdraw moves))).moved moves
        (registry.run (events operations)) := by
  induction operations generalizing state registry with
  | nil => rfl
  | cons operation rest inductionHypothesis =>
      have split : (operation :: rest).filterMap (Operation.withdraw moves) =
          (operation.withdraw moves).toList ++ rest.filterMap (Operation.withdraw moves) := by
        rw [List.filterMap_eq_flatMap_toList, List.filterMap_eq_flatMap_toList, List.flatMap_cons]
      have after : (state.moved moves registry).run (operation :: rest) =
          ((state.moved moves registry).step operation).run rest := rfl
      have withdrawn := @registry_withdrawn moves σ state operation
      have later : ∀ before : List Operation, state.run (before ++ rest.filterMap
          (Operation.withdraw moves)) = (state.run before).run (rest.filterMap
            (Operation.withdraw moves)) := fun before => List.foldl_append
      rw [events_cons] at mirrors ⊢
      rw [after, split, later]
      cases does : operation.event? with
      | none =>
          rw [does] at mirrors withdrawn
          rw [step_moved_of_quiet does mirrors.active]
          apply inductionHypothesis
          rw [withdrawn]
          exact mirrors
      | some event =>
          rw [does] at mirrors withdrawn
          obtain ⟨_, activates, others⟩ := mirrors
          rw [step_moved_of_event does activates]
          apply inductionHypothesis
          rw [withdrawn]
          exact others

end ListenerState

end Admission.Listener
