import Admission.Proofs.Listener.Coherence
import Admission.Proofs.Listener.Records
import Admission.Proofs.Listener.Sockets

/-!
Contract: how a socket leaves the listener filters, to the last field.

Owns:
- `matchOf?`, the chain that a socket is matched with, `connectionFor`, the connection that it
  would become, and `serving`, the listener that tracks it;
- `Concluded`, what a listener is after a socket has left, with `concluded_finish`.
-/

namespace Admission.Listener

open Admission.Chain

/-- What is known of a socket that no filter chain matched. -/
def PendingSocket.unmatchedInfo {σ : Type} (pending : PendingSocket σ) : StreamInfo :=
  pending.info.mark .noRouteFound "filter_chain_not_found"

/-- What is known of a socket for which a connection was made. -/
def PendingSocket.servedInfo {σ : Type} (pending : PendingSocket σ) (connection : Nat)
    (chain : FilterChain) : StreamInfo :=
  { pending.info with connectionId := some connection, chainName := some chain.name }

/-- The counts after a socket was closed before it got through the listener filters. -/
def ListenerStats.rejecting (stats : ListenerStats) (info : StreamInfo) : ListenerStats :=
  if info.flag.isNone then { stats with filterErrors := stats.filterErrors + 1 } else stats

theorem Connection.close_destroyed (connection : Connection) (kind : CloseType) :
    (connection.close kind).destroyed = connection.destroyed := by
  unfold close
  split
  · rfl
  · rfl
  · split <;> rfl

theorem Connection.destroy_id (connection : Connection) : connection.destroy.id = connection.id := rfl

private theorem Connection.apply_destroyed (connection : Connection)
    (factory : NetworkFilterFactory) :
    (connection.apply factory).destroyed = connection.destroyed := by
  unfold apply
  split
  · rfl
  · rfl
  · exact connection.close_destroyed _

private theorem Connection.factories_destroyed (connection : Connection)
    (factories : List NetworkFilterFactory) :
    (factories.foldl apply connection).destroyed = connection.destroyed := by
  induction factories generalizing connection with
  | nil => rfl
  | cons factory rest inductionHypothesis =>
      rw [List.foldl_cons, inductionHypothesis, apply_destroyed]

private theorem Connection.installFilters_destroyed (connection : Connection)
    (factories : List NetworkFilterFactory) :
    (connection.installFilters factories).1.destroyed = connection.destroyed := by
  unfold installFilters startReadFilters
  split
  · exact connection.factories_destroyed factories
  · exact connection.factories_destroyed factories
  · split
    · exact connection.factories_destroyed factories
    · exact connection.factories_destroyed factories

namespace ListenerState

variable {σ : Type} (state : ListenerState σ)

/-- The chain that a socket is matched with, and the index that has it. -/
def matchOf? (socket : Socket) : Option LookupMatch :=
  (state.registry.lookup socket).1

/-- The connection that a socket becomes on a chain, as the factories of the chain leave it. -/
def connectionFor (socket : Socket) (chain : FilterChain) : Connection :=
  (state.connect socket chain).1

private theorem connect_eq (socket : Socket) (chain : FilterChain) :
    state.connect socket chain = (state.connectionFor socket chain,
      state.made (state.connections ++ [state.connectionFor socket chain])) := rfl

theorem connectionFor_id (socket : Socket) (chain : FilterChain) :
    (state.connectionFor socket chain).id = state.connections.length + 1 :=
  (state.connect_new socket chain).1

/-- A new connection is there. -/
theorem connectionFor_destroyed (socket : Socket) (chain : FilterChain) :
    (state.connectionFor socket chain).destroyed = false := by
  unfold connectionFor connect
  dsimp only
  split
  · exact Connection.installFilters_destroyed _ _
  · exact (Connection.close_destroyed _ _).trans (Connection.installFilters_destroyed _ _)

/-- A listener that tracks the connection of a matched socket. -/
def serving (pending : PendingSocket σ) (matched : LookupMatch) :
    ConnectionHandle × ListenerState σ :=
  (state.made (state.connections ++ [state.connectionFor pending.socket matched.chain])).track
    matched.chain (state.connections.length + 1)
    (pending.servedInfo (state.connections.length + 1) matched.chain) matched.index

theorem serving_frame (pending : PendingSocket σ) (matched : LookupMatch) :
    (state.serving pending matched).2 = { state with
      connections := state.connections ++ [state.connectionFor pending.socket matched.chain]
      groups := (state.serving pending matched).2.groups
      nextSerial := state.nextSerial + 1
      stats := { state.stats with
        connectionsTotal := state.stats.connectionsTotal + 1
        connectionsActive := state.stats.connectionsActive + 1 } } := rfl

/-- The record of the connection of a matched socket. -/
def servedRecord (pending : PendingSocket σ) (matched : LookupMatch) : ConnectionRecord where
  handle := (state.serving pending matched).1
  connection := state.connections.length + 1
  info := pending.servedInfo (state.connections.length + 1) matched.chain
  generation := matched.index

theorem records_serving (tidy : Tidy state.groups) (pending : PendingSocket σ)
    (matched : LookupMatch) : (state.serving pending matched).2.records.Perm
      (state.servedRecord pending matched :: state.records) := by
  have made : Tidy (state.made
      (state.connections ++ [state.connectionFor pending.socket matched.chain])).groups := tidy
  exact records_track made matched.chain _ _ matched.index

/-- What becomes of a socket that leaves the listener filters. -/
inductive Concluded (pending : PendingSocket σ) : SocketOutcome × ListenerState σ → Prop
  | rejected (stopped : pending.pipeline.state ≠ .completed) :
      Concluded pending (.closed, { state with
        stats := state.stats.rejecting pending.info
        parked := state.parked ++ [.socket pending.id pending.socket pending.info false] })
  | unmatched (passed : pending.pipeline.state = .completed)
      (lost : state.matchOf? pending.socket = none) :
      Concluded pending (.closed, { state with
        stats := { state.stats with noChainMatch := state.stats.noChainMatch + 1 }
        parked := state.parked ++
          [.socket pending.id pending.socket.close pending.unmatchedInfo false] })
  /-- The connection was closed as soon as it was made, and is gone. -/
  | refused {matched : LookupMatch} (passed : pending.pipeline.state = .completed)
      (found : state.matchOf? pending.socket = some matched)
      (closed : (state.connectionFor pending.socket matched.chain).state = .closed) :
      Concluded pending (.closed, { state with
        connections := state.connections ++
          [(state.connectionFor pending.socket matched.chain).destroy]
        stats := { state.stats with connectionsTotal := state.stats.connectionsTotal + 1 }
        parked := state.parked ++ [.socket pending.id pending.socket
          (pending.servedInfo (state.connections.length + 1) matched.chain) false] })
  | connected {matched : LookupMatch} (passed : pending.pipeline.state = .completed)
      (found : state.matchOf? pending.socket = some matched)
      (unclosed : (state.connectionFor pending.socket matched.chain).Unclosed) :
      Concluded pending (.connected (state.serving pending matched).1,
        (state.serving pending matched).2.park (.socket pending.id pending.socket
          (pending.servedInfo (state.connections.length + 1) matched.chain) true))

theorem stepPending_of_found {id : SocketId} {pending : PendingSocket σ}
    (found : state.pending? id = some pending)
    (step : Pipeline σ → Socket → Pipeline σ × Socket) :
    state.stepPending id step =
      if (pending.stepped step).pipeline.state = .suspended ∨
          (pending.stepped step).pipeline.state = .running then
        (.pending id, { state with
          pending := state.pending.modify id.slot fun _ => pending.stepped step })
      else (state.released id.slot).finish (pending.stepped step) := by
  unfold stepPending
  rw [found]
  rfl

private theorem modify_last {α : Type} (items : List α) (last : α) (change : α → α) :
    (items ++ [last]).modify items.length change = items ++ [change last] := by
  simp [List.modify_eq_take_drop]

private theorem concluded_route {pending : PendingSocket σ}
    (passed : pending.pipeline.state = .completed) :
    Concluded state pending (state.route pending) := by
  unfold route
  split
  · rename_i lost
    exact .unmatched passed lost
  · rename_i matched found
    have id := state.connectionFor_id pending.socket matched.chain
    rw [connect_eq]
    dsimp only
    rw [id]
    split
    · rename_i closed
      have conclusion := Concluded.refused passed found closed
      rw [← modify_last] at conclusion
      exact conclusion
    · rename_i lasting
      have unclosed := (state.connect_new pending.socket matched.chain).2.resolve_left lasting
      exact .connected passed found unclosed

theorem concluded_finish (pending : PendingSocket σ) :
    Concluded state pending (state.finish pending) := by
  unfold finish
  split
  · rename_i passed
    exact state.concluded_route passed
  · rename_i stopped
    exact .rejected stopped

end ListenerState

end Admission.Listener
