import Admission.Proofs.Listener.AccessLog
import Admission.Proofs.Listener.Naming

/-!
Contract: what an operation on one socket or one record does, as a value.

Owns:
- `Target`, what such an operation works on;
- `Deed`, what it does, with what that adds to each part of a listener, and `deed?`, the deed of an
  operation as far as it can be told before it is done: all but the number of a new connection;
- `Performed` and `performed`, that the operation does just this.
-/

namespace Admission.Listener

open Admission.Chain
open scoped List

/-! ## Connections under another number -/

def Connection.identify (connection : Connection) (id : Nat) : Connection :=
  { connection with id }

section Identify

variable (connection : Connection) (id : Nat)

private theorem Connection.close_identify (kind : CloseType) :
    (connection.identify id).close kind = (connection.close kind).identify id := by
  unfold close identify
  dsimp only
  split
  · rfl
  · rfl
  · split <;> rfl

private theorem Connection.apply_identify (factory : NetworkFilterFactory) :
    (connection.identify id).apply factory = (connection.apply factory).identify id := by
  unfold apply
  split
  · rfl
  · rfl
  · exact connection.close_identify id _

private theorem Connection.factories_identify (factories : List NetworkFilterFactory) :
    factories.foldl apply (connection.identify id) =
      (factories.foldl apply connection).identify id := by
  induction factories generalizing connection with
  | nil => rfl
  | cons factory rest inductionHypothesis =>
      rw [List.foldl_cons, apply_identify, inductionHypothesis, List.foldl_cons]

private theorem Connection.startReadFilters_identify : (connection.identify id).startReadFilters =
    (connection.startReadFilters.1.identify id, connection.startReadFilters.2) := by
  unfold startReadFilters identify
  dsimp only
  split
  · rfl
  · rfl
  · split <;> rfl

private theorem Connection.installFilters_identify (factories : List NetworkFilterFactory) :
    (connection.identify id).installFilters factories =
      ((connection.installFilters factories).1.identify id,
        (connection.installFilters factories).2) := by
  unfold installFilters
  rw [factories_identify, startReadFilters_identify]

/-- A connection after the factories of its chain: one without filters is closed. -/
def Connection.furnish (factories : List NetworkFilterFactory) : Connection :=
  if (connection.installFilters factories).2 then (connection.installFilters factories).1
  else (connection.installFilters factories).1.close .noFlush

private theorem Connection.furnish_identify (factories : List NetworkFilterFactory) :
    (connection.identify id).furnish factories = (connection.furnish factories).identify id := by
  unfold furnish
  rw [installFilters_identify]
  dsimp only
  split
  · rfl
  · exact close_identify _ id .noFlush

end Identify

/-- A connection before the factories of its chain. -/
def ListenerConfig.prepare {σ : Type} (config : ListenerConfig σ) (carrier : Carrier)
    (socket : Socket) (chain : FilterChain) (id : Nat) : Connection :=
  { Connection.ofSocket id carrier socket chain.transport.protocol with
    connectTimeout := chain.connectTimeout }.setBufferLimit config.bufferLimit

namespace ListenerState

variable {σ : Type} {state left right : ListenerState σ}

private theorem connectionFor_eq (socket : Socket) (chain : FilterChain) :
    state.connectionFor socket chain =
      (state.config.prepare state.carrier socket chain (state.connections.length + 1)).furnish
        chain.filters := rfl

/-- Two listeners would make the same connection of a socket, up to its number. -/
theorem connectionFor_identify (config : right.config = left.config)
    (carrier : right.carrier = left.carrier) (socket : Socket) (chain : FilterChain) (id : Nat) :
    (right.connectionFor socket chain).identify id =
      (left.connectionFor socket chain).identify id := by
  have numbered (state : ListenerState σ) : (state.connectionFor socket chain).identify id =
      (state.config.prepare state.carrier socket chain id).furnish chain.filters := by
    rw [connectionFor_eq, ← Connection.furnish_identify]
    rfl
  rw [numbered, numbered, config, carrier]

end ListenerState

/-! ## Deeds -/

def ConnectionHandle.anonymous (handle : ConnectionHandle) : ConnectionHandle :=
  { handle with slot := 0, serial := 0 }

/-- A record without the slot and the serial of its handle. -/
def ConnectionRecord.anonymous (record : ConnectionRecord) : ConnectionRecord :=
  { record with handle := record.handle.anonymous }

/-- An outcome without slots and serials of connections. -/
def SocketOutcome.anonymous : SocketOutcome → SocketOutcome
  | connected handle => connected handle.anonymous
  | outcome => outcome

/-- What an operation on one socket or one record does. -/
inductive Deed (σ : Type) where
  /-- A filter holds the socket, after a step. -/
  | held (pending : PendingSocket σ)
  | rejected (pending : PendingSocket σ)
  | unmatched (pending : PendingSocket σ)
  /-- A connection was made that was closed at once. -/
  | refused (pending : PendingSocket σ) (matched : LookupMatch) (connection : Connection)
  | connected (pending : PendingSocket σ) (matched : LookupMatch) (connection : Connection)
  | removed (record : ConnectionRecord)

/-- How many more there are of what is counted. -/
structure Counts where
  /-- Sockets that left the listener filters. -/
  left : Nat
  made : Nat
  tracked : Nat
  rejected : Nat
  unmatched : Nat

def ListenerStats.after (stats : ListenerStats) (counts : Counts) : ListenerStats :=
  { stats with
    connectionsTotal := stats.connectionsTotal + counts.made
    connectionsActive := stats.connectionsActive + counts.tracked
    pendingActive := stats.pendingActive - counts.left
    filterErrors := stats.filterErrors + counts.rejected
    noChainMatch := stats.noChainMatch + counts.unmatched }

namespace Deed

variable {σ : Type}

/-- The socket that was stepped. -/
def socket? : Deed σ → Option (PendingSocket σ)
  | held pending => some pending
  | rejected pending => some pending
  | unmatched pending => some pending
  | refused pending _ _ => some pending
  | connected pending _ _ => some pending
  | removed _ => none

/-- The socket that is in listener filters afterwards. -/
def held? : Deed σ → Option (PendingSocket σ)
  | held pending => some pending
  | _ => none

/-- The sockets in listener filters by slot, afterwards. -/
def place (deed : Deed σ) (sockets : Nat → Option (PendingSocket σ)) (slot : Nat) :
    Option (PendingSocket σ) :=
  if deed.socket?.any (·.id.slot = slot) then deed.held? else sockets slot

/-- The connections that are made. -/
def made : Deed σ → List Connection
  | refused _ _ connection => [connection]
  | connected _ _ connection => [connection]
  | _ => []

/-- The records that are added, without slots and serials. -/
def added : Deed σ → List ConnectionRecord
  | connected pending matched connection =>
      [⟨⟨matched.chain.id, 0, 0⟩, connection.id, pending.servedInfo connection.id matched.chain,
        matched.index⟩]
  | _ => []

/-- The records that are taken away, without slots and serials. -/
def withdrawn : Deed σ → List ConnectionRecord
  | removed record => [record.anonymous]
  | _ => []

/-- The lines that are due when what is parked is dropped. -/
def lines : Deed σ → List StreamInfo
  | held _ => []
  | rejected pending => [pending.info]
  | unmatched pending => [pending.unmatchedInfo]
  | refused pending matched connection => [pending.servedInfo connection.id matched.chain]
  | connected _ _ _ => []
  | removed record => [record.info]

def counts : Deed σ → Counts
  | held _ => ⟨0, 0, 0, 0, 0⟩
  | rejected pending => ⟨1, 0, 0, if pending.info.flag.isNone then 1 else 0, 0⟩
  | unmatched _ => ⟨1, 0, 0, 0, 1⟩
  | refused _ _ _ => ⟨1, 1, 0, 0, 0⟩
  | connected _ _ _ => ⟨1, 1, 1, 0, 0⟩
  | removed _ => ⟨0, 0, 0, 0, 0⟩

/-- What became of the socket, without slots and serials of connections. -/
def outcomes : Deed σ → List SocketOutcome
  | held pending => [.pending pending.id]
  | connected _ matched _ => [.connected ⟨matched.chain.id, 0, 0⟩]
  | removed _ => []
  | _ => [.closed]

/-- The socket that departs, with its fate. -/
def departures : Deed σ → List Departure
  | held _ => []
  | rejected pending => [⟨pending.guest, .rejected⟩]
  | unmatched pending => [⟨pending.guest, .unmatched⟩]
  | refused pending matched connection => [⟨pending.guest, .served connection.id matched.chain⟩]
  | connected pending matched connection => [⟨pending.guest, .served connection.id matched.chain⟩]
  | removed _ => []

end Deed

/-- What an operation works on. -/
inductive Target where
  | socket (id : SocketId)
  | record (handle : ConnectionHandle)

/-- What an operation works on, if it is on one socket in listener filters or on one record. -/
def Operation.target? : Operation → Option Target
  | data id _ => some (.socket id)
  | resume id _ => some (.socket id)
  | remove handle => some (.record handle)
  | report handle event => if event.isClose then some (.record handle) else none
  | _ => none

namespace ListenerState

variable {σ : Type} (state : ListenerState σ)

def Hosts : Target → Prop
  | .socket id => (state.pending? id).isSome = true
  | .record handle => (state.record? handle).isSome = true

/-- The lines that the log has when what is parked has been dropped. -/
def due : List StreamInfo :=
  state.log ++ state.parked.filterMap Parked.line?

theorem log_clearParked : state.clearParked.2.log = state.due := by
  obtain ⟨connections, cleared⟩ := state.clearParked_frame
  rw [cleared]
  rfl

private theorem due_park (id : SocketId) (socket : Socket) (info : StreamInfo) :
    (state.park (.socket id socket info false)).due = state.due ++ [info] := by
  unfold due
  rw [log_park, parked_park, filterMap_line?_unconnected, List.append_assoc]

private theorem due_park_connected (id : SocketId) (socket : Socket) (info : StreamInfo) :
    (state.park (.socket id socket info true)).due = state.due := by
  unfold due
  rw [log_park, parked_park, filterMap_line?_connected]

theorem identify_connectionFor (socket : Socket) (chain : FilterChain) :
    (state.connectionFor socket chain).identify (state.connections.length + 1) =
      state.connectionFor socket chain := by
  rw [← state.connectionFor_id socket chain]
  rfl

/-- What becomes of a socket after a step of its pipeline, if its connection gets a number. -/
def deedOn (number : Nat) (pending : PendingSocket σ) : Deed σ :=
  if pending.pipeline.state = .suspended ∨ pending.pipeline.state = .running then .held pending
  else if pending.pipeline.state = .completed then
    match state.matchOf? pending.socket with
    | none => .unmatched pending
    | some matched =>
        let connection := (state.connectionFor pending.socket matched.chain).identify number
        if connection.state = .closed then .refused pending matched connection.destroy
        else .connected pending matched connection
  else .rejected pending

theorem deedOn_rec {motive : Deed σ → Prop} {number : Nat} {pending : PendingSocket σ}
    (held : motive (.held pending)) (rejected : motive (.rejected pending))
    (unmatched : motive (.unmatched pending))
    (refused : ∀ matched connection, motive (.refused pending matched connection))
    (connected : ∀ matched connection, motive (.connected pending matched connection)) :
    motive (state.deedOn number pending) := by
  unfold deedOn
  split
  · exact held
  · split
    · split
      · exact unmatched
      · dsimp only
        split
        · exact refused _ _
        · exact connected _ _
    · exact rejected

/-- The deed of an operation, if its connection gets a number. -/
def deed? (number : Nat) : Operation → Option (Deed σ)
  | .data id bytes => (state.pending? id).map fun pending =>
      state.deedOn number (pending.stepped fun pipeline socket => pipeline.onData socket bytes)
  | .resume id success => (state.pending? id).map fun pending =>
      state.deedOn number (pending.stepped fun pipeline socket => pipeline.resume socket success)
  | .remove handle => (state.record? handle).map .removed
  | .report handle event =>
      if event.isClose then (state.record? handle).map .removed else none
  | _ => none

/-- A deed was done and nothing else. -/
structure Performed (before after : ListenerState σ) (outcomes : List SocketOutcome)
    (departures : List Departure) (deed : Deed σ) : Prop where
  sockets : ∀ slot, after.pending.get? slot = deed.place before.pending.get? slot
  connections : after.connections = before.connections ++ deed.made
  records : before.records.map (·.anonymous) ++ deed.added ~
    after.records.map (·.anonymous) ++ deed.withdrawn
  due : after.due ~ before.due ++ deed.lines
  stats : after.stats = before.stats.after deed.counts
  outcomes : outcomes.map (·.anonymous) = deed.outcomes
  departures : departures = deed.departures
  config : after.config = before.config
  registry : after.registry = before.registry
  carrier : after.carrier = before.carrier

section Socket

variable {state} {id : SocketId} {pending : PendingSocket σ}

private theorem place_held (found : state.pending? id = some pending) {stepped : PendingSocket σ}
    (same : stepped.id = pending.id) (slot : Nat) :
    (state.pending.modify id.slot fun _ => stepped).get? slot =
      (Deed.held stepped).place state.pending.get? slot := by
  obtain ⟨inSlot, name⟩ := pending?_eq_some_iff.mp found
  rw [Slab.get?_modify]
  unfold Deed.place Deed.socket? Deed.held?
  rw [Option.any_some, same, name]
  by_cases here : slot = id.slot
  · rw [if_pos here, here, inSlot]
    simp
  · rw [if_neg here, if_neg]
    simpa using fun same => here same.symm

private theorem place_left (found : state.pending? id = some pending) {stepped : PendingSocket σ}
    (same : stepped.id = pending.id) {deed : Deed σ} (socket : deed.socket? = some stepped)
    (gone : deed.held? = none) (slot : Nat) :
    (state.released id.slot).pending.get? slot = deed.place state.pending.get? slot := by
  obtain ⟨_, name⟩ := pending?_eq_some_iff.mp found
  unfold Deed.place
  rw [socket, gone, Option.any_some, same, name]
  refine (Slab.get?_remove _ _ _).trans ?_
  by_cases here : slot = id.slot
  · rw [if_pos here, if_pos (by simp [here])]
  · rw [if_neg here, if_neg]
    simpa using fun same => here same.symm

private theorem performed_held (found : state.pending? id = some pending)
    {stepped : PendingSocket σ} (same : stepped.id = pending.id) :
    Performed state { state with pending := state.pending.modify id.slot fun _ => stepped }
      [.pending id] [] (.held stepped) := by
  have name := (pending?_eq_some_iff.mp found).2
  refine ⟨place_held found same, (List.append_nil _).symm, .refl _, ?_, rfl, ?_, rfl, rfl, rfl, rfl⟩
  · rw [show Deed.lines _ = [] from rfl, List.append_nil]
    exact .refl _
  · show [SocketOutcome.pending id] = [.pending stepped.id]
    rw [same, name]

/-- A connection is tracked for a socket that has left. -/
theorem performed_serving (housed : state.Housed) (found : state.pending? id = some pending)
    {stepped : PendingSocket σ} (same : stepped.id = pending.id) (matched : LookupMatch) :
    Performed state
      (((state.released id.slot).serving stepped matched).2.park (.socket stepped.id stepped.socket
        (stepped.servedInfo (state.connections.length + 1) matched.chain) true))
      [.connected ((state.released id.slot).serving stepped matched).1]
      [⟨stepped.guest, .served (state.connections.length + 1) matched.chain⟩]
      (.connected stepped matched
        ((state.connectionFor stepped.socket matched.chain).identify
          (state.connections.length + 1))) := by
  have frame := (state.released id.slot).serving_frame stepped matched
  have records := ((state.released id.slot).records_serving housed.tidy stepped matched).map
    (·.anonymous)
  generalize ((state.released id.slot).serving stepped matched).2 = served at frame records
  refine ⟨?_, ?_, ?_, ?_, ?_, rfl, rfl, ?_, ?_, ?_⟩
  · rw [pending_park, frame]
    exact place_left found same rfl rfl
  · unfold Deed.made
    dsimp only
    rw [identify_connectionFor]
    exact congrArg (·.connections) frame
  · rw [show Deed.withdrawn _ = [] from rfl, List.append_nil]
    exact (List.perm_append_singleton _ _).trans records.symm
  · rw [due_park_connected, frame]
    exact .of_eq (List.append_nil _).symm
  · rw [stats_park, frame]
    rfl
  · exact congrArg (·.config) frame
  · exact congrArg (·.registry) frame
  · exact congrArg (·.carrier) frame

private theorem performed_finish (housed : state.Housed) (found : state.pending? id = some pending)
    {stepped : PendingSocket σ} (same : stepped.id = pending.id)
    (ended : ¬ (stepped.pipeline.state = .suspended ∨ stepped.pipeline.state = .running)) :
    Performed state ((state.released id.slot).finish stepped).2
      [((state.released id.slot).finish stepped).1] [⟨stepped.guest, state.fateOf stepped⟩]
      (state.deedOn (state.connections.length + 1) stepped) := by
  have concluded := (state.released id.slot).concluded_finish stepped
  have gone {deed : Deed σ} (socket : deed.socket? = some stepped) (gone : deed.held? = none) :=
    place_left found same socket gone
  unfold fateOf deedOn
  rw [if_neg ended]
  generalize (state.released id.slot).finish stepped = result at concluded
  cases concluded with
  | rejected stopped =>
      rw [if_neg stopped, if_neg stopped]
      have stats : (state.released id.slot).stats.rejecting stepped.info =
          state.stats.after (Deed.rejected stepped).counts := by
        unfold ListenerStats.rejecting ListenerStats.after Deed.counts
        dsimp only
        split <;> rfl
      exact ⟨gone rfl rfl, (List.append_nil _).symm, .refl _, .of_eq (state.due_park _ _ _), stats,
        rfl, rfl, rfl, rfl, rfl⟩
  | unmatched passed lost =>
      have lost : state.matchOf? stepped.socket = none := lost
      rw [if_pos passed, if_pos passed, lost]
      exact ⟨gone rfl rfl, (List.append_nil _).symm, .refl _, .of_eq (state.due_park _ _ _), rfl,
        rfl, rfl, rfl, rfl, rfl⟩
  | @refused matched passed found closed =>
      have found : state.matchOf? stepped.socket = some matched := found
      have closed : ((state.connectionFor stepped.socket matched.chain).identify
          (state.connections.length + 1)).state = .closed := closed
      rw [if_pos passed, if_pos passed, found]
      dsimp only
      rw [if_pos closed]
      refine ⟨gone rfl rfl, ?_, .refl _, .of_eq (state.due_park _ _ _), rfl, rfl, rfl, rfl, rfl,
        rfl⟩
      unfold Deed.made
      dsimp only
      rw [identify_connectionFor]
      rfl
  | @connected matched passed met unclosed =>
      have met : state.matchOf? stepped.socket = some matched := met
      have lasting : ((state.connectionFor stepped.socket matched.chain).identify
          (state.connections.length + 1)).state ≠ .closed := unclosed.lasting
      rw [if_pos passed, if_pos passed, met]
      dsimp only
      rw [if_neg lasting]
      exact performed_serving housed found same matched

private theorem performed_stepPending (housed : state.Housed)
    (found : state.pending? id = some pending) (step : Pipeline σ → Socket → Pipeline σ × Socket) :
    Performed state (state.stepPending id step).2 [(state.stepPending id step).1]
      (state.stepDepartures id step)
      (state.deedOn (state.connections.length + 1) (pending.stepped step)) := by
  have same : (pending.stepped step).id = pending.id := rfl
  rw [state.stepPending_of_found found]
  unfold stepDepartures departing
  rw [found]
  dsimp only
  split
  · rename_i waits
    unfold deedOn
    rw [if_pos waits]
    exact performed_held found same
  · rename_i ended
    exact performed_finish housed found same ended

end Socket

/-! ## Records -/

/-- A removal on request succeeds if and only if the handle has a record. -/
theorem removeConnection_fst (handle : ConnectionHandle) :
    (state.removeConnection handle).1 = (state.record? handle).isSome := by
  rcases state.removeConnection_cases handle with
    ⟨absent, removed⟩ | ⟨group, record, found, held, _, _, removed⟩ |
    ⟨group, record, found, held, _, removed⟩
  · rw [removed, absent]
    rfl
  all_goals
    unfold record?
    rw [removed, found, Option.bind_some, held]
    rfl

section Record

variable {state} {handle : ConnectionHandle} {record : ConnectionRecord}

private theorem performed_removeConnection (housed : state.Housed)
    (found : state.record? handle = some record) :
    Performed state (state.removeConnection handle).2 [] [] (.removed record) := by
  have shelved := shelved_removeConnection housed.distinct handle
  have removed : (state.removeConnection handle).1 = true := by
    rw [removeConnection_fst, found]
    rfl
  obtain ⟨groups, objects, frame⟩ := state.removeConnection_frame handle
  obtain ⟨other, detached⟩ := detached_of_removed removed
  obtain rfl : other = record := Option.some.inj (detached.found.symm.trans found)
  obtain ⟨added, parked, _, moved⟩ := shelved.moved
  obtain ⟨emptied, parkedNow⟩ := detached.parked
  have what := List.append_cancel_left (parked.symm.trans parkedNow)
  have records : added.filterMap Parked.record? = [other] := by
    rw [what]
    cases emptied <;> rfl
  have lines : added.filterMap Parked.line? = [other.info] := by
    rw [what]
    cases emptied <;> rfl
  refine ⟨?_, ?_, ?_, ?_, ?_, rfl, rfl, ?_, ?_, ?_⟩
  · intro slot
    rw [frame]
    rfl
  · rw [frame]
    exact (List.append_nil _).symm
  · rw [records] at moved
    rw [show Deed.added _ = [] from rfl, List.append_nil]
    exact (moved.map (·.anonymous)).trans (List.perm_append_singleton _ _).symm
  · unfold due
    rw [parked, List.filterMap_append, lines, ← List.append_assoc, frame]
    exact .refl _
  · rw [frame]
    rfl
  · rw [frame]
  · rw [frame]
  · rw [frame]

end Record

end ListenerState

/-! ## Operations -/

/-- An operation is a step of the pipeline of a socket. -/
structure Operation.Steps {σ : Type} (operation : Operation) (id : SocketId)
    (step : Pipeline σ → Socket → Pipeline σ × Socket) : Prop where
  does : ∀ state : ListenerState σ, state.step operation = (state.stepPending id step).2
  outcomes : ∀ state : ListenerState σ, state.outcomes operation = [(state.stepPending id step).1]
  departures : ∀ state : ListenerState σ, state.departures operation = state.stepDepartures id step
  deed : ∀ (state : ListenerState σ) (number : Nat), state.deed? number operation =
    (state.pending? id).map fun pending => state.deedOn number (pending.stepped step)

/-- An operation is the removal of a record. -/
structure Operation.Removes (σ : Type) (operation : Operation) (handle : ConnectionHandle) :
    Prop where
  does : ∀ state : ListenerState σ, state.step operation = (state.removeConnection handle).2
  outcomes : ∀ state : ListenerState σ, state.outcomes operation = []
  departures : ∀ state : ListenerState σ, state.departures operation = []
  deed : ∀ (state : ListenerState σ) (number : Nat), state.deed? number operation =
    (state.record? handle).map .removed

theorem Operation.target_cases (σ : Type) {operation : Operation} {target : Target}
    (works : operation.target? = some target) :
    (∃ (id : SocketId) (step : Pipeline σ → Socket → Pipeline σ × Socket), target = .socket id ∧
      operation.Steps id step) ∨
    ∃ handle, target = .record handle ∧ operation.Removes σ handle := by
  cases operation with
  | data id bytes =>
      exact .inl ⟨id, _, (Option.some.inj works).symm, fun _ => rfl, fun _ => rfl, fun _ => rfl,
        fun _ _ => rfl⟩
  | resume id success =>
      exact .inl ⟨id, _, (Option.some.inj works).symm, fun _ => rfl, fun _ => rfl, fun _ => rfl,
        fun _ _ => rfl⟩
  | remove handle =>
      exact .inr ⟨handle, (Option.some.inj works).symm, fun _ => rfl, fun _ => rfl, fun _ => rfl,
        fun _ _ => rfl⟩
  | report handle event =>
      unfold target? at works
      dsimp only at works
      split at works
      · rename_i closes
        exact .inr ⟨handle, (Option.some.inj works).symm, fun _ => if_pos closes, fun _ => rfl,
          fun _ => rfl, fun _ _ => if_pos closes⟩
      · exact absurd works (by simp)
  | _ => exact absurd works (by simp [target?])

namespace ListenerState

variable {σ : Type} {state : ListenerState σ}

/-- An operation on what is there does its deed. -/
theorem performed (housed : state.Housed) {operation : Operation} {target : Target}
    (works : operation.target? = some target) {deed : Deed σ}
    (does : state.deed? (state.connections.length + 1) operation = some deed) :
    Performed state (state.step operation) (state.outcomes operation) (state.departures operation)
      deed := by
  rcases operation.target_cases σ works with ⟨id, step, _, steps⟩ | ⟨handle, _, removes⟩
  · rw [steps.deed] at does
    obtain ⟨pending, found, rfl⟩ := Option.map_eq_some_iff.mp does
    rw [steps.does, steps.outcomes, steps.departures]
    exact performed_stepPending housed found step
  · rw [removes.deed] at does
    obtain ⟨record, found, rfl⟩ := Option.map_eq_some_iff.mp does
    rw [removes.does, removes.outcomes, removes.departures]
    exact performed_removeConnection housed found

end ListenerState

end Admission.Listener
