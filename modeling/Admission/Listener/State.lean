import Admission.Chain.Registry
import Admission.Listener.Config
import Admission.Listener.Connection
import Admission.Listener.Slab
import Admission.Listener.StreamInfo

/-!
Contract: the connection lifecycle of one listener.

An accepted socket goes through the listener filters, is matched against the active generation of
filter chains and becomes a connection, which is tracked in the group of its chain until it closes
or its chain is drained. What ends is not dropped in place but parked; `clearParked` drops it, and
only then do the gauges fall and the access log get its line.

Owns: `ListenerState` and its operations. Time is given in milliseconds by the caller.
-/

namespace Admission.Listener

open Admission.Net Admission.Chain

structure ListenerStats where
  connectionsTotal : Nat
  connectionsActive : Nat
  connectionsDestroyed : Nat
  pendingActive : Nat
  pendingTimeouts : Nat
  /-- Sockets that a listener filter rejected. -/
  filterErrors : Nat
  noChainMatch : Nat
  /-- Accepted sockets and connections that are not dropped yet. -/
  openObjects : Nat
  deriving DecidableEq, Repr

namespace ListenerStats

def zero : ListenerStats := ⟨0, 0, 0, 0, 0, 0, 0, 0⟩

def row (stats : ListenerStats) : List Nat :=
  [stats.connectionsTotal, stats.connectionsActive, stats.connectionsDestroyed,
    stats.pendingActive, stats.pendingTimeouts, stats.filterErrors, stats.noChainMatch,
    stats.openObjects]

end ListenerStats

/-- Identifies a socket in listener filters. The serial tells it from earlier ones in its slot. -/
structure SocketId where
  slot : Nat
  serial : Nat
  deriving DecidableEq, Repr

/-- Identifies a tracked connection. -/
structure ConnectionHandle where
  chain : FilterChainId
  slot : Nat
  serial : Nat
  deriving DecidableEq, Repr

/-- A socket in listener filters. -/
structure PendingSocket (σ : Type) where
  id : SocketId
  socket : Socket
  pipeline : Pipeline σ
  deadline : Option Nat
  info : StreamInfo

/-- A tracked connection, with the generation it was matched in. -/
structure ConnectionRecord where
  handle : ConnectionHandle
  connection : Nat
  info : StreamInfo
  generation : MatchIndex

structure ConnectionGroup where
  chain : FilterChain
  records : Slab ConnectionRecord

/-- What waits to be dropped. -/
inductive Parked where
  /-- A socket that left the listener filters; `connected` if a connection is tracked for it. -/
  | socket (id : SocketId) (socket : Socket) (info : StreamInfo) (connected : Bool)
  | connection (record : ConnectionRecord)
  | group (group : ConnectionGroup)

/-- What became of a socket in a step. -/
inductive SocketOutcome where
  | pending (id : SocketId)
  | connected (handle : ConnectionHandle)
  | closed
  /-- The socket is not in listener filters. -/
  | unknown
  deriving DecidableEq, Repr

inductive ConnectionEvent where
  | connected
  | remoteClose
  | localClose
  deriving DecidableEq, Repr

def ConnectionEvent.isClose : ConnectionEvent → Bool
  | connected => false
  | _ => true

def Parked.label : Parked → String
  | .socket id _ _ _ => s!"socket {id.serial}"
  | .connection record => s!"connection {record.connection}"
  | .group emptied => s!"connection group {emptied.chain.name}"

namespace ConnectionGroup

/-- A record, if the handle is that of the record in its slot. -/
def get? (group : ConnectionGroup) (handle : ConnectionHandle) : Option ConnectionRecord :=
  (group.records.get? handle.slot).filter (·.handle = handle)

def size (group : ConnectionGroup) : Nat := group.records.size

/-- The handles, by slot. -/
def handles (group : ConnectionGroup) : List ConnectionHandle :=
  group.records.values.map (·.handle)

end ConnectionGroup

structure ListenerState (σ : Type) where
  config : ListenerConfig σ
  registry : Registry
  carrier : Carrier
  /-- Every connection made so far, by identity from 1. -/
  connections : List Connection
  pending : Slab (PendingSocket σ)
  groups : Table FilterChainId ConnectionGroup
  /-- Chains are being drained: an emptied group stays until the drain takes it. -/
  draining : Bool
  nextSerial : Nat
  stats : ListenerStats
  parked : List Parked
  log : List StreamInfo
  accepted : Nat

namespace ListenerState

variable {σ : Type}

/-- A listener before its first socket. -/
def new (config : ListenerConfig σ) (carrier : Carrier) : ListenerState σ where
  config
  registry := .new config.name
  carrier
  connections := []
  pending := .empty
  groups := .empty
  draining := false
  nextSerial := 1
  stats := .zero
  parked := []
  log := []
  accepted := 0

def count (state : ListenerState σ) (change : ListenerStats → ListenerStats) : ListenerState σ :=
  { state with stats := change state.stats }

def park (state : ListenerState σ) (object : Parked) : ListenerState σ :=
  { state with parked := state.parked ++ [object] }

def drawSerial (state : ListenerState σ) : Nat × ListenerState σ :=
  (state.nextSerial, { state with nextSerial := state.nextSerial + 1 })

def withConnection (state : ListenerState σ) (id : Nat) (change : Connection → Connection) :
    ListenerState σ :=
  { state with connections := state.connections.modify (id - 1) change }

/-! ## Reading -/

def connectionOf? (state : ListenerState σ) (id : Nat) : Option Connection :=
  if id = 0 then none else state.connections[id - 1]?

def record? (state : ListenerState σ) (handle : ConnectionHandle) : Option ConnectionRecord :=
  (state.groups.get? handle.chain).bind (·.get? handle)

def chainConnectionCount (state : ListenerState σ) (chain : FilterChainId) : Nat :=
  ((state.groups.get? chain).map (·.size)).getD 0

def connectionCount (state : ListenerState σ) : Nat :=
  state.groups.values.foldr (fun group count => group.size + count) 0

def pending? (state : ListenerState σ) (id : SocketId) : Option (PendingSocket σ) :=
  (state.pending.get? id.slot).filter (·.id = id)

def isPending (state : ListenerState σ) (id : SocketId) : Bool :=
  (state.pending? id).isSome

/-- The earliest time at which a socket runs out of time in listener filters. -/
def nextTimeout (state : ListenerState σ) : Option Nat :=
  (state.pending.values.filterMap (·.deadline)).min?

/-! ## Tracking connections -/

/-- Tracks a connection in the group of its chain. -/
def track
    (state : ListenerState σ)
    (chain : FilterChain)
    (connection : Nat)
    (info : StreamInfo)
    (generation : MatchIndex) : ConnectionHandle × ListenerState σ :=
  let (serial, state) := state.drawSerial
  let group := (state.groups.get? chain.id).getD ⟨chain, .empty⟩
  let handle : ConnectionHandle := ⟨chain.id, group.records.vacant, serial⟩
  let records := group.records.insert ⟨handle, connection, info, generation⟩
  let state := state.count fun stats =>
    { stats with connectionsActive := stats.connectionsActive + 1 }
  (handle, { state with groups := state.groups.insert chain.id { group with records } })

/-- Takes a record out of its group and parks it; a group that is left empty is parked too, unless
chains are being drained. Gives false if the handle has no record. -/
def removeConnection (state : ListenerState σ) (handle : ConnectionHandle) :
    Bool × ListenerState σ :=
  match state.groups.get? handle.chain with
  | none => (false, state)
  | some group =>
      match group.get? handle with
      | none => (false, state)
      | some record =>
          let group := { group with records := group.records.remove handle.slot }
          let state := state.park (.connection record)
          if group.size = 0 ∧ ¬state.draining then
            (true, { state with groups := state.groups.erase handle.chain }.park (.group group))
          else (true, { state with groups := state.groups.insert handle.chain group })

/-- Closes a connection at once and removes its record. -/
def dropConnection (state : ListenerState σ) (handle : ConnectionHandle) : ListenerState σ :=
  match state.record? handle with
  | none => state
  | some record =>
      ((state.withConnection record.connection (·.close .noFlush)).removeConnection handle).2

/-- Closes all connections of a chain and parks its group. -/
def drainChain (state : ListenerState σ) (chain : FilterChainId) : ListenerState σ :=
  match state.groups.get? chain with
  | none => state
  | some group =>
      let state := group.handles.foldl dropConnection state
      match state.groups.get? chain with
      | none => state
      | some emptied => { state with groups := state.groups.erase chain }.park (.group emptied)

/-- Closes all connections of chains, in order, and parks their groups. -/
def drain (state : ListenerState σ) (chains : List FilterChainId) : ListenerState σ :=
  { chains.foldl drainChain { state with draining := true } with draining := state.draining }

/-- A connection reports something; its end removes its record. -/
def onConnectionEvent (state : ListenerState σ) (handle : ConnectionHandle)
    (event : ConnectionEvent) : ListenerState σ :=
  if event.isClose then (state.removeConnection handle).2 else state

/-! ## Filter chains -/

/-- Applies a batch of filter chains. If it becomes active at once, the connections on chains that
it does not have are closed. -/
def applyChains
    (state : ListenerState σ)
    (descriptors : List FilterChainDescriptor)
    (builder : ChainBuilder) : UpdateReport × ListenerState σ :=
  let (registry, report) := state.registry.beginUpdate descriptors builder
  let state := { state with registry }
  match report.outcome with
  | .ok (.activated activation) => (report, state.drain activation.removed)
  | _ => (report, state)

/-- Activates generations whose targets are ready, and closes the connections on the chains that
each of them removed. Gives the activations. -/
def dispatchWarmed (state : ListenerState σ) : List Activation × ListenerState σ :=
  let (registry, activations) := state.registry.dispatchWarmed
  (activations, activations.foldl (fun state activation => state.drain activation.removed)
    { state with registry })

/-- Marks a warm-up target as ready. -/
def targetReady (state : ListenerState σ) (target : InitTarget) : ListenerState σ :=
  { state with registry := state.registry.targetReady target }

/-! ## Sockets -/

/-- Makes the connection of a matched socket and lets the chain's factories act on it. -/
def connect (state : ListenerState σ) (socket : Socket) (chain : FilterChain) :
    Connection × ListenerState σ :=
  let fresh := Connection.ofSocket (state.connections.length + 1) state.carrier socket
    chain.transport.protocol
  let prepared := { fresh with connectTimeout := chain.connectTimeout }.setBufferLimit
    state.config.bufferLimit
  let (installed, hasFilters) := prepared.installFilters chain.filters
  let connection := if hasFilters then installed else installed.close .noFlush
  (connection, { state with connections := state.connections ++ [connection] }.count fun stats =>
    { stats with connectionsTotal := stats.connectionsTotal + 1 })

/-- Matches a socket that passed the listener filters. Its connection is tracked unless it is closed
already; then it is dropped at once. -/
def route (state : ListenerState σ) (pending : PendingSocket σ) :
    SocketOutcome × ListenerState σ :=
  match (state.registry.lookup pending.socket).1 with
  | none =>
      let info := pending.info.mark .noRouteFound "filter_chain_not_found"
      let state := state.count fun stats => { stats with noChainMatch := stats.noChainMatch + 1 }
      (.closed, state.park (.socket pending.id pending.socket.close info false))
  | some matched =>
      let (connection, state) := state.connect pending.socket matched.chain
      let info := { pending.info with
        connectionId := some connection.id
        chainName := some matched.chain.name }
      if connection.state = .closed then
        let state := state.withConnection connection.id Connection.destroy
        (.closed, state.park (.socket pending.id pending.socket info false))
      else
        let (handle, state) := state.track matched.chain connection.id info matched.index
        (.connected handle, state.park (.socket pending.id pending.socket info true))

def finish (state : ListenerState σ) (pending : PendingSocket σ) :
    SocketOutcome × ListenerState σ :=
  if pending.pipeline.state = .completed then state.route pending
  else
    let state := state.count fun stats =>
      if pending.info.flag.isNone then { stats with filterErrors := stats.filterErrors + 1 }
      else stats
    (.closed, state.park (.socket pending.id pending.socket pending.info false))

/-- Accepts a socket and runs its listener filters as far as they go. -/
def accept (state : ListenerState σ) (socket : Socket) (now : Nat) :
    SocketOutcome × ListenerState σ :=
  let (serial, state) := state.drawSerial
  let state := { state with accepted := state.accepted + 1 }.count fun stats =>
    { stats with openObjects := stats.openObjects + 1 }
  let id : SocketId := ⟨state.pending.vacant, serial⟩
  let (pipeline, socket) := (Pipeline.new state.config.filters).start socket
  let timeout := state.config.filterTimeout
  let pending : PendingSocket σ :=
    { id, socket, pipeline
      deadline := if timeout = 0 then none else some (now + timeout)
      info := .between socket.localAddress socket.remoteAddress }
  if pipeline.state = .suspended then
    let state := state.count fun stats => { stats with pendingActive := stats.pendingActive + 1 }
    (.pending id, { state with pending := state.pending.insert pending })
  else state.finish pending

/-- Runs a step of the pipeline of a socket in listener filters. -/
def stepPending
    (state : ListenerState σ)
    (id : SocketId)
    (step : Pipeline σ → Socket → Pipeline σ × Socket) : SocketOutcome × ListenerState σ :=
  match state.pending? id with
  | none => (.unknown, state)
  | some pending =>
      let (pipeline, socket) := step pending.pipeline pending.socket
      let stepped := { pending with pipeline, socket }
      if pipeline.state = .suspended ∨ pipeline.state = .running then
        (.pending id, { state with pending := state.pending.modify id.slot fun _ => stepped })
      else
        let state := { state with pending := state.pending.remove id.slot }.count fun stats =>
          { stats with pendingActive := stats.pendingActive - 1 }
        state.finish stepped

/-- Hands all readable bytes to a socket in listener filters. -/
def onSocketData (state : ListenerState σ) (id : SocketId) (data : List UInt8) :
    SocketOutcome × ListenerState σ :=
  state.stepPending id fun pipeline socket => pipeline.onData socket data

/-- The filter that holds a socket is done, with success or not. -/
def continueSocket (state : ListenerState σ) (id : SocketId) (success : Bool) :
    SocketOutcome × ListenerState σ :=
  state.stepPending id fun pipeline socket => pipeline.resume socket success

def timeOut (state : ListenerState σ) (id : SocketId) : SocketOutcome × ListenerState σ :=
  let continues := state.config.continueOnTimeout
  let state := state.count fun stats => { stats with pendingTimeouts := stats.pendingTimeouts + 1 }
  let mark (pending : PendingSocket σ) : PendingSocket σ :=
    if continues then pending
    else { pending with
      info := pending.info.mark .listenerFilterTimeout "listener_filter_timeout" }
  { state with pending := state.pending.modify id.slot mark }.stepPending id
    fun pipeline socket => pipeline.onTimeout socket continues

/-- The sockets that have run out of time, by slot. -/
def expired (state : ListenerState σ) (now : Nat) : List SocketId :=
  (state.pending.values.filter fun pending => pending.deadline.any (· ≤ now)).map (·.id)

/-- Lets sockets run out of time, in order. -/
def timeOutAll (state : ListenerState σ) :
    List SocketId → List (SocketId × SocketOutcome) × ListenerState σ
  | [] => ([], state)
  | id :: ids =>
      let (outcome, state) := state.timeOut id
      let (outcomes, state) := state.timeOutAll ids
      ((id, outcome) :: outcomes, state)

/-- Lets all sockets run out of time whose deadline has come, and says what became of each. -/
def pollTimeouts (state : ListenerState σ) (now : Nat) :
    List (SocketId × SocketOutcome) × ListenerState σ :=
  state.timeOutAll (state.expired now)

/-- Something outside the listener closes or reopens a socket in listener filters. -/
def setOpen (state : ListenerState σ) (id : SocketId) (isOpen : Bool) : ListenerState σ :=
  if state.isPending id then
    { state with pending := state.pending.modify id.slot fun pending =>
      { pending with socket := { pending.socket with isOpen } } }
  else state

/-! ## Ending -/

def abandon (state : ListenerState σ) (pending : PendingSocket σ) : ListenerState σ :=
  let socket := if pending.socket.isOpen then pending.socket.close else pending.socket
  let state := state.count fun stats => { stats with pendingActive := stats.pendingActive - 1 }
  state.park (.socket pending.id socket pending.info false)

/-- Closes every socket in listener filters and every connection. -/
def shutdown (state : ListenerState σ) : ListenerState σ :=
  let emptied := state.pending.values.foldl abandon { state with draining := true }
  let drained := { emptied with pending := .empty }.drain emptied.groups.keys
  { drained with draining := state.draining }

def dropParked (state : ListenerState σ) : Parked → ListenerState σ
  | .socket _ _ _ true => state
  | .socket _ _ info false =>
      { state with log := state.log ++ [info] }.count fun stats =>
        { stats with openObjects := stats.openObjects - 1 }
  | .connection record =>
      { state.withConnection record.connection Connection.destroy with
        log := state.log ++ [record.info] }.count fun stats =>
        { stats with
          connectionsActive := stats.connectionsActive - 1
          connectionsDestroyed := stats.connectionsDestroyed + 1
          openObjects := stats.openObjects - 1 }
  | .group _ => state

/-- Drops everything that is parked, in order, and says how much it was. -/
def clearParked (state : ListenerState σ) : Nat × ListenerState σ :=
  (state.parked.length, state.parked.foldl dropParked { state with parked := [] })

/-- The listener is dropped: everything ends and nothing stays parked. -/
def drop (state : ListenerState σ) : ListenerState σ :=
  state.shutdown.clearParked.2

/-! ## Diagnostics -/

def debug (state : ListenerState σ) : String :=
  "ActiveListener \x7b name: " ++ Text.quoted state.config.name ++ ", registry: " ++
    state.registry.debug ++
    s!", pending: {state.pending.size}, connections: {state.connectionCount} \x7d"

def debugParked (state : ListenerState σ) : String :=
  s!"LocalDispatcher \x7b pending_deletions: {state.parked.length} \x7d"

end ListenerState

end Admission.Listener
