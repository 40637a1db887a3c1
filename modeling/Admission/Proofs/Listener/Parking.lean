import Admission.Listener.State

/-!
Contract: what a shutdown parks, and what dropping the parked objects leaves.

Owns:
- what a parked object is to the gauges and to the log: `Parked.record?`, `Parked.socketId?` and
  `Parked.line?`;
- `clearParked_frame`, all drops at once;
- `withdrawn`, a listener whose sockets in listener filters are all parked, and `shutdown_eq`.
-/

namespace Admission.Listener

/-- The record that a parked object is. -/
def Parked.record? : Parked → Option ConnectionRecord
  | .connection record => some record
  | _ => none

/-- The id of the socket that a parked object is. -/
def Parked.socketId? : Parked → Option SocketId
  | .socket id _ _ _ => some id
  | _ => none

/-- The line that a parked object leaves in the log. A socket whose connection is tracked leaves that
to the connection. -/
def Parked.line? : Parked → Option StreamInfo
  | .socket _ _ info false => some info
  | .connection record => some record.info
  | _ => none

/-- The object that a socket in listener filters becomes if they are given up. -/
def PendingSocket.abandoned {σ : Type} (pending : PendingSocket σ) : Parked :=
  .socket pending.id (if pending.socket.isOpen then pending.socket.close else pending.socket)
    pending.info false

section Socket

variable (objects : List Parked) (id : SocketId) (socket : Socket) (info : StreamInfo)

theorem filterMap_record?_socket (connected : Bool) :
    (objects ++ [Parked.socket id socket info connected]).filterMap Parked.record? =
      objects.filterMap Parked.record? :=
  List.filterMap_append.trans (List.append_nil _)

theorem filterMap_line?_unconnected :
    (objects ++ [Parked.socket id socket info false]).filterMap Parked.line? =
      objects.filterMap Parked.line? ++ [info] :=
  List.filterMap_append

theorem filterMap_line?_connected :
    (objects ++ [Parked.socket id socket info true]).filterMap Parked.line? =
      objects.filterMap Parked.line? :=
  List.filterMap_append.trans (List.append_nil _)

end Socket

section Abandoned

variable {σ : Type} (sockets : List (PendingSocket σ))

theorem filterMap_socketId?_abandoned :
    (sockets.map (·.abandoned)).filterMap Parked.socketId? = sockets.map (·.id) := by
  simp [List.filterMap_map, Function.comp_def, PendingSocket.abandoned, Parked.socketId?]

theorem filterMap_line?_abandoned :
    (sockets.map (·.abandoned)).filterMap Parked.line? = sockets.map (·.info) := by
  simp [List.filterMap_map, Function.comp_def, PendingSocket.abandoned, Parked.line?]

theorem filterMap_record?_abandoned :
    (sockets.map (·.abandoned)).filterMap Parked.record? = [] := by
  simp [PendingSocket.abandoned, Parked.record?]

end Abandoned

/-- The counts after objects were dropped: each record and each line has left its gauges. -/
def ListenerStats.without (stats : ListenerStats) (objects : List Parked) : ListenerStats :=
  { stats with
    connectionsActive := stats.connectionsActive - (objects.filterMap Parked.record?).length
    connectionsDestroyed := stats.connectionsDestroyed + (objects.filterMap Parked.record?).length
    openObjects := stats.openObjects - (objects.filterMap Parked.line?).length }

private theorem ListenerStats.without_append (stats : ListenerStats) (objects more : List Parked) :
    stats.without (objects ++ more) = (stats.without objects).without more := by
  unfold without
  simp only [List.filterMap_append, List.length_append, Nat.sub_sub, Nat.add_assoc]

namespace ListenerState

variable {σ : Type}

/-! ## Drops -/

theorem dropParked_frame (state : ListenerState σ) (object : Parked) :
    ∃ connections, state.dropParked object = { state with
      connections := connections
      log := state.log ++ [object].filterMap Parked.line?
      stats := state.stats.without [object] } := by
  have unlogged : state.log = state.log ++ [] := (List.append_nil _).symm
  cases object with
  | socket id socket info connected =>
      cases connected with
      | true =>
          refine ⟨state.connections, ?_⟩
          exact congrArg (fun log => { state with log := log }) unlogged
      | false => exact ⟨state.connections, rfl⟩
  | connection record => exact ⟨_, rfl⟩
  | group group =>
      refine ⟨state.connections, ?_⟩
      exact congrArg (fun log => { state with log := log }) unlogged

private theorem dropAll_frame (state : ListenerState σ) (objects : List Parked) :
    ∃ connections, objects.foldl dropParked state = { state with
      connections := connections
      log := state.log ++ objects.filterMap Parked.line?
      stats := state.stats.without objects } := by
  induction objects generalizing state with
  | nil => exact ⟨state.connections, by simp [ListenerStats.without]⟩
  | cons object rest inductionHypothesis =>
      obtain ⟨_, first⟩ := state.dropParked_frame object
      obtain ⟨connections, dropped⟩ := inductionHypothesis (state.dropParked object)
      refine ⟨connections, ?_⟩
      rw [List.foldl_cons, dropped, first, List.append_assoc, ← List.filterMap_append,
        ← ListenerStats.without_append]
      rfl

theorem clearParked_frame (state : ListenerState σ) :
    ∃ connections, state.clearParked.2 = { state with
      connections := connections
      log := state.log ++ state.parked.filterMap Parked.line?
      stats := state.stats.without state.parked
      parked := [] } :=
  dropAll_frame { state with parked := [] } state.parked

/-! ## Shutdown -/

private theorem abandonAll_eq (state : ListenerState σ) (sockets : List (PendingSocket σ)) :
    sockets.foldl abandon state = { state with
      stats := { state.stats with
        pendingActive := state.stats.pendingActive - sockets.length }
      parked := state.parked ++ sockets.map (·.abandoned) } := by
  induction sockets generalizing state with
  | nil => simp
  | cons pending rest inductionHypothesis =>
      rw [List.foldl_cons, inductionHypothesis, List.length_cons, List.map_cons,
        List.append_cons, Nat.add_comm, ← Nat.sub_sub]
      rfl

/-- A listener whose sockets in listener filters are all given up. -/
def withdrawn (state : ListenerState σ) : ListenerState σ :=
  { state with
    pending := .empty
    stats := { state.stats with
      pendingActive := state.stats.pendingActive - state.pending.size }
    parked := state.parked ++ state.pending.values.map (·.abandoned) }

theorem shutdown_eq (state : ListenerState σ) :
    state.shutdown = state.withdrawn.drain state.groups.keys := by
  unfold shutdown drain
  rw [abandonAll_eq]
  rfl

end ListenerState

end Admission.Listener
