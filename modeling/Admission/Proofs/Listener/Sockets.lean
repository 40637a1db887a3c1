import Admission.Proofs.Listener.Tracking

/-!
Contract: what a step makes of one socket.

Owns:
- `Pipeline.Stopped`, how every run of a pipeline ends;
- `Settled`, what becomes of a socket that leaves the listener filters, with `Tally`, how a closed one
  is counted;
- `Stepped` and `Arrived`, what a step in listener filters and an acceptance do.
-/

namespace Admission.Listener

open Admission.Chain

/-! ## Pipelines -/

namespace Pipeline

variable {σ : Type}

/-- A pipeline runs no more, and if it is held, then by a filter that it has. -/
structure Stopped (pipeline : Pipeline σ) : Prop where
  rests : pipeline.state ≠ .running
  held : pipeline.state = .suspended → pipeline.cursor < pipeline.filters.length

private theorem stopped_enter {pipeline : Pipeline σ} {state : PipelineState}
    (ends : state = .completed ∨ state = .terminated) : (pipeline.enter state).Stopped := by
  rcases ends with rfl | rfl
  · exact ⟨fun running => absurd running (by simp [enter]),
      fun suspended => absurd suspended (by simp [enter])⟩
  · exact ⟨fun running => absurd running (by simp [enter]),
      fun suspended => absurd suspended (by simp [enter])⟩

private theorem remember_inside {pipeline : Pipeline σ} {filter : ListenerFilter σ}
    (found : pipeline.filters[pipeline.cursor]? = some filter) (memory : σ) :
    (pipeline.remember memory).cursor < (pipeline.remember memory).filters.length := by
  unfold remember
  rw [List.length_modify]
  exact (List.getElem?_eq_some_iff.mp found).1

private theorem stopped_iterate (pipeline : Pipeline σ) (socket : Socket) :
    (pipeline.iterate socket).1.Stopped := by
  fun_induction iterate pipeline socket with
  | case1 pipeline socket found => exact stopped_enter (.inl rfl)
  | case2 pipeline socket filter found reply after learned closed => exact stopped_enter (.inr rfl)
  | case3 pipeline socket filter found reply after learned opened hold =>
      exact ⟨fun running => absurd running (by simp [enter]),
        fun _ => remember_inside found reply.memory⟩
  | case4 pipeline socket filter found reply after learned opened proceeds inductionHypothesis =>
      exact inductionHypothesis

theorem stopped_start (pipeline : Pipeline σ) (socket : Socket) :
    (pipeline.start socket).1.Stopped :=
  stopped_iterate _ socket

theorem Stopped.resume {pipeline : Pipeline σ} (stopped : pipeline.Stopped) (socket : Socket)
    (success : Bool) : (pipeline.resume socket success).1.Stopped := by
  unfold Pipeline.resume
  split
  · exact stopped
  · split
    · exact stopped_iterate _ socket
    · exact stopped_enter (.inr rfl)

/-- Without success a pipeline that is held ends. -/
theorem resume_false {pipeline : Pipeline σ} (held : pipeline.state = .suspended) (socket : Socket) :
    pipeline.resume socket false =
      (pipeline.enter .terminated, if socket.isOpen then socket.close else socket) := by
  unfold resume
  rw [if_neg (not_not_intro held)]
  rfl

theorem Stopped.onData {pipeline : Pipeline σ} (stopped : pipeline.Stopped) (socket : Socket)
    (data : List UInt8) : (pipeline.onData socket data).1.Stopped := by
  unfold Pipeline.onData
  split
  · exact stopped
  · split
    · split
      · exact stopped_iterate _ socket
      · exact stopped_enter (.inr rfl)
    · rename_i filter found
      dsimp only
      split
      · exact stopped_enter (.inr rfl)
      · split
        · exact ⟨stopped.rests, fun _ => remember_inside found _⟩
        · exact stopped_iterate _ _

end Pipeline

/-! ## Sockets that leave -/

/-- How a socket is counted that is closed after it left the listener filters, and what is known of it
then. -/
inductive Tally {σ : Type} (pending : PendingSocket σ) (before : ListenerStats) :
    ListenerStats → StreamInfo → Prop
  | rejected (stopped : pending.pipeline.state ≠ .completed)
      (unmarked : pending.info.flag = none) :
      Tally pending before { before with filterErrors := before.filterErrors + 1 } pending.info
  /-- The one way to close a socket that has its flag already. -/
  | expired (stopped : pending.pipeline.state ≠ .completed) (marked : pending.info.flag ≠ none) :
      Tally pending before before pending.info
  | unmatched (passed : pending.pipeline.state = .completed) :
      Tally pending before { before with noChainMatch := before.noChainMatch + 1 }
        (pending.info.mark .noRouteFound "filter_chain_not_found")
  /-- Its connection was closed as soon as it was made. -/
  | refused {info : StreamInfo} (passed : pending.pipeline.state = .completed)
      (flag : info.flag = pending.info.flag) :
      Tally pending before { before with connectionsTotal := before.connectionsTotal + 1 } info

/-- Only the counters of ended sockets change. -/
theorem Tally.frame {σ : Type} {pending : PendingSocket σ} {before after : ListenerStats}
    {info : StreamInfo} (tally : Tally pending before after info) :
    after = { before with
      connectionsTotal := after.connectionsTotal
      filterErrors := after.filterErrors
      noChainMatch := after.noChainMatch } := by
  cases tally with
  | rejected => rfl
  | expired => rfl
  | unmatched => rfl
  | refused => rfl

namespace ListenerState

variable {σ : Type}

/-- A listener that has made another connection. -/
def made (state : ListenerState σ) (connections : List Connection) : ListenerState σ :=
  { state with connections }.count fun stats =>
    { stats with connectionsTotal := stats.connectionsTotal + 1 }

section Made

variable (state : ListenerState σ) (connections : List Connection)

@[simp]
theorem pending_made : (state.made connections).pending = state.pending := rfl

@[simp]
theorem parked_made : (state.made connections).parked = state.parked := rfl

@[simp]
theorem stats_made : (state.made connections).stats =
    { state.stats with connectionsTotal := state.stats.connectionsTotal + 1 } := rfl

end Made

/-- What becomes of a socket that leaves the listener filters: it is closed, or its connection is
tracked. -/
inductive Settled (before : ListenerState σ) (pending : PendingSocket σ) :
    SocketOutcome × ListenerState σ → Prop
  | closed (connections : List Connection) (socket : Socket) {stats : ListenerStats}
      {info : StreamInfo} (tally : Tally pending before.stats stats info) :
      Settled before pending (.closed, { before with
        connections := connections
        stats := stats
        parked := before.parked ++ [.socket pending.id socket info false] })
  | connected (connections : List Connection) (connection : Nat) {info : StreamInfo}
      {matched : LookupMatch} (passed : pending.pipeline.state = .completed)
      (found : (before.registry.lookup pending.socket).1 = some matched)
      (flag : info.flag = pending.info.flag) :
      Settled before pending
        (.connected
          ((before.made connections).track matched.chain connection info matched.index).1,
        ((before.made connections).track matched.chain connection info matched.index).2.park
          (.socket pending.id pending.socket info true))

private theorem settled_route (state : ListenerState σ) {pending : PendingSocket σ}
    (passed : pending.pipeline.state = .completed) :
    Settled state pending (state.route pending) := by
  unfold route
  split
  · exact .closed state.connections _ (.unmatched passed)
  · rename_i matched found
    dsimp only
    split
    · exact .closed _ _ (.refused passed rfl)
    · exact .connected _ _ passed found rfl

theorem settled_finish (state : ListenerState σ) (pending : PendingSocket σ) :
    Settled state pending (state.finish pending) := by
  unfold finish
  split
  · rename_i passed
    exact settled_route state passed
  · rename_i stopped
    by_cases unmarked : pending.info.flag = none
    · dsimp only [count]
      rw [if_pos (by rw [unmarked]; rfl)]
      exact .closed _ _ (.rejected stopped unmarked)
    · dsimp only [count]
      rw [if_neg (by simpa using unmarked)]
      exact .closed _ _ (.expired stopped unmarked)

end ListenerState

/-! ## Sockets in listener filters -/

/-- A socket after a step of its pipeline. -/
def PendingSocket.stepped {σ : Type} (pending : PendingSocket σ)
    (step : Pipeline σ → Socket → Pipeline σ × Socket) : PendingSocket σ :=
  { pending with
    pipeline := (step pending.pipeline pending.socket).1
    socket := (step pending.pipeline pending.socket).2 }

namespace ListenerState

variable {σ : Type}

/-- A listener without the socket of a slot, which has left the listener filters. -/
def released (state : ListenerState σ) (slot : Nat) : ListenerState σ :=
  { state with pending := state.pending.remove slot }.count fun stats =>
    { stats with pendingActive := stats.pendingActive - 1 }

/-- What a step does in listener filters: nothing if the socket is not there; else the socket stays
where it is, or it leaves. -/
inductive Stepped (before : ListenerState σ) (id : SocketId)
    (step : Pipeline σ → Socket → Pipeline σ × Socket) : SocketOutcome × ListenerState σ → Prop
  | unknown (absent : before.pending? id = none) : Stepped before id step (.unknown, before)
  | held {pending : PendingSocket σ} (found : before.pending? id = some pending)
      (waits : (pending.stepped step).pipeline.state = .suspended ∨
        (pending.stepped step).pipeline.state = .running) :
      Stepped before id step (.pending id, { before with
        pending := before.pending.modify id.slot fun _ => pending.stepped step })
  | left {pending : PendingSocket σ} {result : SocketOutcome × ListenerState σ}
      (found : before.pending? id = some pending)
      (settled : Settled (before.released id.slot) (pending.stepped step) result) :
      Stepped before id step result

theorem stepped_stepPending (state : ListenerState σ) (id : SocketId)
    (step : Pipeline σ → Socket → Pipeline σ × Socket) :
    Stepped state id step (state.stepPending id step) := by
  unfold stepPending
  split
  · rename_i absent
    exact .unknown absent
  · rename_i pending found
    dsimp only
    split
    · rename_i waits
      exact .held found waits
    · exact .left found (settled_finish _ _)

/-- A listener that has taken another socket. -/
def taken (state : ListenerState σ) : ListenerState σ :=
  { state with
    nextSerial := state.nextSerial + 1
    accepted := state.accepted + 1 }.count fun stats =>
    { stats with openObjects := stats.openObjects + 1 }

/-- A new socket after its first way through the listener filters. -/
def arrival (state : ListenerState σ) (socket : Socket) (now : Nat) : PendingSocket σ where
  id := ⟨state.pending.vacant, state.nextSerial⟩
  socket := ((Pipeline.new state.config.filters).start socket).2
  pipeline := ((Pipeline.new state.config.filters).start socket).1
  deadline := if state.config.filterTimeout = 0 then none else some (now + state.config.filterTimeout)
  info := .between ((Pipeline.new state.config.filters).start socket).2.localAddress
    ((Pipeline.new state.config.filters).start socket).2.remoteAddress

theorem accept_eq (state : ListenerState σ) (socket : Socket) (now : Nat) :
    state.accept socket now =
      if (state.arrival socket now).pipeline.state = .suspended then
        (.pending (state.arrival socket now).id,
          { state.taken with pending := state.pending.insert (state.arrival socket now) }.count
            fun stats => { stats with pendingActive := stats.pendingActive + 1 })
      else state.taken.finish (state.arrival socket now) := rfl

/-- What an acceptance does: a filter holds the new socket, or it leaves at once. -/
inductive Arrived (before : ListenerState σ) (pending : PendingSocket σ) :
    SocketOutcome × ListenerState σ → Prop
  | held (waits : pending.pipeline.state = .suspended) :
      Arrived before pending (.pending pending.id,
        { before.taken with pending := before.pending.insert pending }.count fun stats =>
          { stats with pendingActive := stats.pendingActive + 1 })
  | left {result : SocketOutcome × ListenerState σ} (settled : Settled before.taken pending result) :
      Arrived before pending result

theorem arrived_accept (state : ListenerState σ) (socket : Socket) (now : Nat) :
    Arrived state (state.arrival socket now) (state.accept socket now) := by
  rw [accept_eq]
  split
  · rename_i waits
    exact .held waits
  · exact .left (settled_finish _ _)

end ListenerState

end Admission.Listener
