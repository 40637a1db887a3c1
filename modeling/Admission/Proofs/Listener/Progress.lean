import Admission.Proofs.Listener.Identity

/-!
Contract: how a socket gets on in the listener filters.

Owns:
- `Pipeline.Onward`, that filters are passed in order and that a socket keeps its stream while one of
  them holds it;
- which socket an id stands for after an acceptance, a step and time-outs, with `Advanced`, how far it
  has come.
-/

namespace Admission.Listener

/-- A filter takes the stream of a socket only by closing it. -/
theorem Socket.stream_learn {socket : Socket} {findings : Findings}
    (stays : (socket.learn findings).isOpen = true) :
    (socket.learn findings).stream = socket.stream := by
  unfold learn at stays ⊢
  dsimp only at stays ⊢
  split
  · rename_i closes
    rw [if_pos closes] at stays
    cases stays
  · rfl

/-! ## Pipelines -/

namespace Pipeline

variable {σ : Type}

/-- A run of filters from a position on: none before it holds the socket, and if one does, the socket
has its stream. -/
structure Onward (position : Nat) (socket : Socket) (result : Pipeline σ × Socket) : Prop where
  cursor : position ≤ result.1.cursor
  stream : result.1.state = .suspended → result.2.stream = socket.stream

section Onward

variable (pipeline : Pipeline σ) (socket : Socket)

private theorem onward_enter {state : PipelineState} (ends : state ≠ .suspended) (left : Socket) :
    Onward pipeline.cursor socket (pipeline.enter state, left) :=
  ⟨Nat.le_refl _, fun held => absurd held ends⟩

private theorem onward_iterate : Onward pipeline.cursor socket (pipeline.iterate socket) := by
  fun_induction iterate pipeline socket with
  | case1 pipeline socket found => exact onward_enter pipeline socket (by decide) socket
  | case2 pipeline socket filter found reply after learned closed =>
      exact onward_enter after socket (by decide) learned
  | case3 pipeline socket filter found reply after learned opened hold =>
      have stays : learned.isOpen = true := by simpa using opened
      exact ⟨Nat.le_refl _, fun _ => Socket.stream_learn stays⟩
  | case4 pipeline socket filter found reply after learned opened proceeds inductionHypothesis =>
      have stays : learned.isOpen = true := by simpa using opened
      refine ⟨Nat.le_trans (Nat.le_succ _) inductionHypothesis.cursor, ?_⟩
      intro held
      exact (inductionHypothesis.stream held).trans (Socket.stream_learn stays)

private theorem onward_advance :
    Onward (pipeline.cursor + 1) socket (pipeline.advance.iterate socket) :=
  pipeline.advance.onward_iterate socket

theorem onward_onData (data : List UInt8) :
    Onward pipeline.cursor socket (pipeline.onData socket data) := by
  unfold onData
  split
  · exact ⟨Nat.le_refl _, fun _ => rfl⟩
  · split
    · split
      · have onward := pipeline.onward_advance socket
        exact ⟨Nat.le_of_succ_le onward.cursor, onward.stream⟩
      · exact onward_enter pipeline socket (by decide) socket
    · rename_i filter found
      dsimp only
      split
      · exact onward_enter (pipeline.remember _) socket (by decide) _
      · rename_i opened
        have stays : (socket.learn (filter.onData filter.memory socket data).findings).isOpen =
            true := by simpa using opened
        split
        · exact ⟨Nat.le_refl _, fun _ => Socket.stream_learn stays⟩
        · have onward := (pipeline.remember
              (filter.onData filter.memory socket data).memory).onward_advance
            (socket.learn (filter.onData filter.memory socket data).findings)
          refine ⟨Nat.le_of_succ_le onward.cursor, ?_⟩
          intro held
          exact (onward.stream held).trans (Socket.stream_learn stays)

variable {pipeline}

/-- With success the filter that held the pipeline is passed. -/
theorem onward_resume (held : pipeline.state = .suspended) :
    Onward (pipeline.cursor + 1) socket (pipeline.resume socket true) := by
  unfold resume
  rw [if_neg (not_not_intro held), if_pos rfl]
  exact pipeline.onward_advance socket

end Onward

end Pipeline

/-! ## Sockets -/

/-- The same socket, at least some filters further on. -/
structure PendingSocket.Advanced {σ : Type} (passed : Nat) (earlier later : PendingSocket σ) :
    Prop where
  cursor : earlier.pipeline.cursor + passed ≤ later.pipeline.cursor
  stream : later.socket.stream = earlier.socket.stream

namespace ListenerState

variable {σ : Type} {before : ListenerState σ}

/-- Only the new socket can be held. -/
theorem Arrived.held_of_pending {pending : PendingSocket σ} {result : SocketOutcome × ListenerState σ}
    (arrived : Arrived before pending result) {id : SocketId} (waits : result.1 = .pending id) :
    id = pending.id ∧ pending.pipeline.state = .suspended := by
  cases arrived with
  | held held => exact ⟨(SocketOutcome.pending.inj waits).symm, held⟩
  | left settled =>
      cases settled with
      | closed => cases waits
      | connected => cases waits

/-- While a filter holds a new socket, the socket has the stream that it came with. -/
theorem stream_arrival {socket : Socket} {now : Nat}
    (held : (before.arrival socket now).pipeline.state = .suspended) :
    (before.arrival socket now).socket.stream = socket.stream :=
  (Pipeline.onward_iterate _ socket).stream held

/-- A new socket that a filter holds is found under its id, and nothing else has changed. -/
theorem Arrived.pending? {pending : PendingSocket σ} {result : SocketOutcome × ListenerState σ}
    (arrived : Arrived before pending result) (slots : before.pending.Sound)
    (vacant : pending.id.slot = before.pending.vacant) (id : SocketId) :
    result.2.pending? id =
      if id = pending.id ∧ result.1 = .pending pending.id then some pending
      else before.pending? id := by
  cases arrived with
  | held waits =>
      unfold ListenerState.pending? count
      dsimp only
      rw [slots.get?_insert]
      by_cases here : id.slot = before.pending.vacant
      · have none := slots.get?_vacant
        rw [if_pos here, here, none]
        by_cases same : id = pending.id
        · rw [if_pos ⟨same, rfl⟩]
          exact Option.filter_some_pos (decide_eq_true same.symm)
        · rw [if_neg fun both => same both.1]
          exact Option.filter_some_neg (decide_eq_false (Ne.symm same))
      · have other : id ≠ pending.id := by
          intro same
          rw [same] at here
          exact here vacant
        rw [if_neg here, if_neg fun both => other both.1]
  | left settled =>
      have gone : result.1 ≠ .pending pending.id := by
        cases settled with
        | closed => nofun
        | connected => nofun
      have same : result.2.pending = before.pending := settled.pending
      unfold ListenerState.pending?
      rw [if_neg fun both => gone both.2, same]

/-- In the slot of a socket nothing is found under another id. -/
theorem pending?_of_slot_eq {state : ListenerState σ} {id other : SocketId}
    {pending : PendingSocket σ} (found : state.pending? id = some pending)
    (slot : other.slot = id.slot) (different : other ≠ id) : state.pending? other = none := by
  obtain ⟨inSlot, same⟩ := pending?_eq_some_iff.mp found
  unfold ListenerState.pending?
  rw [slot, inSlot]
  exact Option.filter_some_neg (decide_eq_false fun also => different (also.symm.trans same))

/-- Nothing is found in the slot of a socket that has left. -/
theorem get?_released (state : ListenerState σ) (slot : Nat) :
    (state.released slot).pending.get? slot = none :=
  (Slab.get?_remove _ _ _).trans (if_pos rfl)

section Step

variable {id : SocketId} {result : SocketOutcome × ListenerState σ}

section Stepped

variable {step : Pipeline σ → Socket → Pipeline σ × Socket} (stepped : Stepped before id step result)

include stepped

/-- After a step an id stands for its socket if the socket is still pending, and for none
otherwise. -/
theorem Stepped.pending?_self :
    result.2.pending? id =
      if result.1 = .pending id then (before.pending? id).map (·.stepped step) else none := by
  cases stepped with
  | unknown absent =>
      rw [if_neg nofun]
      exact absent
  | @held pending found waits =>
      obtain ⟨inSlot, same⟩ := pending?_eq_some_iff.mp found
      rw [if_pos rfl, found, Option.map_some]
      refine pending?_eq_some_iff.mpr ⟨?_, same⟩
      dsimp only
      rw [Slab.get?_modify, if_pos rfl, inSlot]
      rfl
  | left found settled =>
      have gone : result.1 ≠ .pending id := by
        cases settled with
        | closed => nofun
        | connected => nofun
      rw [if_neg gone]
      unfold ListenerState.pending?
      rw [settled.pending, get?_released]
      rfl

/-- Only the socket that moves can be held by a step. -/
theorem Stepped.held_of_pending {other : SocketId} (waits : result.1 = .pending other) :
    other = id ∧ ∃ earlier, before.pending? id = some earlier ∧
      result.2.pending? id = some (earlier.stepped step) := by
  have after := stepped.pending?_self
  cases stepped with
  | unknown => cases waits
  | @held pending found =>
      rw [if_pos rfl, found] at after
      exact ⟨(SocketOutcome.pending.inj waits).symm, pending, found, after⟩
  | left _ settled =>
      cases settled with
      | closed => cases waits
      | connected => cases waits

/-- A step of one socket lets the others be. -/
theorem Stepped.pending?_of_id_ne {other : SocketId} (different : other ≠ id) :
    result.2.pending? other = before.pending? other := by
  by_cases elsewhere : other.slot = id.slot
  · cases stepped with
    | unknown => rfl
    | @held pending found waits =>
        have after := Stepped.pending?_self (.held found waits)
        rw [if_pos rfl, found] at after
        rw [pending?_of_slot_eq after elsewhere different,
          pending?_of_slot_eq found elsewhere different]
    | left found settled =>
        rw [pending?_of_slot_eq found elsewhere different]
        unfold ListenerState.pending?
        rw [elsewhere, settled.pending, get?_released]
        rfl
  · unfold ListenerState.pending?
    rw [stepped.get?_of_ne elsewhere]

end Stepped

/-- A time-out of one socket lets the others be. -/
theorem TimedOut.pending?_of_id_ne (timedOut : TimedOut before id result) {other : SocketId}
    (different : other ≠ id) : result.2.pending? other = before.pending? other := by
  cases timedOut with
  | continued continues stepped => exact stepped.pending?_of_id_ne different
  | closed closes found socket =>
      by_cases elsewhere : other.slot = id.slot
      · rw [pending?_of_slot_eq found elsewhere different]
        unfold ListenerState.pending?
        rw [elsewhere]
        exact congrArg (Option.filter _) (before.timed.get?_released id.slot)
      · exact (TimedOut.closed closes found socket).pending?_of_ne elsewhere

/-- A socket that has run out of time and is still there has passed the filter that held it. -/
theorem TimedOut.advanced (timedOut : TimedOut before id result) (waiting : before.Waiting)
    {later : PendingSocket σ} (found : result.2.pending? id = some later) :
    ∃ earlier, before.pending? id = some earlier ∧ earlier.Advanced 1 later := by
  have heldLater := ((waiting.timedOut timedOut).waits id.slot later
    (pending?_eq_some_iff.mp found).1).held
  cases timedOut with
  | continued continues stepped =>
      rw [stepped.pending?_self] at found
      split at found
      · obtain ⟨earlier, here, rfl⟩ := Option.map_eq_some_iff.mp found
        have there : before.pending? id = some earlier := here
        have held := (waiting.waits id.slot earlier (pending?_eq_some_iff.mp there).1).held
        have onward := Pipeline.onward_resume earlier.socket held
        exact ⟨earlier, there, onward.cursor, onward.stream heldLater⟩
      · cases found
  | closed closes here socket =>
      obtain ⟨inSlot, _⟩ := pending?_eq_some_iff.mp found
      exact absurd (inSlot.symm.trans (before.timed.get?_released id.slot)) nofun

end Step

/-- Time-outs let the sockets be that have time left. -/
theorem Polled.pending?_of_not_mem {ids : List SocketId}
    {result : List (SocketId × SocketOutcome) × ListenerState σ} (polled : Polled before ids result)
    {id : SocketId} (elsewhere : id ∉ ids) : result.2.pending? id = before.pending? id := by
  induction polled with
  | done => rfl
  | next timedOut rest inductionHypothesis =>
      rw [List.mem_cons, not_or] at elsewhere
      rw [inductionHypothesis elsewhere.2]
      exact timedOut.pending?_of_id_ne elsewhere.1

theorem Polled.ids_eq {ids : List SocketId}
    {result : List (SocketId × SocketOutcome) × ListenerState σ}
    (polled : Polled before ids result) : result.1.map (·.1) = ids := by
  induction polled with
  | done => rfl
  | next timedOut rest inductionHypothesis => exact congrArg _ inductionHypothesis

theorem Polled.advanced {ids : List SocketId}
    {result : List (SocketId × SocketOutcome) × ListenerState σ} (polled : Polled before ids result)
    (waiting : before.Waiting) (distinct : ids.Nodup) {id : SocketId} (listed : id ∈ ids)
    {later : PendingSocket σ} (found : result.2.pending? id = some later) :
    ∃ earlier, before.pending? id = some earlier ∧ earlier.Advanced 1 later := by
  induction polled with
  | done => cases listed
  | next timedOut rest inductionHypothesis =>
      rw [List.nodup_cons] at distinct
      rcases List.mem_cons.mp listed with rfl | others
      · rw [rest.pending?_of_not_mem distinct.1] at found
        exact timedOut.advanced waiting found
      · obtain ⟨earlier, here, advanced⟩ :=
          inductionHypothesis (waiting.timedOut timedOut) distinct.2 others found
        rw [timedOut.pending?_of_id_ne (ne_of_mem_of_not_mem others distinct.1)] at here
        exact ⟨earlier, here, advanced⟩

/-! ## Other operations -/

section Still

variable {state : ListenerState σ} (housed : state.Housed) {operation : Operation}

include housed

theorem Housed.serials_step (operation : Operation) :
    state.nextSerial ≤ (state.step operation).nextSerial :=
  ((housed.effect operation).inherits housed).serials

/-- Sockets do not notice what is done to chains and connections. -/
theorem Housed.pending_step (still : operation.shelves = true ∨ operation = .clear) :
    (state.step operation).pending = state.pending := by
  rcases still with shelves | rfl
  · rw [(housed.tracking.shelved_step housed.distinct shelves).frame]
  · obtain ⟨connections, cleared⟩ := state.clearParked_frame
    exact congrArg (·.pending) cleared

end Still

end ListenerState

end Admission.Listener
