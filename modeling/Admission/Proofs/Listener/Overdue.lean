import Admission.Proofs.Listener.Accounting
import Admission.Proofs.Listener.Calls
import Admission.Proofs.Listener.Conclusion
import Admission.Proofs.Listener.Naming
import Admission.Proofs.Listener.Progress

/-!
Contract: what a poll leaves of the sockets that have run out of time.

A deadline is set once, at the acceptance. A listener that closes sockets at their deadline is done
with them after one poll. One that lets them go on passes the filter that holds a socket; where a
further filter holds it again, the socket stays with the deadline that it has missed.

Owns:
- `pending?_pollTimeouts`, what an id stands for after a poll;
- `detained`, the sockets that a poll leaves overdue, with `lapses` and `detentions` of a run;
- `Counted`, the balance of the two with the counter of time-outs, and `timeouts_settled`.
-/

namespace Admission.Listener

/-! ## Filters of a pipeline -/

namespace Pipeline

variable {σ : Type} (pipeline : Pipeline σ) (socket : Socket)

private theorem length_iterate :
    (pipeline.iterate socket).1.filters.length = pipeline.filters.length :=
  (pipeline.runs_iterate socket).length

private theorem length_resume (success : Bool) :
    (pipeline.resume socket success).1.filters.length = pipeline.filters.length := by
  unfold resume
  split
  · rfl
  · split
    · exact pipeline.advance.length_iterate socket
    · rfl

private theorem length_onData (data : List UInt8) :
    (pipeline.onData socket data).1.filters.length = pipeline.filters.length := by
  unfold onData
  split
  · rfl
  · split
    · split
      · exact pipeline.advance.length_iterate socket
      · rfl
    · rename_i filter found
      dsimp only
      have remembers := pipeline.length_remember (filter.onData filter.memory socket data).memory
      split
      · exact remembers
      · split
        · exact remembers
        · exact (length_iterate _ _).trans remembers

/-- No step goes back. -/
theorem cursor_le_resume (success : Bool) :
    pipeline.cursor ≤ (pipeline.resume socket success).1.cursor := by
  cases success with
  | true =>
      by_cases held : pipeline.state = .suspended
      · exact Nat.le_of_succ_le (onward_resume socket held).cursor
      · unfold resume
        rw [if_pos held]
  | false =>
      unfold resume
      split
      · exact Nat.le_refl _
      · exact Nat.le_refl _

end Pipeline

/-! ## One socket -/

namespace PendingSocket

variable {σ : Type}

/-- The time of a socket is up. -/
def isOverdue (pending : PendingSocket σ) (now : Nat) : Bool :=
  pending.deadline.any (· ≤ now)

private theorem isOverdue_iff {pending : PendingSocket σ} {now : Nat} :
    pending.isOverdue now = true ↔ ∃ deadline, pending.deadline = some deadline ∧ deadline ≤ now := by
  unfold isOverdue
  rw [Option.any_eq_true_iff_get]
  cases pending.deadline with
  | none => simp
  | some deadline => simp

/-- A socket behind the filter that held it, as far as the next filters let it go. -/
def passed (pending : PendingSocket σ) : PendingSocket σ :=
  pending.stepped fun pipeline socket => pipeline.resume socket true

/-- A poll leaves the socket overdue: it goes on, and a further filter holds it. -/
def isDetained (pending : PendingSocket σ) (continues : Bool) (now : Nat) : Bool :=
  pending.isOverdue now && continues && decide (pending.passed.pipeline.state = .suspended)

/-- What is in listener filters of a socket after a poll. -/
def polled (pending : PendingSocket σ) (continues : Bool) (now : Nat) : Option (PendingSocket σ) :=
  if pending.isDetained continues now then some pending.passed
  else if pending.isOverdue now then none
  else some pending

private theorem isDetained_iff {pending : PendingSocket σ} {continues : Bool} {now : Nat} :
    pending.isDetained continues now = true ↔ pending.isOverdue now = true ∧ continues = true ∧
      pending.passed.pipeline.state = .suspended := by
  unfold isDetained
  rw [Bool.and_eq_true, Bool.and_eq_true, decide_eq_true_eq, and_assoc]

private theorem isOverdue_passed (pending : PendingSocket σ) (now : Nat) :
    pending.passed.isOverdue now = pending.isOverdue now := rfl

/-- Only a socket that the poll detains is overdue after it. -/
theorem isOverdue_of_polled {pending later : PendingSocket σ} {continues : Bool} {now : Nat}
    (kept : pending.polled continues now = some later) :
    later.isOverdue now = pending.isDetained continues now := by
  unfold polled at kept
  split at kept
  · rename_i detained
    rw [← Option.some.inj kept, isOverdue_passed, detained]
    exact (isDetained_iff.mp detained).1
  · rename_i free
    split at kept
    · cases kept
    · rename_i inTime
      rw [← Option.some.inj kept, Bool.eq_false_iff.mpr inTime, Bool.eq_false_iff.mpr free]

/-- The same filters, and not fewer of them are passed. -/
structure Reaches (earlier later : PendingSocket σ) : Prop where
  cursor : earlier.pipeline.cursor ≤ later.pipeline.cursor
  filters : later.pipeline.filters.length = earlier.pipeline.filters.length

private theorem reaches_resume (pending : PendingSocket σ) (success : Bool) :
    pending.Reaches (pending.stepped fun pipeline socket => pipeline.resume socket success) :=
  ⟨pending.pipeline.cursor_le_resume _ success, pending.pipeline.length_resume _ success⟩

private theorem reaches_onData (pending : PendingSocket σ) (bytes : List UInt8) :
    pending.Reaches (pending.stepped fun pipeline socket => pipeline.onData socket bytes) :=
  ⟨(pending.pipeline.onward_onData _ bytes).cursor, pending.pipeline.length_onData _ bytes⟩

end PendingSocket

namespace ListenerState

variable {σ : Type} {state : ListenerState σ}

/-! ## Time-outs -/

/-- A socket stays in listener filters exactly if its pipeline does not come to an end. -/
theorem stepPending_eq_pending_iff {id : SocketId} {pending : PendingSocket σ}
    (found : state.pending? id = some pending)
    (step : Pipeline σ → Socket → Pipeline σ × Socket) :
    (state.stepPending id step).1 = .pending id ↔
      (pending.stepped step).pipeline.state = .suspended ∨
        (pending.stepped step).pipeline.state = .running := by
  rw [state.stepPending_of_found found]
  constructor
  · intro waits
    split at waits
    · rename_i goesOn
      exact goesOn
    · have settled := (state.released id.slot).settled_finish (pending.stepped step)
      generalize (state.released id.slot).finish _ = result at settled waits
      cases settled with
      | closed => cases waits
      | connected => cases waits
  · intro goesOn
    rw [if_pos goesOn]

/-- After its time-out a socket is in listener filters only if it goes on and is held again. -/
theorem Waiting.pending?_timeOut (waiting : state.Waiting) {id : SocketId}
    {pending : PendingSocket σ} (found : state.pending? id = some pending) :
    (state.timeOut id).2.pending? id =
      if state.config.continueOnTimeout ∧ pending.passed.pipeline.state = .suspended then
        some pending.passed
      else none := by
  cases continues : state.config.continueOnTimeout with
  | false =>
      have timedOut := waiting.timedOut_timeOut found
      rw [if_neg fun both => absurd both.1 Bool.false_ne_true]
      generalize state.timeOut id = result at timedOut
      cases timedOut with
      | continued goesOn _ => exact absurd (goesOn.symm.trans continues) (by decide)
      | closed _ _ _ =>
          exact congrArg (Option.filter _) (state.timed.get?_released id.slot)
  | true =>
      have here : state.timed.pending? id = some pending := found
      have stepped := state.timed.stepped_stepPending id fun pipeline socket =>
        pipeline.resume socket true
      have stays := state.timed.stepPending_eq_pending_iff here fun pipeline socket =>
        pipeline.resume socket true
      have stopped := (waiting.waits _ _ (pending?_eq_some_iff.mp found).1).stopped.resume
        pending.socket true
      rw [timeOut_of_continue continues, stepped.pending?_self, here, Option.map_some]
      by_cases held : pending.passed.pipeline.state = .suspended
      · rw [if_pos (stays.mpr (.inl held)), if_pos ⟨rfl, held⟩]
        rfl
      · have leaves := fun waits => held ((stays.mp waits).resolve_right stopped.rests)
        rw [if_neg leaves, if_neg fun both => held both.2]

section Clock

variable {id : SocketId} {result : SocketOutcome × ListenerState σ}

/-- Neither the settings nor the counter of time-outs change when a socket leaves. -/
theorem Settled.clock {pending : PendingSocket σ} (settled : Settled state pending result) :
    result.2.config = state.config ∧
      result.2.stats.pendingTimeouts = state.stats.pendingTimeouts := by
  cases settled with
  | closed _ _ tally =>
      rw [tally.frame]
      exact ⟨rfl, rfl⟩
  | connected => exact ⟨rfl, rfl⟩

private theorem Stepped.clock {step : Pipeline σ → Socket → Pipeline σ × Socket}
    (stepped : Stepped state id step result) :
    result.2.config = state.config ∧
      result.2.stats.pendingTimeouts = state.stats.pendingTimeouts := by
  cases stepped with
  | unknown => exact ⟨rfl, rfl⟩
  | held => exact ⟨rfl, rfl⟩
  | left _ settled => exact settled.clock

private theorem Arrived.clock {pending : PendingSocket σ} (arrived : Arrived state pending result) :
    result.2.stats.pendingTimeouts = state.stats.pendingTimeouts := by
  cases arrived with
  | held => rfl
  | left settled => exact settled.clock.2

/-- A time-out is counted. -/
theorem TimedOut.clock (timedOut : TimedOut state id result) :
    result.2.config = state.config ∧
      result.2.stats.pendingTimeouts = state.stats.pendingTimeouts + 1 := by
  cases timedOut with
  | continued _ stepped => exact stepped.clock
  | closed => exact ⟨rfl, rfl⟩

end Clock

private theorem Polled.clock {ids : List SocketId}
    {result : List (SocketId × SocketOutcome) × ListenerState σ} (polled : Polled state ids result) :
    result.2.stats.pendingTimeouts = state.stats.pendingTimeouts + ids.length := by
  induction polled with
  | done => rfl
  | next timedOut _ inductionHypothesis =>
      rw [inductionHypothesis, timedOut.clock.2, List.length_cons]
      omega

/-! ## Polls -/

/-- What the ids stand for after time-outs one after another. -/
theorem Waiting.pending?_timeOutAll (waiting : state.Waiting) {ids : List SocketId}
    (present : ∀ id ∈ ids, (state.pending? id).isSome) (distinct : (ids.map (·.slot)).Nodup)
    (id : SocketId) :
    (state.timeOutAll ids).2.pending? id =
      if id ∈ ids then (state.pending? id).bind fun pending =>
        if state.config.continueOnTimeout ∧ pending.passed.pipeline.state = .suspended then
          some pending.passed
        else none
      else state.pending? id := by
  have ends := waiting.timeOutAll_rec (motive := fun state ids => ids.Nodup → ∀ id,
    (state.timeOutAll ids).2.pending? id =
      if id ∈ ids then (state.pending? id).bind fun pending =>
        if state.config.continueOnTimeout ∧ pending.passed.pipeline.state = .suspended then
          some pending.passed
        else none
      else state.pending? id) ?_ ?_ present distinct
  · exact ends (distinct.of_map _) id
  · intro state _ id
    rw [if_neg List.not_mem_nil]
    rfl
  · intro state first rest pending waiting found inductionHypothesis distinct id
    rw [List.nodup_cons] at distinct
    have timedOut := waiting.timedOut_timeOut found
    show ((state.timeOut first).2.timeOutAll rest).2.pending? id = _
    rw [inductionHypothesis distinct.2 id, timedOut.clock.1]
    by_cases here : id = first
    · rw [here, if_neg distinct.1, if_pos List.mem_cons_self, found,
        waiting.pending?_timeOut found]
      rfl
    · rw [timedOut.pending?_of_id_ne here]
      simp only [List.mem_cons, here, false_or]

/-- The ids of the sockets that meet a condition, by slot. -/
theorem Waiting.mem_ids_iff (waiting : state.Waiting) (meets : PendingSocket σ → Bool)
    {id : SocketId} :
    id ∈ (state.pending.values.filter meets).map (·.id) ↔
      ∃ pending, state.pending? id = some pending ∧ meets pending = true := by
  rw [List.mem_map]
  constructor
  · rintro ⟨pending, listed, rfl⟩
    obtain ⟨there, holds⟩ := List.mem_filter.mp listed
    obtain ⟨slot, found⟩ := Slab.mem_values_iff.mp there
    have placed := (waiting.waits slot pending found).placed
    rw [← placed] at found
    exact ⟨pending, pending?_eq_some_iff.mpr ⟨found, rfl⟩, holds⟩
  · rintro ⟨pending, found, holds⟩
    obtain ⟨inSlot, same⟩ := pending?_eq_some_iff.mp found
    have there := Slab.mem_values_iff.mpr ⟨id.slot, inSlot⟩
    exact ⟨pending, List.mem_filter.mpr ⟨there, holds⟩, same⟩

/-- Each id is listed once. -/
theorem Waiting.count_ids (waiting : state.Waiting) (meets : PendingSocket σ → Bool)
    (id : SocketId) :
    ((state.pending.values.filter meets).map (·.id)).count id =
      if (state.pending? id).any meets then 1 else 0 := by
  have placed : ∀ slot pending, state.pending.get? slot = some pending → pending.id.slot = slot :=
    fun slot pending found => (waiting.waits slot pending found).placed
  have slots : ((state.pending.values.map (·.id)).map (·.slot)).Nodup := by
    rw [List.map_map]
    exact Slab.values_nodup state.pending (·.id.slot) placed
  have distinct := (slots.of_map _).sublist ((List.filter_sublist (p := meets)).map (·.id))
  rw [distinct.count]
  refine if_congr ?_ rfl rfl
  rw [waiting.mem_ids_iff, Option.any_eq_true]

private theorem Waiting.mem_expired_iff (waiting : state.Waiting) {now : Nat} {id : SocketId} :
    id ∈ state.expired now ↔
      ∃ pending, state.pending? id = some pending ∧ pending.isOverdue now = true :=
  waiting.mem_ids_iff (·.isOverdue now)

/-- The sockets that a poll leaves overdue, by slot. -/
def detained (state : ListenerState σ) (now : Nat) : List SocketId :=
  (state.pending.values.filter (·.isDetained state.config.continueOnTimeout now)).map (·.id)

private theorem Waiting.mem_detained_iff (waiting : state.Waiting) {now : Nat} {id : SocketId} :
    id ∈ state.detained now ↔ ∃ pending, state.pending? id = some pending ∧
      pending.isDetained state.config.continueOnTimeout now = true :=
  waiting.mem_ids_iff _

/-- What an id stands for after a poll. -/
theorem Waiting.pending?_pollTimeouts (waiting : state.Waiting) (now : Nat) (id : SocketId) :
    (state.pollTimeouts now).2.pending? id =
      (state.pending? id).bind (·.polled state.config.continueOnTimeout now) := by
  obtain ⟨present, distinct⟩ := waiting.expired_present now
  refine (waiting.pending?_timeOutAll present distinct id).trans ?_
  cases found : state.pending? id with
  | none =>
      split
      · rfl
      · rfl
  | some pending =>
      have listed : id ∈ state.expired now ↔ pending.isOverdue now = true := by
        rw [waiting.mem_expired_iff, found]
        simp
      rw [Option.bind_some, Option.bind_some]
      unfold PendingSocket.polled PendingSocket.isDetained
      by_cases overdue : pending.isOverdue now = true
      · rw [if_pos (listed.mpr overdue), overdue]
        simp
      · rw [if_neg fun late => overdue (listed.mp late), Bool.eq_false_iff.mpr overdue]
        rfl

/-- Overdue after a poll are the sockets that it detains. -/
theorem Waiting.expired_pollTimeouts (waiting : state.Waiting) (now : Nat) (id : SocketId) :
    id ∈ (state.pollTimeouts now).2.expired now ↔ id ∈ state.detained now := by
  have after := waiting.polled (waiting.polled_pollTimeouts now)
  rw [after.mem_expired_iff, waiting.mem_detained_iff, waiting.pending?_pollTimeouts now id]
  constructor
  · rintro ⟨later, kept, overdue⟩
    obtain ⟨earlier, found, stays⟩ := Option.bind_eq_some_iff.mp kept
    rw [PendingSocket.isOverdue_of_polled stays] at overdue
    exact ⟨earlier, found, overdue⟩
  · rintro ⟨earlier, found, detained⟩
    have stays : earlier.polled state.config.continueOnTimeout now = some earlier.passed := by
      unfold PendingSocket.polled
      rw [if_pos detained]
    rw [found]
    exact ⟨earlier.passed, stays, (PendingSocket.isOverdue_of_polled stays).trans detained⟩

/-- The next time-out has come exactly if some socket is overdue. -/
theorem nextTimeout_le_iff (state : ListenerState σ) (now : Nat) :
    (∃ time, state.nextTimeout = some time ∧ time ≤ now) ↔ state.expired now ≠ [] := by
  have early : (∃ time, state.nextTimeout = some time ∧ time ≤ now) ↔
      ∃ time ∈ state.pending.values.filterMap (·.deadline), time ≤ now := by
    unfold nextTimeout
    constructor
    · rintro ⟨time, least, due⟩
      exact ⟨time, (List.min?_eq_some_iff.mp least).1, due⟩
    · rintro ⟨time, listed, due⟩
      cases least : (state.pending.values.filterMap (·.deadline)).min? with
      | none =>
          rw [List.min?_eq_none_iff.mp least] at listed
          cases listed
      | some first =>
          exact ⟨first, rfl, Nat.le_trans ((List.min?_eq_some_iff.mp least).2 time listed) due⟩
  rw [early]
  unfold expired
  rw [Ne, List.map_eq_nil_iff, List.filter_eq_nil_iff]
  constructor
  · rintro ⟨time, listed, due⟩ none
    obtain ⟨pending, there, deadline⟩ := List.mem_filterMap.mp listed
    exact none pending there (PendingSocket.isOverdue_iff.mpr ⟨time, deadline, due⟩)
  · intro some
    push Not at some
    obtain ⟨pending, there, overdue⟩ := some
    obtain ⟨time, deadline, due⟩ := PendingSocket.isOverdue_iff.mp overdue
    exact ⟨time, List.mem_filterMap.mpr ⟨pending, there, deadline⟩, due⟩

/-! ## Runs -/

/-- The sockets whose time an operation finds to be up. -/
def lapsing (state : ListenerState σ) : Operation → List SocketId
  | .poll now => state.expired now
  | _ => []

/-- The sockets that an operation leaves in listener filters although it found their time to be
up. -/
def detaining (state : ListenerState σ) : Operation → List SocketId
  | .poll now => state.detained now
  | _ => []

private theorem lapsing_of_ne {operation : Operation} (other : ∀ now, operation ≠ .poll now)
    (state : ListenerState σ) : state.lapsing operation = [] ∧ state.detaining operation = [] := by
  cases operation with
  | poll now => exact absurd rfl (other now)
  | _ => exact ⟨rfl, rfl⟩

/-- The time-outs of a run, in order, each with the socket that ran out of time. -/
def lapses (config : ListenerConfig σ) (carrier : Carrier) (operations : List Operation) :
    List SocketId :=
  (ListenerState.new config carrier).collect lapsing operations

/-- The time-outs of a run that left the socket in listener filters. -/
def detentions (config : ListenerConfig σ) (carrier : Carrier) (operations : List Operation) :
    List SocketId :=
  (ListenerState.new config carrier).collect detaining operations

/-- Where a socket comes from that is in listener filters after a step. -/
theorem Stepped.origin {id other : SocketId} {step : Pipeline σ → Socket → Pipeline σ × Socket}
    {result : SocketOutcome × ListenerState σ} (stepped : Stepped state id step result)
    (reaches : ∀ pending : PendingSocket σ, pending.Reaches (pending.stepped step))
    {later : PendingSocket σ} (found : result.2.pending? other = some later) :
    ∃ earlier, state.pending? other = some earlier ∧ earlier.Reaches later := by
  by_cases same : other = id
  · rw [same, stepped.pending?_self] at found
    split at found
    · obtain ⟨earlier, here, rfl⟩ := Option.map_eq_some_iff.mp found
      exact ⟨earlier, same ▸ here, reaches earlier⟩
    · cases found
  · rw [stepped.pending?_of_id_ne same] at found
    exact ⟨later, found, Nat.le_refl _, rfl⟩

private theorem origin_setOpen (state : ListenerState σ) (changed : SocketId) (isOpen : Bool)
    {id : SocketId} {later : PendingSocket σ}
    (found : (state.setOpen changed isOpen).pending? id = some later) :
    ∃ earlier, state.pending? id = some earlier ∧ earlier.Reaches later := by
  have effect := state.effect_setOpen changed isOpen
  generalize state.setOpen changed isOpen = after at effect found
  cases effect with
  | shelved shelves _ => cases shelves
  | opened change keeps =>
      obtain ⟨inSlot, same⟩ := pending?_eq_some_iff.mp found
      dsimp only at inSlot
      rw [Slab.get?_modify] at inSlot
      split at inSlot
      · obtain ⟨earlier, here, rfl⟩ := Option.map_eq_some_iff.mp inSlot
        rw [keeps earlier] at same ⊢
        exact ⟨earlier, pending?_eq_some_iff.mpr ⟨here, same⟩, Nat.le_refl _, rfl⟩
      · exact ⟨later, pending?_eq_some_iff.mpr ⟨inSlot, same⟩, Nat.le_refl _, rfl⟩

/-- No socket is in listener filters after a shutdown. -/
theorem Housed.pending?_shutdown (housed : state.Housed) (id : SocketId) :
    state.shutdown.pending? id = none := by
  have effect := housed.effect_shutdown
  generalize state.shutdown = after at effect
  cases effect with
  | shelved shelves _ => cases shelves
  | ended shelved gone =>
      unfold ListenerState.pending?
      rw [shelved.frame]
      rfl

/-- A socket that is in listener filters after an operation that is no poll is new, or it was there
before and has not gone back. -/
theorem Housed.origin (housed : state.Housed) {operation : Operation}
    (other : ∀ now, operation ≠ .poll now) {id : SocketId} {later : PendingSocket σ}
    (found : (state.step operation).pending? id = some later) :
    (id.serial = state.nextSerial ∧
        later.pipeline.filters.length = state.config.filters.length) ∨
      ∃ earlier, state.pending? id = some earlier ∧ earlier.Reaches later := by
  have still (same : (state.step operation).pending = state.pending) :
      ∃ earlier, state.pending? id = some earlier ∧ earlier.Reaches later := by
    unfold ListenerState.pending? at found
    rw [same] at found
    exact ⟨later, found, Nat.le_refl _, rfl⟩
  cases operation with
  | accept socket now =>
      have arrived := state.arrived_accept socket now
      have after := arrived.pending? housed.waiting.slots rfl id
      rw [show (state.step (.accept socket now)).pending? id = _ from after] at found
      split at found
      · rename_i new
        rw [← Option.some.inj found]
        exact .inl ⟨by rw [new.1]; rfl, Pipeline.length_iterate _ socket⟩
      · exact .inr ⟨later, found, Nat.le_refl _, rfl⟩
  | data id bytes =>
      exact .inr ((state.stepped_stepPending id _).origin (·.reaches_onData bytes) found)
  | resume id success =>
      exact .inr ((state.stepped_stepPending id _).origin (·.reaches_resume success) found)
  | poll now => exact absurd rfl (other now)
  | setOpen changed isOpen => exact .inr (state.origin_setOpen changed isOpen found)
  | shutdown => exact absurd (found.symm.trans (housed.pending?_shutdown id)) nofun
  | clear => exact .inr (still (housed.pending_step (.inr rfl)))
  | _ => exact .inr (still (housed.pending_step (.inl rfl)))

/-- Only polls count time-outs. -/
theorem Effect.pendingTimeouts {operation : Operation} {outcomes : List SocketOutcome}
    {after : ListenerState σ} (effect : Effect state operation outcomes after)
    (other : ∀ now, operation ≠ .poll now) :
    after.stats.pendingTimeouts = state.stats.pendingTimeouts := by
  cases effect with
  | shelved _ shelved => rw [shelved.frame]
  | arrived arrived => exact arrived.clock
  | stepped _ _ stepped => exact stepped.clock.2
  | @polled now _ _ _ polled => exact absurd rfl (other now)
  | opened => rfl
  | ended shelved =>
      rw [shelved.frame]
      rfl
  | cleared => rfl

/-- How often one socket has run out of time, and how often it was still in listener filters then. -/
structure Tallied (width : Nat) (pending : Option (PendingSocket σ)) (lapsed detained : Nat) :
    Prop where
  /-- A socket that is still there was detained every time, behind another filter each time. -/
  present : ∀ socket ∈ pending, lapsed = detained ∧ detained ≤ socket.pipeline.cursor
  filters : ∀ socket ∈ pending, socket.pipeline.filters.length = width
  once : detained ≤ lapsed ∧ lapsed ≤ detained + 1
  bounded : detained ≤ width - 1

namespace Tallied

variable {width lapsed detained : Nat} {earlier later : PendingSocket σ}

private theorem gone (once : detained ≤ lapsed ∧ lapsed ≤ detained + 1)
    (bounded : detained ≤ width - 1) :
    Tallied width (none : Option (PendingSocket σ)) lapsed detained :=
  ⟨fun _ none => absurd none (Option.not_mem_none _),
    fun _ none => absurd none (Option.not_mem_none _), once, bounded⟩

private theorem fresh (new : later.pipeline.filters.length = width) :
    Tallied width (some later) 0 0 where
  present := fun _ _ => ⟨rfl, Nat.zero_le _⟩
  filters := fun _ same => Option.some.inj same ▸ new
  once := ⟨Nat.le_refl _, Nat.zero_le _⟩
  bounded := Nat.zero_le _

private theorem reaches (tallied : Tallied width (some earlier) lapsed detained)
    (reaches : earlier.Reaches later) : Tallied width (some later) lapsed detained where
  present := by
    rintro _ ⟨⟩
    obtain ⟨same, behind⟩ := tallied.present earlier rfl
    exact ⟨same, Nat.le_trans behind reaches.cursor⟩
  filters := by
    rintro _ ⟨⟩
    exact reaches.filters.trans (tallied.filters earlier rfl)
  once := tallied.once
  bounded := tallied.bounded

/-- A poll counts a socket whose time is up, and the socket leaves unless it is detained. -/
theorem polled (tallied : Tallied width (some earlier) lapsed detained)
    (stopped : earlier.pipeline.Stopped) (held : earlier.pipeline.state = .suspended)
    (continues : Bool) (now : Nat) :
    Tallied width (earlier.polled continues now)
      (lapsed + if earlier.isOverdue now then 1 else 0)
      (detained + if earlier.isDetained continues now then 1 else 0) := by
  obtain ⟨same, behind⟩ := tallied.present earlier rfl
  have length := tallied.filters earlier rfl
  unfold PendingSocket.polled
  by_cases stays : earlier.isDetained continues now = true
  · obtain ⟨overdue, _, again⟩ := PendingSocket.isDetained_iff.mp stays
    have further : earlier.pipeline.cursor + 1 ≤ earlier.passed.pipeline.cursor :=
      (Pipeline.onward_resume earlier.socket held).cursor
    have sameFilters : earlier.passed.pipeline.filters.length = width :=
      (earlier.reaches_resume true).filters.trans length
    have inside : earlier.passed.pipeline.cursor < earlier.passed.pipeline.filters.length :=
      (stopped.resume earlier.socket true).held again
    rw [if_pos stays, if_pos overdue, if_pos stays]
    refine ⟨?_, ?_, by omega, by omega⟩
    · rintro _ ⟨⟩
      exact ⟨by omega, by omega⟩
    · rintro _ ⟨⟩
      exact sameFilters
  · by_cases overdue : earlier.isOverdue now = true
    · rw [if_neg stays, if_pos overdue, if_pos overdue, if_neg stays]
      exact gone ⟨by omega, by omega⟩ tallied.bounded
    · rw [if_neg stays, if_neg overdue, if_neg overdue, if_neg stays]
      exact tallied

end Tallied

/-- What a run has counted of the sockets that ran out of time. -/
structure Counted (config : ListenerConfig σ) (state : ListenerState σ)
    (lapsed detained : List SocketId) : Prop where
  timeouts : state.stats.pendingTimeouts = lapsed.length
  drawn : ∀ id ∈ lapsed, id.serial < state.nextSerial
  sockets : ∀ id, Tallied config.filters.length (state.pending? id) (lapsed.count id)
    (detained.count id)
  continues : ∀ id ∈ detained, config.continueOnTimeout = true

section Counted

variable {config : ListenerConfig σ} {lapsed detained : List SocketId}

private theorem counted_new (config : ListenerConfig σ) (carrier : Carrier) :
    Counted config (ListenerState.new config carrier) [] [] where
  timeouts := rfl
  drawn := fun _ none => absurd none List.not_mem_nil
  sockets := fun _ => .gone ⟨Nat.le_refl _, Nat.zero_le _⟩ (Nat.zero_le _)
  continues := fun _ none => absurd none List.not_mem_nil

/-- Without a poll nothing is counted, and no socket goes back. -/
theorem Counted.untimed (counted : Counted config state lapsed detained) (housed : state.Housed)
    (configured : state.config = config) {operation : Operation}
    (other : ∀ now, operation ≠ .poll now) :
    Counted config (state.step operation) lapsed detained := by
  refine ⟨?_, ?_, ?_, counted.continues⟩
  · rw [(housed.effect operation).pendingTimeouts other]
    exact counted.timeouts
  · intro id listed
    exact Nat.lt_of_lt_of_le (counted.drawn id listed) (housed.serials_step operation)
  · intro id
    have tallied := counted.sockets id
    cases found : (state.step operation).pending? id with
    | none => exact .gone tallied.once tallied.bounded
    | some later =>
        rcases housed.origin other found with ⟨new, filters⟩ | ⟨earlier, here, reaches⟩
        · have unlisted : id ∉ lapsed := fun listed =>
            absurd (counted.drawn id listed) (by rw [new]; exact Nat.lt_irrefl _)
          have never := List.count_eq_zero_of_not_mem unlisted
          have fewer := tallied.once.1
          rw [never] at fewer ⊢
          rw [Nat.le_zero.mp fewer]
          rw [configured] at filters
          exact .fresh filters
        · rw [here] at tallied
          exact tallied.reaches reaches

private theorem Counted.polled (counted : Counted config state lapsed detained)
    (housed : state.Housed) (numbered : state.Numbered) (configured : state.config = config)
    (now : Nat) :
    Counted config (state.step (.poll now)) (lapsed ++ state.expired now)
      (detained ++ state.detained now) := by
  have waiting := housed.waiting
  refine ⟨?_, ?_, ?_, ?_⟩
  · show (state.pollTimeouts now).2.stats.pendingTimeouts = _
    rw [(waiting.polled_pollTimeouts now).clock, counted.timeouts, List.length_append]
  · intro id listed
    refine Nat.lt_of_lt_of_le ?_ (housed.serials_step (.poll now))
    rcases List.mem_append.mp listed with earlier | late
    · exact counted.drawn id earlier
    · obtain ⟨pending, found, _⟩ := waiting.mem_expired_iff.mp late
      exact numbered.socket_lt found
  · intro id
    have tallied := counted.sockets id
    have lapses : (state.expired now).count id = _ := waiting.count_ids (·.isOverdue now) id
    have detentions : (state.detained now).count id = _ := waiting.count_ids _ id
    show Tallied _ ((state.pollTimeouts now).2.pending? id) _ _
    rw [waiting.pending?_pollTimeouts now id, List.count_append, List.count_append, lapses,
      detentions]
    cases found : state.pending? id with
    | none =>
        rw [found] at tallied
        exact tallied
    | some earlier =>
        rw [found] at tallied
        have waits := waiting.waits _ _ (pending?_eq_some_iff.mp found).1
        exact tallied.polled waits.stopped waits.held state.config.continueOnTimeout now
  · intro id listed
    rcases List.mem_append.mp listed with earlier | late
    · exact counted.continues id earlier
    · obtain ⟨pending, found, stays⟩ := waiting.mem_detained_iff.mp late
      rw [← configured]
      exact (PendingSocket.isDetained_iff.mp stays).2.1

theorem counted_ran (config : ListenerConfig σ) (carrier : Carrier)
    (operations : List Operation) :
    Counted config (ran config carrier operations) (lapses config carrier operations)
      (detentions config carrier operations) := by
  induction operations using List.reverseRecOn with
  | nil => exact counted_new config carrier
  | append_singleton operations operation inductionHypothesis =>
      have housed := housed_ran config carrier operations
      have configured := (accounted_ran config carrier operations).configured
      have lapsed : lapses config carrier (operations ++ [operation]) =
          lapses config carrier operations ++ (ran config carrier operations).lapsing operation :=
        collect_concat _ _ operations operation
      have detained : detentions config carrier (operations ++ [operation]) =
          detentions config carrier operations ++
            (ran config carrier operations).detaining operation :=
        collect_concat _ _ operations operation
      rw [ran_concat, lapsed, detained]
      by_cases poll : ∃ now, operation = .poll now
      · obtain ⟨now, rfl⟩ := poll
        exact inductionHypothesis.polled housed (numbered_ran config carrier operations)
          configured now
      · rw [not_exists] at poll
        obtain ⟨noLapse, noDetention⟩ := lapsing_of_ne poll (ran config carrier operations)
        rw [noLapse, noDetention, List.append_nil, List.append_nil]
        exact inductionHypothesis.untimed housed configured poll

/-- Only a listener that lets sockets go on detains any, and only behind its first filter. -/
theorem Counted.none_detained (counted : Counted config state lapsed detained)
    (settles : config.continueOnTimeout = false ∨ config.filters.length ≤ 1) : detained = [] := by
  rw [List.eq_nil_iff_forall_not_mem]
  intro id listed
  rcases settles with closes | single
  · exact absurd ((counted.continues id listed).symm.trans closes) (by decide)
  · have bounded := (counted.sockets id).bounded
    have positive := List.count_pos_iff.mpr listed
    omega

/-- After a poll exactly those sockets are overdue that it detained: the listener lets sockets go on
that ran out of time, their time was up, and behind the filter that was passed over another one holds
them. The next time-out has come then exactly if there is such a socket. Throughout a run the counter
of time-outs counts each socket once for every poll that detained it, and once more at most; while
the socket is in listener filters, it has been counted only by such polls. A socket is detained at
most once for each filter but one, and never by a listener that closes sockets when their time is up
or that has one filter: there a poll settles every time-out, and no socket is counted twice. -/
theorem timeouts_settled (config : ListenerConfig σ) (carrier : Carrier)
    (operations : List Operation) (now : Nat) :
    let before := ran config carrier operations
    let after := ran config carrier (operations ++ [.poll now])
    let lapsed := lapses config carrier operations
    let detained := detentions config carrier operations
    (∀ id, (∃ pending deadline, after.pending? id = some pending ∧
        pending.deadline = some deadline ∧ deadline ≤ now) ↔ id ∈ before.detained now) ∧
      ((∃ time, after.nextTimeout = some time ∧ time ≤ now) ↔ before.detained now ≠ []) ∧
      before.stats.pendingTimeouts = lapsed.length ∧
      (∀ id, detained.count id ≤ config.filters.length - 1 ∧
        lapsed.count id ≤ detained.count id + 1 ∧
        (before.isPending id = true → lapsed.count id = detained.count id)) ∧
      (config.continueOnTimeout = false ∨ config.filters.length ≤ 1 →
        before.detained now = [] ∧ ∀ id, lapsed.count id ≤ 1) := by
  intro before after lapsed detained
  have waiting := (housed_ran config carrier operations).waiting
  have settled := (housed_ran config carrier (operations ++ [.poll now])).waiting
  have counted := counted_ran config carrier operations
  have polled : after = (before.pollTimeouts now).2 := ran_concat config carrier operations _
  have overdue (id : SocketId) : id ∈ after.expired now ↔ id ∈ before.detained now := by
    rw [polled]
    exact waiting.expired_pollTimeouts now id
  refine ⟨?_, ?_, counted.timeouts, ?_, ?_⟩
  · intro id
    rw [← overdue id, settled.mem_expired_iff]
    constructor
    · rintro ⟨pending, deadline, found, set, due⟩
      exact ⟨pending, found, PendingSocket.isOverdue_iff.mpr ⟨deadline, set, due⟩⟩
    · rintro ⟨pending, found, late⟩
      obtain ⟨deadline, set, due⟩ := PendingSocket.isOverdue_iff.mp late
      exact ⟨pending, deadline, found, set, due⟩
  · rw [nextTimeout_le_iff, Ne, Ne, List.eq_nil_iff_forall_not_mem,
      List.eq_nil_iff_forall_not_mem]
    exact not_congr (forall_congr' fun id => not_congr (overdue id))
  · intro id
    have tallied := counted.sockets id
    refine ⟨tallied.bounded, tallied.once.2, ?_⟩
    intro waits
    obtain ⟨pending, found⟩ := Option.isSome_iff_exists.mp waits
    exact (tallied.present pending found).1
  · intro settles
    have next : detentions config carrier (operations ++ [.poll now]) =
        detained ++ before.detained now := collect_concat _ _ operations (.poll now)
    have none := (counted_ran config carrier (operations ++ [.poll now])).none_detained settles
    rw [next, List.append_eq_nil_iff] at none
    refine ⟨none.2, ?_⟩
    intro id
    have once := (counted.sockets id).once.2
    rw [show detentions config carrier operations = [] from none.1] at once
    exact once

end Counted

/-- A listener with two filters that wait for bytes, which lets sockets go on when their time is
up. -/
def forbearing : ListenerConfig Nat :=
  { (ListenerConfig.new "listener" (.internal "here") : ListenerConfig Nat) with
    filterTimeout := 100
    continueOnTimeout := true
    filters := [.plain "first", .plain "second"] }

/-- After its time-out a socket is still in listener filters, its time is up as before, and the next
poll counts it again. -/
theorem overdue_after_poll :
    let arrived : List Operation := [.accept (Socket.between (.internal "here") (.internal "there")) 0]
    let polled := ran forbearing .recorded (arrived ++ [.poll 100])
    let again := ran forbearing .recorded (arrived ++ [.poll 100, .poll 100])
    polled.isPending ⟨0, 1⟩ = true ∧ polled.nextTimeout = some 100 ∧
      again.accepted = 1 ∧ again.stats.pendingTimeouts = 2 ∧
      lapses forbearing .recorded (arrived ++ [.poll 100, .poll 100]) = [⟨0, 1⟩, ⟨0, 1⟩] := by
  decide +kernel

end ListenerState

end Admission.Listener
