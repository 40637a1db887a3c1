import Admission.Proofs.Listener.Sockets

/-!
Contract: the sockets in listener filters.

Owns:
- `Waiting`, that each of them sits in the slot of its id and is held by a filter that it has, and
  what keeps it;
- `TimedOut` and `Polled`, what one time-out and a series of them do, with `polled_pollTimeouts`.
-/

namespace Admission.Listener

open Admission.Chain

/-- A socket is held in a slot by one of its filters, and nothing has been held against it. -/
structure PendingSocket.Waits {σ : Type} (pending : PendingSocket σ) (slot : Nat) : Prop where
  placed : pending.id.slot = slot
  held : pending.pipeline.state = .suspended
  inside : pending.pipeline.cursor < pending.pipeline.filters.length
  unmarked : pending.info.flag = none

theorem PendingSocket.Waits.stopped {σ : Type} {pending : PendingSocket σ} {slot : Nat}
    (waits : pending.Waits slot) : pending.pipeline.Stopped where
  rests := by
    rw [waits.held]
    decide
  held := fun _ => waits.inside

namespace ListenerState

variable {σ : Type} {state : ListenerState σ}

theorem pending?_eq_some_iff {id : SocketId} {pending : PendingSocket σ} :
    state.pending? id = some pending ↔
      state.pending.get? id.slot = some pending ∧ pending.id = id := by
  unfold pending?
  rw [Option.filter_eq_some_iff, decide_eq_true_eq]

/-- Every socket in listener filters is held in the slot of its id. -/
structure Waiting (state : ListenerState σ) : Prop where
  slots : state.pending.Sound
  waits : ∀ slot pending, state.pending.get? slot = some pending → pending.Waits slot

theorem waiting_new (config : ListenerConfig σ) (carrier : Carrier) :
    (ListenerState.new config carrier).Waiting where
  slots := Slab.sound_empty
  waits := fun _ _ none => absurd none (by simp [ListenerState.new])

theorem Waiting.of_pending (waiting : state.Waiting) {after : ListenerState σ}
    (same : after.pending = state.pending) : after.Waiting where
  slots := by
    rw [same]
    exact waiting.slots
  waits := by
    rw [same]
    exact waiting.waits

/-! ## Steps -/

theorem Settled.pending {before : ListenerState σ} {socket : PendingSocket σ}
    {result : SocketOutcome × ListenerState σ} (settled : Settled before socket result) :
    result.2.pending = before.pending := by
  cases settled with
  | closed => rfl
  | connected => rfl

private theorem Waiting.released (waiting : state.Waiting) (slot : Nat) :
    (state.released slot).Waiting where
  slots := waiting.slots.remove slot
  waits := by
    intro other pending found
    unfold ListenerState.released count at found
    dsimp only at found
    rw [Slab.get?_remove] at found
    split at found
    · exact absurd found (by simp)
    · exact waiting.waits other pending found

/-- A socket may be exchanged for one that is held in its slot. -/
theorem Waiting.modify (waiting : state.Waiting) {slot : Nat}
    {change : PendingSocket σ → PendingSocket σ}
    (stays : ∀ pending, state.pending.get? slot = some pending → (change pending).Waits slot) :
    { state with pending := state.pending.modify slot change }.Waiting where
  slots := waiting.slots.modify slot change
  waits := by
    intro other pending found
    dsimp only at found
    rw [Slab.get?_modify] at found
    split at found
    · rename_i here
      obtain ⟨earlier, held, rfl⟩ := Option.map_eq_some_iff.mp found
      rw [here] at held ⊢
      exact stays earlier held
    · exact waiting.waits other pending found

theorem Waiting.arrived (waiting : state.Waiting) {socket : Socket} {now : Nat}
    {result : SocketOutcome × ListenerState σ}
    (arrived : Arrived state (state.arrival socket now) result) : result.2.Waiting := by
  cases arrived with
  | held waits =>
      refine ⟨waiting.slots.insert _, ?_⟩
      intro slot pending found
      unfold count at found
      dsimp only at found
      rw [waiting.slots.get?_insert] at found
      split at found
      · rename_i vacant
        rw [← Option.some.inj found, vacant]
        exact ⟨rfl, waits, (Pipeline.stopped_start _ socket).held waits, rfl⟩
      · exact waiting.waits slot pending found
  | left settled => exact waiting.of_pending settled.pending

theorem Waiting.stepped (waiting : state.Waiting) {id : SocketId}
    {step : Pipeline σ → Socket → Pipeline σ × Socket}
    (stops : ∀ pipeline socket, pipeline.Stopped → (step pipeline socket).1.Stopped)
    {result : SocketOutcome × ListenerState σ} (stepped : Stepped state id step result) :
    result.2.Waiting := by
  cases stepped with
  | unknown => exact waiting
  | @held pending found goesOn =>
      obtain ⟨inSlot, sameId⟩ := pending?_eq_some_iff.mp found
      have before := waiting.waits id.slot pending inSlot
      have stopped := stops pending.pipeline pending.socket before.stopped
      have held := goesOn.resolve_right stopped.rests
      exact waiting.modify fun _ _ => ⟨before.placed, held, stopped.held held, before.unmarked⟩
  | left found settled => exact (waiting.released id.slot).of_pending settled.pending

end ListenerState

namespace ListenerState

variable {σ : Type} {state : ListenerState σ}

/-- A socket that goes on without success is closed. -/
theorem Waiting.resume_false_cases (waiting : state.Waiting) (id : SocketId) :
    (state.continueSocket id false).1 = .unknown ∨ (state.continueSocket id false).1 = .closed := by
  have stepped : Stepped state id (fun pipeline socket => pipeline.resume socket false)
      (state.continueSocket id false) := state.stepped_stepPending id _
  have ends : ∀ pending, state.pending? id = some pending →
      (pending.pipeline.resume pending.socket false).1.state = .terminated := by
    intro pending found
    have held := (waiting.waits id.slot pending (pending?_eq_some_iff.mp found).1).held
    rw [Pipeline.resume_false held]
    rfl
  generalize state.continueSocket id false = result at stepped ⊢
  cases stepped with
  | unknown => exact .inl rfl
  | held found goesOn =>
      rcases goesOn with suspended | running
      · exact absurd ((ends _ found).symm.trans suspended) (by decide)
      · exact absurd ((ends _ found).symm.trans running) (by decide)
  | left found settled =>
      cases settled with
      | closed => exact .inr rfl
      | connected _ _ passed => exact absurd ((ends _ found).symm.trans passed) (by decide)

end ListenerState

/-! ## Time-outs -/

/-- A socket that did not get through the listener filters in time. -/
def PendingSocket.expire {σ : Type} (pending : PendingSocket σ) : PendingSocket σ :=
  { pending with info := pending.info.mark .listenerFilterTimeout "listener_filter_timeout" }

namespace ListenerState

variable {σ : Type} {state : ListenerState σ}

/-- A listener that has counted a time-out. -/
def timed (state : ListenerState σ) : ListenerState σ :=
  state.count fun stats => { stats with pendingTimeouts := stats.pendingTimeouts + 1 }

/-- A socket that runs out of time goes on behind the filter that held it, or it is closed. -/
inductive TimedOut (before : ListenerState σ) (id : SocketId) :
    SocketOutcome × ListenerState σ → Prop
  | continued {result : SocketOutcome × ListenerState σ}
      (continues : before.config.continueOnTimeout = true)
      (stepped : Stepped before.timed id (fun pipeline socket => pipeline.resume socket true)
        result) :
      TimedOut before id result
  /-- It leaves with its mark. -/
  | closed {pending : PendingSocket σ} (closes : before.config.continueOnTimeout = false)
      (found : before.pending? id = some pending) (socket : Socket) :
      TimedOut before id (.closed,
        (before.timed.released id.slot).park (.socket pending.id socket pending.expire.info false))

theorem timeOut_of_continue (continues : state.config.continueOnTimeout = true) (id : SocketId) :
    state.timeOut id =
      state.timed.stepPending id fun pipeline socket => pipeline.resume socket true := by
  unfold timeOut
  rw [continues]
  dsimp only [count]
  rw [Slab.modify_of_fixed _ _ _ fun pending _ => if_pos rfl]
  rfl

private theorem timeOut_of_close (closes : state.config.continueOnTimeout = false) (id : SocketId) :
    state.timeOut id =
      { state.timed with pending := state.pending.modify id.slot PendingSocket.expire }.stepPending
        id fun pipeline socket => pipeline.resume socket false := by
  unfold timeOut
  rw [closes]
  rfl

theorem Waiting.timedOut_timeOut (waiting : state.Waiting) {id : SocketId}
    {pending : PendingSocket σ} (found : state.pending? id = some pending) :
    TimedOut state id (state.timeOut id) := by
  cases continues : state.config.continueOnTimeout with
  | true =>
      rw [timeOut_of_continue continues]
      exact .continued continues (stepped_stepPending _ id _)
  | false =>
      obtain ⟨inSlot, sameId⟩ := pending?_eq_some_iff.mp found
      have held := (waiting.waits id.slot pending inSlot).held
      have ends := Pipeline.resume_false held pending.socket
      have expired : { state.timed with
          pending := state.pending.modify id.slot PendingSocket.expire }.pending? id =
          some pending.expire := by
        refine pending?_eq_some_iff.mpr ⟨?_, sameId⟩
        dsimp only
        rw [Slab.get?_modify, if_pos rfl, inSlot]
        rfl
      rw [timeOut_of_close continues]
      unfold ListenerState.stepPending
      rw [expired]
      dsimp only [PendingSocket.expire]
      rw [ends]
      dsimp only
      rw [if_neg (by simp [Pipeline.enter]), Slab.remove_modify]
      exact .closed continues found _

theorem Waiting.timedOut (waiting : state.Waiting) {id : SocketId}
    {result : SocketOutcome × ListenerState σ} (timedOut : TimedOut state id result) :
    result.2.Waiting := by
  cases timedOut with
  | continued _ stepped =>
      have counted : state.timed.Waiting := waiting.of_pending rfl
      exact counted.stepped (fun _ socket stopped => stopped.resume socket true) stepped
  | closed _ _ _ => exact (waiting.released id.slot).of_pending rfl

/-- A step lets the other slots be. -/
theorem Stepped.get?_of_ne {id : SocketId} {step : Pipeline σ → Socket → Pipeline σ × Socket}
    {result : SocketOutcome × ListenerState σ} (stepped : Stepped state id step result) {slot : Nat}
    (elsewhere : slot ≠ id.slot) : result.2.pending.get? slot = state.pending.get? slot := by
  cases stepped with
  | unknown => rfl
  | held =>
      refine (Slab.get?_modify _ _ _ _).trans ?_
      rw [if_neg elsewhere]
  | left _ settled =>
      rw [settled.pending]
      refine (Slab.get?_remove _ _ _).trans ?_
      rw [if_neg elsewhere]

/-- A time-out lets the other slots be. -/
theorem TimedOut.get?_of_ne {id : SocketId} {result : SocketOutcome × ListenerState σ}
    (timedOut : TimedOut state id result) {slot : Nat} (elsewhere : slot ≠ id.slot) :
    result.2.pending.get? slot = state.pending.get? slot := by
  cases timedOut with
  | continued _ stepped => exact stepped.get?_of_ne elsewhere
  | closed _ _ _ =>
      refine (Slab.get?_remove _ _ _).trans ?_
      rw [if_neg elsewhere]
      rfl

theorem TimedOut.pending?_of_ne {id other : SocketId} {result : SocketOutcome × ListenerState σ}
    (timedOut : TimedOut state id result) (elsewhere : other.slot ≠ id.slot) :
    result.2.pending? other = state.pending? other := by
  unfold pending?
  rw [timedOut.get?_of_ne elsewhere]

/-- Sockets run out of time one after another, each while it is in listener filters. -/
inductive Polled : ListenerState σ → List SocketId →
    List (SocketId × SocketOutcome) × ListenerState σ → Prop
  | done (state : ListenerState σ) : Polled state [] ([], state)
  | next {before middle after : ListenerState σ} {id : SocketId} {ids : List SocketId}
      {outcome : SocketOutcome} {outcomes : List (SocketId × SocketOutcome)}
      (timedOut : TimedOut before id (outcome, middle)) (rest : Polled middle ids (outcomes, after)) :
      Polled before (id :: ids) ((id, outcome) :: outcomes, after)

/-- What holds of time-outs one after another, if it holds of each while its socket is in listener
filters. -/
theorem Waiting.timeOutAll_rec {motive : ListenerState σ → List SocketId → Prop}
    (done : ∀ state, motive state [])
    (next : ∀ (state : ListenerState σ) (id : SocketId) (ids : List SocketId)
      (pending : PendingSocket σ), state.Waiting → state.pending? id = some pending →
      motive (state.timeOut id).2 ids → motive state (id :: ids))
    (waiting : state.Waiting) {ids : List SocketId}
    (present : ∀ id ∈ ids, (state.pending? id).isSome) (distinct : (ids.map (·.slot)).Nodup) :
    motive state ids := by
  induction ids generalizing state with
  | nil => exact done state
  | cons id rest inductionHypothesis =>
      rw [List.map_cons, List.nodup_cons] at distinct
      obtain ⟨pending, found⟩ := Option.isSome_iff_exists.mp (present id List.mem_cons_self)
      have timedOut := waiting.timedOut_timeOut found
      have others : ∀ other ∈ rest, ((state.timeOut id).2.pending? other).isSome := by
        intro other listed
        have elsewhere : other.slot ≠ id.slot :=
          fun same => distinct.1 (List.mem_map.mpr ⟨other, listed, same⟩)
        rw [timedOut.pending?_of_ne elsewhere]
        exact present other (List.mem_cons_of_mem _ listed)
      exact next state id rest pending waiting found
        (inductionHypothesis (waiting.timedOut timedOut) others distinct.2)

/-- The sockets that have run out of time are in listener filters, each in a slot of its own. -/
theorem Waiting.expired_present (waiting : state.Waiting) (now : Nat) :
    (∀ id ∈ state.expired now, (state.pending? id).isSome) ∧
      ((state.expired now).map (·.slot)).Nodup := by
  have placed : ∀ slot pending, state.pending.get? slot = some pending → pending.id.slot = slot :=
    fun slot pending found => (waiting.waits slot pending found).placed
  constructor
  · intro id listed
    obtain ⟨pending, late, rfl⟩ := List.mem_map.mp listed
    obtain ⟨slot, found⟩ := Slab.mem_values_iff.mp (List.mem_filter.mp late).1
    have inSlot : state.pending.get? pending.id.slot = some pending := by
      rw [placed slot pending found]
      exact found
    rw [pending?_eq_some_iff.mpr ⟨inSlot, rfl⟩]
    rfl
  · have slots := Slab.values_nodup state.pending (·.id.slot) placed
    unfold expired
    rw [List.map_map]
    exact slots.sublist (List.filter_sublist.map _)

theorem Waiting.polled_pollTimeouts (waiting : state.Waiting) (now : Nat) :
    Polled state (state.expired now) (state.pollTimeouts now) := by
  obtain ⟨present, distinct⟩ := waiting.expired_present now
  refine waiting.timeOutAll_rec (motive := fun state ids => Polled state ids (state.timeOutAll ids))
    .done ?_ present distinct
  intro state id ids pending waiting found rest
  exact .next (waiting.timedOut_timeOut found) rest

theorem Waiting.polled (waiting : state.Waiting) {ids : List SocketId}
    {result : List (SocketId × SocketOutcome) × ListenerState σ} (polled : Polled state ids result) :
    result.2.Waiting := by
  induction polled with
  | done => exact waiting
  | next timedOut _ inductionHypothesis => exact inductionHypothesis (waiting.timedOut timedOut)

end ListenerState

end Admission.Listener
