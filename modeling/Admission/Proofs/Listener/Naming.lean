import Admission.Listener.Scripted
import Admission.Proofs.Listener.Identity
import Admission.Proofs.Listener.Survival

/-!
Contract: what the ids and handles that a listener gives out stand for.

Owns:
- `NoSocket` and `NoConnection`, a name that stands for nothing and so does nothing;
- `NamesSocket` and `NamesConnection`, what a name stands for from some moment on;
- `Detached`, what a removal on request does, and `removals`, the handles for which one was done;
- `names_last`.
-/

namespace Admission.Listener.ListenerState

open Admission.Chain

variable {σ : Type} {state : ListenerState σ}

/-- An id that stands for no socket. Using it does nothing. -/
structure NoSocket (state : ListenerState σ) (id : SocketId) : Prop where
  absent : state.pending? id = none
  data : ∀ bytes, state.onSocketData id bytes = (.unknown, state)
  resume : ∀ success, state.continueSocket id success = (.unknown, state)

/-- A handle that stands for no record. Using it does nothing. -/
structure NoConnection (state : ListenerState σ) (handle : ConnectionHandle) : Prop where
  absent : state.record? handle = none
  remove : state.removeConnection handle = (false, state)
  report : ∀ event, state.onConnectionEvent handle event = state

private theorem stepPending_of_absent {id : SocketId} (absent : state.pending? id = none)
    (step : Pipeline σ → Socket → Pipeline σ × Socket) :
    state.stepPending id step = (.unknown, state) := by
  unfold stepPending
  rw [absent]

private theorem noSocket_of_absent {id : SocketId} (absent : state.pending? id = none) :
    state.NoSocket id where
  absent := absent
  data := fun _ => stepPending_of_absent absent _
  resume := fun _ => stepPending_of_absent absent _

private theorem removeConnection_of_absent {handle : ConnectionHandle}
    (absent : state.record? handle = none) : state.removeConnection handle = (false, state) := by
  rcases state.removeConnection_cases handle with
    ⟨_, removed⟩ | ⟨group, record, found, held, _⟩ | ⟨group, record, found, held, _⟩
  · exact removed
  all_goals
    have present : state.record? handle = some record :=
      Option.bind_eq_some_iff.mpr ⟨group, found, held⟩
    exact absurd (absent.symm.trans present) (by simp)

private theorem noConnection_of_absent {handle : ConnectionHandle}
    (absent : state.record? handle = none) :
    state.NoConnection handle where
  absent := absent
  remove := removeConnection_of_absent absent
  report := by
    intro event
    unfold onConnectionEvent
    rw [removeConnection_of_absent absent]
    split <;> rfl

/-! ## Names that stand for something -/

/-- From here on an id stands for a socket as long as that is in listener filters, and then for none. -/
structure NamesSocket (state : ListenerState σ) (id : SocketId) (pending : PendingSocket σ) :
    Prop where
  present : state.pending? id = some pending
  lasting : ∀ rest later, (state.run rest).pending? id = some later → pending.Continues later
  final : ∀ rest, (state.run rest).pending? id = none →
    ∀ more, ((state.run rest).run more).NoSocket id

/-- From here on a handle stands for a record as long as that is tracked, and then for none. -/
structure NamesConnection (state : ListenerState σ) (handle : ConnectionHandle)
    (record : ConnectionRecord) : Prop where
  present : state.record? handle = some record
  lasting : ∀ rest later, (state.run rest).record? handle = some later → later = record
  final : ∀ rest, (state.run rest).record? handle = none →
    ∀ more, ((state.run rest).run more).NoConnection handle

section Numbered

variable (numbered : state.Numbered)

include numbered

theorem Numbered.socket_lt {id : SocketId} {pending : PendingSocket σ}
    (found : state.pending? id = some pending) : id.serial < state.nextSerial := by
  obtain ⟨inSlot, same⟩ := pending?_eq_some_iff.mp found
  have listed := List.mem_map_of_mem (f := (·.id.serial)) (Slab.mem_values_iff.mpr ⟨_, inSlot⟩)
  rw [← same]
  exact numbered.below _ (List.mem_append_left _ (List.mem_append_left _ listed))

private theorem Numbered.record_lt (housed : state.Housed) {handle : ConnectionHandle}
    {record : ConnectionRecord} (found : state.record? handle = some record) :
    handle.serial < state.nextSerial := by
  have listed := housed.mem_records_iff.mpr (tracks_of_record? found)
  have serial := List.mem_map_of_mem (f := (·.handle.serial)) listed
  rw [← handle_of_record? found]
  exact numbered.below _ (List.mem_append_left _ (List.mem_append_right _ serial))

end Numbered

section Ran

variable (config : ListenerConfig σ) (carrier : Carrier) (operations : List Operation)

theorem namesSocket_ran {id : SocketId} {pending : PendingSocket σ}
    (found : (ran config carrier operations).pending? id = some pending) :
    (ran config carrier operations).NamesSocket id pending := by
  have drawn := Numbered.socket_lt (numbered_ran config carrier operations) found
  refine ⟨found, ?_, ?_⟩
  · intro rest later there
    rw [← ran_append] at there
    exact (inherits_ran config carrier operations rest).continues drawn found there
  · intro rest gone more
    rw [← ran_append] at gone ⊢
    rw [← ran_append]
    have stillDrawn := Nat.lt_of_lt_of_le drawn (inherits_ran config carrier operations rest).serials
    exact noSocket_of_absent
      ((inherits_ran config carrier (operations ++ rest) more).pending?_none stillDrawn gone)

/-- A record that a used-up handle stands for later on has been there all the time. -/
theorem record?_ran {handle : ConnectionHandle} {later : ConnectionRecord}
    (drawn : handle.serial < (ran config carrier operations).nextSerial) {rest : List Operation}
    (found : (ran config carrier (operations ++ rest)).record? handle = some later) :
    (ran config carrier operations).record? handle = some later :=
  (inherits_ran config carrier operations rest).record? (housed_ran config carrier operations)
    (housed_ran config carrier (operations ++ rest)) drawn found

private theorem record?_ran_none {handle : ConnectionHandle}
    (drawn : handle.serial < (ran config carrier operations).nextSerial)
    (gone : (ran config carrier operations).record? handle = none) (rest : List Operation) :
    (ran config carrier (operations ++ rest)).record? handle = none := by
  rw [Option.eq_none_iff_forall_not_mem]
  intro later found
  have earlier := record?_ran config carrier operations drawn found
  exact absurd (gone.symm.trans earlier) (by simp)

theorem namesConnection_ran {handle : ConnectionHandle} {record : ConnectionRecord}
    (found : (ran config carrier operations).record? handle = some record) :
    (ran config carrier operations).NamesConnection handle record := by
  have drawn := Numbered.record_lt (numbered_ran config carrier operations)
    (housed_ran config carrier operations) found
  refine ⟨found, ?_, ?_⟩
  · intro rest later there
    rw [← ran_append] at there
    have earlier := record?_ran config carrier operations drawn there
    exact Option.some.inj (earlier.symm.trans found)
  · intro rest gone more
    rw [← ran_append] at gone ⊢
    rw [← ran_append]
    have stillDrawn := Nat.lt_of_lt_of_le drawn (inherits_ran config carrier operations rest).serials
    exact noConnection_of_absent
      (record?_ran_none config carrier (operations ++ rest) stillDrawn gone more)

/-- A serial that is still to come is in no name so far. -/
theorem unnamed_ran {serial : Nat} (new : (ran config carrier operations).nextSerial ≤ serial)
    {earlier : List Operation} (before : earlier <+: operations) :
    (∀ id : SocketId, id.serial = serial → (ran config carrier earlier).NoSocket id) ∧
      ∀ handle : ConnectionHandle, handle.serial = serial →
        (ran config carrier earlier).NoConnection handle := by
  obtain ⟨rest, rfl⟩ := before
  have numbered := numbered_ran config carrier earlier
  have serials := (inherits_ran config carrier earlier rest).serials
  refine ⟨?_, ?_⟩
  · rintro id rfl
    refine noSocket_of_absent (Option.eq_none_iff_forall_not_mem.mpr ?_)
    intro pending found
    have drawn := Numbered.socket_lt numbered found
    omega
  · rintro handle rfl
    refine noConnection_of_absent (Option.eq_none_iff_forall_not_mem.mpr ?_)
    intro record found
    have drawn := Numbered.record_lt numbered (housed_ran config carrier earlier) found
    omega

end Ran

/-! ## Removals on request -/

/-- A removal took the record of a handle away, parked it, perhaps with the group that it left empty,
and let everything else be. -/
structure Detached (before after : ListenerState σ) (handle : ConnectionHandle)
    (record : ConnectionRecord) : Prop where
  found : before.record? handle = some record
  records : ∀ other,
    after.record? other = if other = handle then none else before.record? other
  parked : ∃ emptied : Option ConnectionGroup,
    after.parked = before.parked ++ .connection record :: emptied.toList.map .group
  frame : after = { before with groups := after.groups, parked := after.parked }

theorem detached_of_removed {handle : ConnectionHandle}
    (removed : (state.removeConnection handle).1 = true) :
    ∃ record, Detached state (state.removeConnection handle).2 handle record := by
  have records := state.record?_removeConnection handle
  rcases state.removeConnection_cases handle with
    ⟨_, result⟩ | ⟨group, record, found, held, _, _, result⟩ | ⟨group, record, found, held, _, result⟩
  · rw [result] at removed
    exact absurd removed Bool.false_ne_true
  · refine ⟨record, Option.bind_eq_some_iff.mpr ⟨group, found, held⟩, records, ?_, ?_⟩
    · rw [result]
      exact ⟨some (group.without handle.slot), List.append_assoc _ _ _⟩
    · rw [result]
  · refine ⟨record, Option.bind_eq_some_iff.mpr ⟨group, found, held⟩, records, ?_, ?_⟩
    · rw [result]
      exact ⟨none, rfl⟩
    · rw [result]

/-- The handle whose record an operation removes on request. -/
def removedBy (state : ListenerState σ) : Operation → List ConnectionHandle
  | .remove handle => if (state.removeConnection handle).1 then [handle] else []
  | _ => []

/-- The handles whose records a run removes on request, in order. -/
def removals (config : ListenerConfig σ) (carrier : Carrier) (operations : List Operation) :
    List ConnectionHandle :=
  (ListenerState.new config carrier).collect removedBy operations

/-- What an operation removes was there, and is not afterwards. -/
theorem removedBy_cases (state : ListenerState σ) (operation : Operation) :
    state.removedBy operation = [] ∨
      ∃ handle record, state.removedBy operation = [handle] ∧
        state.record? handle = some record ∧ (state.step operation).record? handle = none := by
  cases operation with
  | remove handle =>
      cases removed : (state.removeConnection handle).1 with
      | false =>
          refine .inl (if_neg ?_)
          rw [removed]
          decide
      | true =>
          obtain ⟨record, detached⟩ := detached_of_removed removed
          exact .inr ⟨handle, record, if_pos removed, detached.found,
            (detached.records handle).trans (if_pos rfl)⟩
  | _ => exact .inl rfl

/-- A handle whose record was removed is used up and stands for nothing. -/
theorem removals_ran (config : ListenerConfig σ) (carrier : Carrier) (operations : List Operation) :
    (removals config carrier operations).Nodup ∧
      ∀ handle ∈ removals config carrier operations,
        handle.serial < (ran config carrier operations).nextSerial ∧
          (ran config carrier operations).record? handle = none := by
  induction operations using List.reverseRecOn with
  | nil => exact ⟨List.nodup_nil, fun _ none => absurd none List.not_mem_nil⟩
  | append_singleton operations operation inductionHypothesis =>
      obtain ⟨distinct, gone⟩ := inductionHypothesis
      have inherits := inherits_ran config carrier operations [operation]
      have stillGone : ∀ handle ∈ removals config carrier operations,
          handle.serial < (ran config carrier (operations ++ [operation])).nextSerial ∧
            (ran config carrier (operations ++ [operation])).record? handle = none := by
        intro handle listed
        obtain ⟨drawn, absent⟩ := gone handle listed
        exact ⟨Nat.lt_of_lt_of_le drawn inherits.serials,
          record?_ran_none config carrier operations drawn absent [operation]⟩
      have removed : removals config carrier (operations ++ [operation]) =
          removals config carrier operations ++
            (ran config carrier operations).removedBy operation :=
        collect_concat _ _ operations operation
      rw [removed]
      rcases removedBy_cases (ran config carrier operations) operation with
        none | ⟨handle, record, one, found, absent⟩
      · rw [none, List.append_nil]
        exact ⟨distinct, stillGone⟩
      · have drawn := Numbered.record_lt (numbered_ran config carrier operations)
          (housed_ran config carrier operations) found
        rw [one, ← List.concat_eq_append]
        refine ⟨List.Nodup.concat ?_ distinct, ?_⟩
        · intro listed
          exact absurd ((gone handle listed).2.symm.trans found) (by simp)
        · intro other listed
          rw [List.concat_eq_append] at listed
          rcases List.mem_append.mp listed with earlier | last
          · exact stillGone other earlier
          · rw [List.mem_singleton.mp last]
            rw [← ran_concat] at absent
            exact ⟨Nat.lt_of_lt_of_le drawn inherits.serials, absent⟩

/-- A new socket that a filter holds has the next serial in its id, and the id stands for it. -/
theorem Arrived.named {socket : Socket} {now : Nat} {result : SocketOutcome × ListenerState σ}
    (arrived : Arrived state (state.arrival socket now) result) (slots : state.pending.Sound)
    {id : SocketId} (given : result.1 = .pending id) :
    id.serial = state.nextSerial ∧ result.2.pending? id = some (state.arrival socket now) := by
  cases arrived with
  | held waits =>
      have same : (state.arrival socket now).id = id := SocketOutcome.pending.inj given
      rw [← same]
      refine ⟨rfl, pending?_eq_some_iff.mpr ⟨?_, rfl⟩⟩
      exact (slots.get?_insert _ _).trans (if_pos rfl)
  | left settled =>
      cases settled with
      | closed => exact absurd given (by simp)
      | connected => exact absurd given (by simp)

/-! ## The main statement -/

/-- An id that an acceptance gives out stood for nothing before and stands for that socket alone for
good: once the socket has left the listener filters, whoever uses the id learns that it is unknown
and changes nothing. A handle that is given out stands in the same way for one record. A removal on
request that succeeds takes away the record of its handle and nothing else, and it succeeds at most
once for a handle. -/
theorem names_last (config : ListenerConfig σ) (carrier : Carrier) (operations : List Operation)
    (operation : Operation) :
    let before := ran config carrier operations
    let after := ran config carrier (operations ++ [operation])
    (∀ socket now id, operation = .accept socket now → .pending id ∈ before.outcomes operation →
      (∀ earlier, earlier <+: operations → (ran config carrier earlier).NoSocket id) ∧
        after.NamesSocket id (before.arrival socket now)) ∧
    (∀ handle, .connected handle ∈ before.outcomes operation →
      (∀ earlier, earlier <+: operations → (ran config carrier earlier).NoConnection handle) ∧
        ∃ record, after.NamesConnection handle record) ∧
    (∀ handle, operation = .remove handle → (before.removeConnection handle).1 = true →
      ∃ record, Detached before after handle record) ∧
    (removals config carrier (operations ++ [operation])).Nodup := by
  have housed := housed_ran config carrier operations
  have effect := effect_ran config carrier operations operation
  refine ⟨?_, ?_, ?_, (removals_ran config carrier (operations ++ [operation])).1⟩
  · rintro socket now id rfl given
    have arrived := (ran config carrier operations).arrived_accept socket now
    obtain ⟨drawn, found⟩ := arrived.named housed.waiting.slots (List.mem_singleton.mp given).symm
    refine ⟨fun earlier before => (unnamed_ran config carrier operations ?_ before).1 id rfl, ?_⟩
    · rw [drawn]
    · refine namesSocket_ran config carrier _ ?_
      rw [ran_concat]
      exact found
  · intro handle given
    obtain ⟨drawn, record, listed, rfl⟩ := effect.fresh housed.tidy given
    refine ⟨fun earlier before => (unnamed_ran config carrier operations drawn before).2 _ rfl,
      record, namesConnection_ran config carrier _ ?_⟩
    exact (housed_ran config carrier (operations ++ [operation])).mem_records_iff.mp listed
  · rintro handle rfl removed
    rw [ran_concat]
    exact detached_of_removed removed

/-- A listener whose filter waits for the first bytes of every socket. -/
def patient : ListenerConfig Nat :=
  { (ListenerConfig.new "listener" (.internal "here") : ListenerConfig Nat) with
    filters := [.plain "first bytes"] }

/-- A chain for every socket, and a socket. -/
def guest : List Operation := [
  .apply [answering .anything] (BuildScript.builder ⟨none, false, []⟩),
  .accept (Socket.between (.internal "here") (.internal "there")) 0]

theorem names_last_guest :
    (ran patient .recorded guest).NamesSocket ⟨0, 1⟩
      ((ran patient .recorded guest.dropLast).arrival
        (Socket.between (.internal "here") (.internal "there")) 0) ∧
    (∃ record, (ran patient .recorded (guest ++ [.data ⟨0, 1⟩ [7]])).NamesConnection
      ⟨⟨1⟩, 0, 2⟩ record) ∧
    ∃ record, Detached (ran patient .recorded (guest ++ [.data ⟨0, 1⟩ [7]]))
      (ran patient .recorded (guest ++ [.data ⟨0, 1⟩ [7], .remove ⟨⟨1⟩, 0, 2⟩]))
      ⟨⟨1⟩, 0, 2⟩ record := by
  have arrives := names_last patient .recorded guest.dropLast
    (.accept (Socket.between (.internal "here") (.internal "there")) 0)
  have speaks := names_last patient .recorded guest (.data ⟨0, 1⟩ [7])
  have leaves := names_last patient .recorded (guest ++ [.data ⟨0, 1⟩ [7]]) (.remove ⟨⟨1⟩, 0, 2⟩)
  refine ⟨?_, ?_, ?_⟩
  · have waits : SocketOutcome.pending ⟨0, 1⟩ ∈ (ran patient .recorded guest.dropLast).outcomes
        (.accept (Socket.between (.internal "here") (.internal "there")) 0) := by decide +kernel
    exact (arrives.1 _ 0 _ rfl waits).2
  · have connects : SocketOutcome.connected ⟨⟨1⟩, 0, 2⟩ ∈
        (ran patient .recorded guest).outcomes (.data ⟨0, 1⟩ [7]) := by decide +kernel
    exact (speaks.2.1 _ connects).2
  · have removed : ((ran patient .recorded (guest ++ [.data ⟨0, 1⟩ [7]])).removeConnection
        ⟨⟨1⟩, 0, 2⟩).1 = true := by decide +kernel
    exact leaves.2.2.1 _ rfl removed

end Admission.Listener.ListenerState
