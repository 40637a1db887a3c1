import Admission.Proofs.Listener.Shuffle

/-!
Contract: operations on different sockets and records may be exchanged.

Owns:
- `deed?_after_other`, that an operation has the deed that it had before one on something else;
- `place_comm` and `exchange`, that two deeds add up to the same in either order;
- `AnswersAlike` and `Alike`, what is the same but for the numbers of connections, and
  `independent`.
-/

namespace Admission.Listener

open Admission.Chain
open scoped List

/-- Two deeds do not step sockets in one slot. -/
def Deed.Apart {σ : Type} (first second : Deed σ) : Prop :=
  ∀ one other, first.socket? = some one → second.socket? = some other → one.id.slot ≠ other.id.slot

namespace ListenerState

variable {σ : Type} {state : ListenerState σ}

/-! ## Deeds in another state -/

/-- A slot has one socket. -/
theorem id_of_slot {one other : SocketId} (hostsOne : state.Hosts (.socket one))
    (hostsOther : state.Hosts (.socket other)) (same : one.slot = other.slot) : one = other := by
  obtain ⟨pending, found⟩ := Option.isSome_iff_exists.mp hostsOne
  obtain ⟨otherPending, otherFound⟩ := Option.isSome_iff_exists.mp hostsOther
  obtain ⟨inSlot, name⟩ := pending?_eq_some_iff.mp found
  obtain ⟨otherInSlot, otherName⟩ := pending?_eq_some_iff.mp otherFound
  rw [← same, inSlot] at otherInSlot
  rw [← name, ← otherName, Option.some.inj otherInSlot]

private theorem deedOn_congr {left right : ListenerState σ} (config : right.config = left.config)
    (registry : right.registry = left.registry) (carrier : right.carrier = left.carrier)
    (number : Nat) (pending : PendingSocket σ) :
    right.deedOn number pending = left.deedOn number pending := by
  unfold deedOn matchOf?
  rw [registry]
  cases (left.registry.lookup pending.socket).1 with
  | none => rfl
  | some matched =>
      dsimp only
      rw [connectionFor_identify config carrier]

section Other

variable {other : Operation} {target otherTarget : Target}
  (worksOther : other.target? = some otherTarget) (different : target ≠ otherTarget)
  (hostsOther : state.Hosts otherTarget)

include worksOther different hostsOther

/-- A socket stays as it is while an operation is on something else. -/
theorem pending?_after_other {id : SocketId} (isTarget : target = .socket id)
    {pending : PendingSocket σ} (found : state.pending? id = some pending) :
    (state.step other).pending? id = some pending := by
  obtain ⟨inSlot, name⟩ := pending?_eq_some_iff.mp found
  refine pending?_eq_some_iff.mpr ⟨?_, name⟩
  rcases other.target_cases σ worksOther with ⟨otherId, step, rfl, steps⟩ | ⟨handle, rfl, removes⟩
  · have elsewhere : id.slot ≠ otherId.slot := by
      intro sameSlot
      have hosts : state.Hosts (.socket id) := Option.isSome_iff_exists.mpr ⟨_, found⟩
      rw [isTarget, id_of_slot hosts hostsOther sameSlot] at different
      exact different rfl
    rw [steps.does, (state.stepped_stepPending otherId step).get?_of_ne elsewhere, inSlot]
  · obtain ⟨groups, parked, removed⟩ := state.removeConnection_frame handle
    rw [removes.does, removed]
    exact inSlot

/-- A record stays while an operation is on something else. -/
theorem record?_after_other (housed : state.Housed) (housedAfter : (state.step other).Housed)
    {handle : ConnectionHandle} (isTarget : target = .record handle) {record : ConnectionRecord}
    (found : state.record? handle = some record) :
    (state.step other).record? handle = some record := by
  rcases other.target_cases σ worksOther with ⟨id, step, rfl, steps⟩ | ⟨otherHandle, rfl, removes⟩
  · have listed := housed.mem_records_iff.mpr (tracks_of_record? found)
    have still := (state.stepped_stepPending id step).records_subset housed.tidy listed
    rw [← steps.does] at still
    have tracked := housedAfter.mem_records_iff.mp still
    unfold Tracks at tracked
    rw [handle_of_record? found] at tracked
    exact tracked
  · rw [removes.does, record?_removeConnection, if_neg, found]
    rintro rfl
    exact different isTarget

/-- An operation has the same deed after one that is on something else. -/
theorem deed?_after_other (housed : state.Housed) (housedAfter : (state.step other).Housed)
    {operation : Operation} (works : operation.target? = some target) (hosts : state.Hosts target)
    (number : Nat) : (state.step other).deed? number operation = state.deed? number operation := by
  obtain ⟨_, _, does⟩ := exists_deeds worksOther hostsOther
  have done := performed housed worksOther (does _)
  rcases operation.target_cases σ works with ⟨id, step, rfl, steps⟩ | ⟨handle, rfl, removes⟩
  · obtain ⟨pending, found⟩ := Option.isSome_iff_exists.mp hosts
    have still := pending?_after_other worksOther different hostsOther rfl found
    rw [steps.deed, steps.deed, found, still, Option.map_some, Option.map_some,
      deedOn_congr done.config done.registry done.carrier]
  · obtain ⟨record, found⟩ := Option.isSome_iff_exists.mp hosts
    have still := record?_after_other worksOther different hostsOther housed housedAfter rfl found
    rw [removes.deed, removes.deed, found, still]

private theorem removedBy_after_other (housed : state.Housed)
    (housedAfter : (state.step other).Housed) {operation : Operation}
    (works : operation.target? = some target) (hosts : state.Hosts target) :
    (state.step other).removedBy operation = state.removedBy operation := by
  cases operation with
  | remove handle =>
      obtain rfl := Option.some.inj works
      obtain ⟨record, found⟩ := Option.isSome_iff_exists.mp hosts
      have still := record?_after_other worksOther different hostsOther housed housedAfter rfl found
      unfold removedBy
      dsimp only
      rw [removeConnection_fst, removeConnection_fst, found, still]
  | _ => rfl

end Other

/-! ## Deeds in either order -/

private theorem socket?_deedOn (state : ListenerState σ) (number : Nat)
    (pending : PendingSocket σ) :
    (state.deedOn number pending).socket? = some pending :=
  state.deedOn_rec (motive := fun deed => deed.socket? = some pending) rfl rfl rfl
    (fun _ _ => rfl) fun _ _ => rfl

/-- The socket that is stepped is the one that the operation works on. -/
theorem target_of_socket? {operation : Operation} {target : Target}
    (works : operation.target? = some target) {number : Nat} {deed : Deed σ}
    (does : state.deed? number operation = some deed) {stepped : PendingSocket σ}
    (steps : deed.socket? = some stepped) : target = .socket stepped.id := by
  rcases operation.target_cases σ works with ⟨id, step, rfl, moves⟩ | ⟨handle, _, removes⟩
  · rw [moves.deed] at does
    obtain ⟨pending, found, rfl⟩ := Option.map_eq_some_iff.mp does
    rw [socket?_deedOn] at steps
    obtain rfl := Option.some.inj steps
    exact congrArg Target.socket (pending?_eq_some_iff.mp found).2.symm
  · rw [removes.deed] at does
    obtain ⟨record, _, rfl⟩ := Option.map_eq_some_iff.mp does
    exact absurd steps (by simp [Deed.socket?])

/-- Operations on different things do not step sockets in one slot. -/
theorem apart_of_ne {first second : Operation} {one other : Target}
    (worksFirst : first.target? = some one) (worksSecond : second.target? = some other)
    (different : one ≠ other) (hostsOne : state.Hosts one) (hostsOther : state.Hosts other)
    {number otherNumber : Nat} {deed otherDeed : Deed σ}
    (doesFirst : state.deed? number first = some deed)
    (doesSecond : state.deed? otherNumber second = some otherDeed) : deed.Apart otherDeed := by
  intro stepped otherStepped steps otherSteps sameSlot
  obtain rfl := target_of_socket? worksFirst doesFirst steps
  obtain rfl := target_of_socket? worksSecond doesSecond otherSteps
  exact different (congrArg Target.socket (id_of_slot hostsOne hostsOther sameSlot))

end ListenerState

theorem Deed.Apart.place_comm {σ : Type} {first second : Deed σ} (apart : first.Apart second)
    (sockets : Nat → Option (PendingSocket σ)) :
    second.place (first.place sockets) = first.place (second.place sockets) := by
  funext slot
  unfold place
  by_cases inFirst : first.socket?.any (·.id.slot = slot) = true
  · by_cases inSecond : second.socket?.any (·.id.slot = slot) = true
    · obtain ⟨one, stepsOne, hereOne⟩ := (Option.any_eq_true _ _).mp inFirst
      obtain ⟨other, stepsOther, hereOther⟩ := (Option.any_eq_true _ _).mp inSecond
      have same := (of_decide_eq_true hereOne).trans (of_decide_eq_true hereOther).symm
      exact absurd same (apart one other stepsOne stepsOther)
    · rw [if_pos inFirst, if_neg inSecond, if_pos inFirst]
  · rw [if_neg inFirst, if_neg inFirst]

/-- Two changes of a list that each add and take away come to the same in either order, up to a
renaming that leaves alone what was there. -/
theorem exchange {α : Type} {rename : α → α}
    {start first both second reversed addedFirst addedSecond takenFirst takenSecond : List α}
    (kept : start.map rename = start) (changesFirst : start ++ addedFirst ~ first ++ takenFirst)
    (thenSecond : first ++ addedSecond ~ both ++ takenSecond)
    (changesSecond : start ++ addedSecond.map rename ~ second ++ takenSecond.map rename)
    (thenFirst : second ++ addedFirst.map rename ~ reversed ++ takenFirst.map rename) :
    both.map rename ~ reversed := by
  -- With what was taken put back, both orders are the start and all that was added.
  have changes : both ++ takenSecond ++ takenFirst ~ start ++ addedFirst ++ addedSecond :=
    calc both ++ takenSecond ++ takenFirst
        ~ first ++ addedSecond ++ takenFirst := thenSecond.symm.append_right _
      _ ~ first ++ takenFirst ++ addedSecond := perm_append_right_comm _ _ _
      _ ~ start ++ addedFirst ++ addedSecond := changesFirst.symm.append_right _
  have renamed := changes.map rename
  rw [List.map_append, List.map_append, List.map_append, List.map_append, kept] at renamed
  refine (List.perm_append_right_iff (takenSecond.map rename ++ takenFirst.map rename)).mp ?_
  rw [← List.append_assoc, ← List.append_assoc]
  calc both.map rename ++ takenSecond.map rename ++ takenFirst.map rename
      ~ start ++ addedFirst.map rename ++ addedSecond.map rename := renamed
    _ ~ start ++ addedSecond.map rename ++ addedFirst.map rename := perm_append_right_comm _ _ _
    _ ~ second ++ takenSecond.map rename ++ addedFirst.map rename :=
        changesSecond.append_right _
    _ ~ second ++ addedFirst.map rename ++ takenSecond.map rename := perm_append_right_comm _ _ _
    _ ~ reversed ++ takenFirst.map rename ++ takenSecond.map rename := thenFirst.append_right _
    _ ~ reversed ++ takenSecond.map rename ++ takenFirst.map rename :=
        perm_append_right_comm _ _ _

private theorem ListenerStats.after_comm (stats : ListenerStats) (first second : Counts) :
    (stats.after first).after second = (stats.after second).after first := by
  unfold after
  dsimp only
  congr 1 <;> omega

namespace ListenerState

variable {σ : Type} {state : ListenerState σ}

/-- An operation answers the same in two states, and a socket that it lets go has the same fate, up
to slots, serials and numbers of connections. -/
structure AnswersAlike (shuffle : Equiv.Perm Nat) (left right : ListenerState σ)
    (operation : Operation) : Prop where
  outcomes : (left.outcomes operation).map (·.anonymous) =
    (right.outcomes operation).map (·.anonymous)
  departures : (left.departures operation).map (·.reidentify shuffle) = right.departures operation
  removed : left.removedBy operation = right.removedBy operation

/-- Two listeners are the same up to the slots and serials of records and the numbers of
connections: the sockets in listener filters, the connections, what is tracked, all counters, and
the lines of the log after the next clearing. -/
structure Alike (shuffle : Equiv.Perm Nat) (left right : ListenerState σ) : Prop where
  pending : ∀ id, left.pending? id = right.pending? id
  connections : left.connections.map (·.reidentify shuffle) ~ right.connections
  records : (left.records.map (·.anonymous)).map (·.reidentify shuffle) ~
    right.records.map (·.anonymous)
  stats : left.stats = right.stats
  log : left.clearParked.2.log.map (·.reidentify shuffle) ~ right.clearParked.2.log

section Performed

variable {shuffle : Equiv.Perm Nat}

/-- One deed, in two states, but for the number of the connection that it makes. -/
theorem AnswersAlike.of_performed {left leftAfter right rightAfter : ListenerState σ}
    {operation : Operation} {deed : Deed σ}
    (onLeft : Performed left leftAfter (left.outcomes operation) (left.departures operation) deed)
    (onRight : Performed right rightAfter (right.outcomes operation) (right.departures operation)
      (deed.reidentify shuffle))
    (removed : left.removedBy operation = right.removedBy operation) :
    AnswersAlike shuffle left right operation where
  outcomes := by
    rw [onLeft.outcomes, onRight.outcomes, Deed.outcomes_reidentify]
  departures := by
    rw [onLeft.departures, onRight.departures, Deed.departures_reidentify]
  removed := removed

variable {afterFirst both afterSecond reversed : ListenerState σ} {first second : Deed σ}
  {outcomes laterOutcomes otherOutcomes lastOutcomes : List SocketOutcome}
  {departures laterDepartures otherDepartures lastDepartures : List Departure}

/-- Two deeds in either order, but for the numbers of the connections that they make. -/
theorem Alike.of_performed (steady : state.Steady shuffle) (steadyFirst : first.Steady shuffle)
    (steadySecond : second.Steady shuffle) (apart : first.Apart second)
    (doesFirst : Performed state afterFirst outcomes departures first)
    (thenSecond : Performed afterFirst both laterOutcomes laterDepartures second)
    (doesSecond : Performed state afterSecond otherOutcomes otherDepartures
      (second.reidentify shuffle))
    (thenFirst : Performed afterSecond reversed lastOutcomes lastDepartures
      (first.reidentify shuffle)) : Alike shuffle both reversed := by
  have kept : state.connections.map (·.reidentify shuffle) = state.connections :=
    (List.map_congr_left steady.connections).trans (List.map_id' _)
  have keptRecords : (state.records.map (·.anonymous)).map (·.reidentify shuffle) =
      state.records.map (·.anonymous) := by
    rw [List.map_map]
    exact List.map_congr_left fun record listed =>
      congrArg ConnectionRecord.anonymous (steady.records record listed)
  have keptDue : state.due.map (·.reidentify shuffle) = state.due :=
    (List.map_congr_left steady.due).trans (List.map_id' _)
  refine ⟨?_, ?_, ?_, ?_, ?_⟩
  · have slots : both.pending.get? = reversed.pending.get? := by
      funext slot
      have before : afterFirst.pending.get? = first.place state.pending.get? :=
        funext doesFirst.sockets
      have beforeLast : afterSecond.pending.get? = second.place state.pending.get? :=
        funext fun slot => (doesSecond.sockets slot).trans (by rw [Deed.place_reidentify])
      rw [thenSecond.sockets, thenFirst.sockets, Deed.place_reidentify, before, beforeLast,
        apart.place_comm]
    intro id
    unfold pending?
    rw [slots]
  · have changes {before after : ListenerState σ} {made : List Connection}
        (added : after.connections = before.connections ++ made) :
        before.connections ++ made ~ after.connections ++ [] := by
      rw [added, List.append_nil]
    have last := thenFirst.connections
    have third := doesSecond.connections
    rw [Deed.made_reidentify] at last third
    exact exchange kept (changes doesFirst.connections) (changes thenSecond.connections)
      (changes third) (changes last)
  · have last := thenFirst.records
    have third := doesSecond.records
    rw [Deed.added_reidentify, steadyFirst.withdrawn] at last
    rw [Deed.added_reidentify, steadySecond.withdrawn] at third
    exact exchange keptRecords doesFirst.records thenSecond.records third last
  · rw [thenSecond.stats, thenFirst.stats, doesFirst.stats, doesSecond.stats,
      Deed.counts_reidentify, Deed.counts_reidentify, ListenerStats.after_comm]
  · have changes {before after : ListenerState σ} {lines : List StreamInfo}
        (added : after.due ~ before.due ++ lines) : before.due ++ lines ~ after.due ++ [] := by
      rw [List.append_nil]
      exact added.symm
    have last := thenFirst.due
    have third := doesSecond.due
    rw [steadyFirst.lines] at last
    rw [steadySecond.lines] at third
    rw [log_clearParked, log_clearParked]
    exact exchange keptDue (changes doesFirst.due) (changes thenSecond.due) (changes third)
      (changes last)

end Performed

/-- Two operations on different sockets in listener filters or tracked connections may be exchanged.
Each answers the same, and they leave the same behind, but for the slots and serials of records and
the numbers of the connections that the two of them make. -/
theorem independent (reachable : state.Reachable) {first second : Operation} {one other : Target}
    (worksFirst : first.target? = some one) (worksSecond : second.target? = some other)
    (different : one ≠ other) (hostsOne : state.Hosts one) (hostsOther : state.Hosts other) :
    ∃ shuffle : Equiv.Perm Nat, (∀ id ≤ state.connections.length, shuffle id = id) ∧
      AnswersAlike shuffle state (state.step second) first ∧
      AnswersAlike shuffle (state.step first) state second ∧
      Alike shuffle ((state.step first).step second) ((state.step second).step first) := by
  obtain ⟨config, carrier, operations, rfl⟩ := reachable
  have housed := housed_ran config carrier operations
  have housedFirst := housed_ran config carrier (operations ++ [first])
  have housedSecond := housed_ran config carrier (operations ++ [second])
  have steady {shuffle : Equiv.Perm Nat}
      (fixed : ∀ id ≤ (ran config carrier operations).connections.length, shuffle id = id) :=
    steady_ran config carrier operations fixed
  rw [ran_concat] at housedFirst housedSecond
  generalize ran config carrier operations = state at *
  obtain ⟨deedsFirst, uniformFirst, doesFirst⟩ := exists_deeds worksFirst hostsOne
  obtain ⟨deedsSecond, uniformSecond, doesSecond⟩ := exists_deeds worksSecond hostsOther
  obtain ⟨shuffle, fixed, movesFirst, movesSecond⟩ :=
    Deed.exists_shuffle uniformFirst uniformSecond state.connections.length
  have laterFirst (number : Nat) := deed?_after_other worksSecond different hostsOther housed
    housedSecond worksFirst hostsOne number
  have laterSecond (number : Nat) := deed?_after_other worksFirst different.symm hostsOne housed
    housedFirst worksSecond hostsOther number
  have performedFirst := performed housed worksFirst (doesFirst _)
  have performedSecond := performed housed worksSecond (doesSecond _)
  have thenSecond := performed housedFirst worksSecond ((laterSecond _).trans (doesSecond _))
  have thenFirst := performed housedSecond worksFirst ((laterFirst _).trans (doesFirst _))
  -- Whichever operation comes second numbers its connection after that of the other.
  rw [performedFirst.connections, List.length_append] at thenSecond
  rw [performedSecond.connections, List.length_append, movesFirst] at thenFirst
  rw [movesSecond] at performedSecond
  have steady := steady fixed
  have removedFirst :=
    removedBy_after_other worksSecond different hostsOther housed housedSecond worksFirst hostsOne
  have removedSecond := removedBy_after_other worksFirst different.symm hostsOne housed housedFirst
    worksSecond hostsOther
  refine ⟨shuffle, fixed, .of_performed performedFirst thenFirst removedFirst.symm,
    .of_performed thenSecond performedSecond removedSecond, ?_⟩
  exact .of_performed steady (steady.deed housed worksFirst (doesFirst _))
    (steady.deed housed worksSecond (doesSecond _))
    (apart_of_ne worksFirst worksSecond different hostsOne hostsOther (doesFirst _) (doesSecond _))
    performedFirst thenSecond performedSecond thenFirst

/-- One connection, and a second socket for its chain. -/
def company : List Operation :=
  guest ++ [.data ⟨0, 1⟩ [7], .accept (Socket.between (.internal "here") (.internal "there")) 1]

/-- In one order the chain is left without connections in between, in the other it is not. -/
theorem independent_company : ∃ shuffle : Equiv.Perm Nat,
    (∀ id ≤ (ran patient .recorded company).connections.length, shuffle id = id) ∧
    AnswersAlike shuffle (ran patient .recorded company)
      ((ran patient .recorded company).step (.data ⟨0, 3⟩ [7])) (.remove ⟨⟨1⟩, 0, 2⟩) ∧
    AnswersAlike shuffle ((ran patient .recorded company).step (.remove ⟨⟨1⟩, 0, 2⟩))
      (ran patient .recorded company) (.data ⟨0, 3⟩ [7]) ∧
    Alike shuffle
      (((ran patient .recorded company).step (.remove ⟨⟨1⟩, 0, 2⟩)).step (.data ⟨0, 3⟩ [7]))
      (((ran patient .recorded company).step (.data ⟨0, 3⟩ [7])).step (.remove ⟨⟨1⟩, 0, 2⟩)) := by
  have tracked : ((ran patient .recorded company).record? ⟨⟨1⟩, 0, 2⟩).isSome = true := by
    decide +kernel
  have waits : ((ran patient .recorded company).pending? ⟨0, 3⟩).isSome = true := by
    decide +kernel
  exact independent ⟨patient, .recorded, company, rfl⟩ rfl rfl nofun tracked waits

end ListenerState

end Admission.Listener
