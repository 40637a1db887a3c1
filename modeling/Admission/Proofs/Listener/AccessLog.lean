import Admission.Proofs.Listener.Departures
import Admission.Proofs.Listener.Destruction
import Admission.Proofs.Listener.Headroom
import Admission.Proofs.Listener.Identity

/-!
Contract: one line of the access log for every accepted socket.

Owns:
- `lines`, the lines that were written and those that are due, and `guests`, the sockets in listener
  filters;
- `Booked`, that a part of a run adds to these what arrives and departs in it, and `booked_ran`;
- `one_line_per_socket`.
-/

namespace Admission.Listener

open Admission.Chain
open scoped List

theorem perm_append_right_comm {α : Type} (front middle back : List α) :
    front ++ middle ++ back ~ front ++ back ++ middle := by
  rw [List.append_assoc, List.append_assoc]
  exact List.perm_append_comm.append_left front

/-- The line of a socket, by what the listener had put down of it. -/
def Departure.entry (departure : Departure) : StreamInfo :=
  match departure.fate with
  | .served connection chain =>
      { departure.info with connectionId := some connection, chainName := some chain.name }
  | .unmatched => departure.info.mark .noRouteFound "filter_chain_not_found"
  | .expired => departure.info.mark .listenerFilterTimeout "listener_filter_timeout"
  | .rejected => departure.info
  | .abandoned => departure.info

/-- Nothing but its addresses is known of a socket. -/
def StreamInfo.Blank (info : StreamInfo) : Prop :=
  info = .between info.localAddress info.remoteAddress

private theorem Departure.entry_eq_line {departure : Departure} (blank : departure.info.Blank) :
    departure.entry = departure.line := by
  obtain ⟨⟨id, info⟩, fate⟩ := departure
  unfold StreamInfo.Blank at blank
  unfold entry line
  dsimp only at blank ⊢
  rw [blank]
  cases fate <;> rfl

namespace ListenerState

variable {σ : Type} {state : ListenerState σ}

/-- The lines of the log, those that parked objects are going to leave, and those of the tracked
connections. -/
def lines (state : ListenerState σ) : List StreamInfo :=
  state.log ++ state.parked.filterMap Parked.line? ++ state.records.map (·.info)

/-- The sockets in listener filters. -/
def guests (state : ListenerState σ) : List Guest :=
  state.pending.values.map (·.guest)

/-- What arrives and departs in a part of a run, and what that adds to the books. -/
structure Booked (before after : ListenerState σ) (arrived : List Guest)
    (departed : List Departure) : Prop where
  lines : after.lines.Perm (before.lines ++ departed.map (·.entry))
  guests : (after.guests ++ departed.map (·.toGuest)).Perm (before.guests ++ arrived)
  numbers : departed.filterMap (·.fate.connection?) =
    List.range' (before.connections.length + 1) (departed.filterMap (·.fate.connection?)).length
  connections : after.connections.length =
    before.connections.length + (departed.filterMap (·.fate.connection?)).length
  total : after.stats.connectionsTotal =
    before.stats.connectionsTotal + (departed.filterMap (·.fate.connection?)).length
  unmatched : after.stats.noChainMatch =
    before.stats.noChainMatch + departed.countP (·.fate.flag? = some .noRouteFound)

namespace Booked

variable {before middle after : ListenerState σ}

/-- Nothing has left and nothing has come. -/
theorem of_same (lines : after.lines.Perm before.lines) (guests : after.guests = before.guests)
    (connections : after.connections.length = before.connections.length)
    (total : after.stats.connectionsTotal = before.stats.connectionsTotal)
    (unmatched : after.stats.noChainMatch = before.stats.noChainMatch) :
    Booked before after [] [] where
  lines := by
    rw [List.map_nil, List.append_nil]
    exact lines
  guests := by
    rw [guests]
    exact .refl _
  numbers := rfl
  connections := connections
  total := total
  unmatched := unmatched

private theorem refl (state : ListenerState σ) : Booked state state [] [] :=
  of_same (.refl _) rfl rfl rfl rfl

private theorem trans {earlyGuests lateGuests : List Guest}
    {earlyDepartures lateDepartures : List Departure}
    (first : Booked before middle earlyGuests earlyDepartures)
    (rest : Booked middle after lateGuests lateDepartures) :
    Booked before after (earlyGuests ++ lateGuests) (earlyDepartures ++ lateDepartures) where
  lines := by
    rw [List.map_append, ← List.append_assoc]
    exact rest.lines.trans (first.lines.append_right _)
  guests := by
    rw [List.map_append, ← List.append_assoc]
    -- What is in listener filters in between is there after the first part and before the rest.
    calc after.guests ++ earlyDepartures.map (·.toGuest) ++ lateDepartures.map (·.toGuest)
        ~ after.guests ++ lateDepartures.map (·.toGuest) ++ earlyDepartures.map (·.toGuest) :=
          perm_append_right_comm _ _ _
      _ ~ middle.guests ++ lateGuests ++ earlyDepartures.map (·.toGuest) :=
          rest.guests.append_right _
      _ ~ middle.guests ++ earlyDepartures.map (·.toGuest) ++ lateGuests :=
          perm_append_right_comm _ _ _
      _ ~ before.guests ++ earlyGuests ++ lateGuests := first.guests.append_right _
      _ = before.guests ++ (earlyGuests ++ lateGuests) := List.append_assoc _ _ _
  numbers := by
    have next := rest.numbers
    rw [first.connections, Nat.add_right_comm] at next
    rw [List.filterMap_append, List.length_append, ← List.range'_append_1, ← first.numbers, ← next]
  connections := by
    rw [List.filterMap_append, List.length_append, rest.connections, first.connections]
    omega
  total := by
    rw [List.filterMap_append, List.length_append, rest.total, first.total]
    omega
  unmatched := by
    rw [List.countP_append, rest.unmatched, first.unmatched]
    omega

end Booked

/-! ## Sockets -/

private theorem lines_park (state : ListenerState σ) (id : SocketId) (socket : Socket)
    (info : StreamInfo) :
    (state.park (.socket id socket info false)).lines ~ state.lines ++ [info] := by
  unfold lines
  rw [log_park, parked_park, filterMap_line?_unconnected, records_park, ← List.append_assoc]
  exact perm_append_right_comm _ _ _

private theorem lines_park_connected (state : ListenerState σ) (id : SocketId) (socket : Socket)
    (info : StreamInfo) : (state.park (.socket id socket info true)).lines = state.lines := by
  unfold lines
  rw [log_park, parked_park, filterMap_line?_connected, records_park]

/-- A socket leaves for its fate. -/
theorem booked_finish (state : ListenerState σ) (tidy : Tidy state.groups)
    (pending : PendingSocket σ) : Booked state (state.finish pending).2 [pending.guest]
      [⟨pending.guest, state.fateOf pending⟩] := by
  have concluded := state.concluded_finish pending
  unfold fateOf
  generalize state.finish pending = result at concluded
  cases concluded with
  | rejected stopped =>
      rw [if_neg stopped]
      have total : (state.stats.rejecting pending.info).connectionsTotal =
          state.stats.connectionsTotal := by
        unfold ListenerStats.rejecting
        split <;> rfl
      have unmatched : (state.stats.rejecting pending.info).noChainMatch =
          state.stats.noChainMatch := by
        unfold ListenerStats.rejecting
        split <;> rfl
      exact ⟨state.lines_park _ _ _, .refl _, rfl, rfl, total, unmatched⟩
  | unmatched passed lost =>
      rw [if_pos passed, lost]
      exact ⟨state.lines_park _ _ _, .refl _, rfl, rfl, rfl, rfl⟩
  | @refused matched passed found closed =>
      rw [if_pos passed, found]
      exact ⟨state.lines_park _ _ _, .refl _, rfl, List.length_append, rfl, rfl⟩
  | @connected matched passed found unclosed =>
      rw [if_pos passed, found]
      have records := (state.records_serving tidy pending matched).map (·.info)
      refine ⟨?_, .refl _, rfl, List.length_append, rfl, rfl⟩
      dsimp only
      rw [lines_park_connected]
      refine (records.append_left _).trans ?_
      exact List.perm_middle.trans (List.perm_append_singleton _ _).symm

private theorem guests_modify {slot : Nat} {change : PendingSocket σ → PendingSocket σ}
    (same : ∀ pending, state.pending.get? slot = some pending →
      (change pending).guest = pending.guest) :
    { state with pending := state.pending.modify slot change }.guests = state.guests :=
  Slab.map_values_modify same

private theorem guests_released {id : SocketId} {pending : PendingSocket σ}
    (found : state.pending? id = some pending) :
    state.guests ~ (state.released id.slot).guests ++ [pending.guest] := by
  have taken := (Slab.values_remove (pending?_eq_some_iff.mp found).1).map (·.guest)
  exact taken.trans (List.perm_append_singleton _ _).symm

private theorem booked_accept (housed : state.Housed) (socket : Socket) (now : Nat) :
    Booked state (state.accept socket now).2 [(state.arrival socket now).guest]
      (state.departing (state.arrival socket now)) := by
  have stopped : (state.arrival socket now).pipeline.Stopped := Pipeline.stopped_start _ socket
  have runs : ((state.arrival socket now).pipeline.state = .suspended ∨
      (state.arrival socket now).pipeline.state = .running) ↔
      (state.arrival socket now).pipeline.state = .suspended := or_iff_left stopped.rests
  rw [accept_eq]
  unfold departing
  rw [if_congr runs rfl rfl]
  split
  · have guests := (housed.waiting.slots.values_insert (state.arrival socket now)).map (·.guest)
    refine ⟨?_, ?_, rfl, rfl, rfl, rfl⟩
    · exact List.Perm.of_eq (List.append_nil _).symm
    · rw [List.map_nil, List.append_nil]
      exact guests.trans (List.perm_append_singleton _ _).symm
  · have finished := state.taken.booked_finish housed.tidy (state.arrival socket now)
    exact ⟨finished.lines, finished.guests, finished.numbers, finished.connections, finished.total,
      finished.unmatched⟩

private theorem booked_stepPending (state : ListenerState σ) (tidy : Tidy state.groups)
    (id : SocketId) (step : Pipeline σ → Socket → Pipeline σ × Socket) :
    Booked state (state.stepPending id step).2 [] (state.stepDepartures id step) := by
  unfold stepDepartures departing
  cases found : state.pending? id with
  | none =>
      unfold stepPending
      rw [found]
      exact .refl state
  | some pending =>
      obtain ⟨inSlot, _⟩ := pending?_eq_some_iff.mp found
      rw [state.stepPending_of_found found]
      dsimp only
      split
      · have same : ∀ other, state.pending.get? id.slot = some other →
            (pending.stepped step).guest = other.guest := by
          intro other held
          rw [inSlot] at held
          rw [← Option.some.inj held]
          rfl
        exact .of_same (.refl _) (guests_modify same) rfl rfl rfl
      · have finished := booked_finish (state.released id.slot) tidy (pending.stepped step)
        refine ⟨finished.lines, ?_, finished.numbers, finished.connections, finished.total,
          finished.unmatched⟩
        rw [List.append_nil]
        exact finished.guests.trans (guests_released found).symm

/-- A socket that ran out of time either goes on or departs with its mark. -/
theorem booked_timeOut (tidy : Tidy state.groups) (waiting : state.Waiting) {id : SocketId}
    {pending : PendingSocket σ} (found : state.pending? id = some pending) :
    Booked state (state.timeOut id).2 [] (state.timeOutDepartures id) := by
  unfold timeOutDepartures
  cases continues : state.config.continueOnTimeout with
  | true =>
      rw [timeOut_of_continue continues, if_pos rfl]
      have stepped := booked_stepPending state.timed tidy id
        fun pipeline socket => pipeline.resume socket true
      exact ⟨stepped.lines, stepped.guests, stepped.numbers, stepped.connections, stepped.total,
        stepped.unmatched⟩
  | false =>
      have timedOut := waiting.timedOut_timeOut found
      rw [if_neg (by decide), found]
      generalize state.timeOut id = result at timedOut
      cases timedOut with
      | continued other => exact absurd (continues.symm.trans other) (by decide)
      | @closed closing _ same socket =>
          rw [found] at same
          obtain rfl := Option.some.inj same
          refine ⟨lines_park _ _ _ _, ?_, rfl, rfl, rfl, rfl⟩
          rw [List.append_nil]
          exact (guests_released found).symm

private theorem booked_pollTimeouts (housed : state.Housed) (now : Nat) :
    Booked state (state.pollTimeouts now).2 [] (state.timeOutAllDepartures (state.expired now)) := by
  obtain ⟨present, distinct⟩ := housed.waiting.expired_present now
  refine housed.waiting.timeOutAll_rec (motive := fun state ids => Tidy state.groups →
    Booked state (state.timeOutAll ids).2 [] (state.timeOutAllDepartures ids)) ?_ ?_ present distinct
    housed.tidy
  · exact fun state _ => .refl state
  · intro state id ids pending waiting found rest tidy
    have first := booked_timeOut tidy waiting found
    have tidyThen := (waiting.timedOut_timeOut found).tidy tidy
    exact first.trans (rest tidyThen)

/-! ## Chains, connections and the end -/

private theorem Shelved.booked {before after : ListenerState σ} (shelved : Shelved before after)
    (made : after.connections.length = before.connections.length) : Booked before after [] [] := by
  obtain ⟨added, parked, noSockets, moved⟩ := shelved.moved
  have frame := shelved.frame
  refine .of_same ?_ ?_ made ?_ ?_
  · have log : after.log = before.log := by
      rw [frame]
    have due := filterMap_line?_of_no_socket noSockets
    have records := moved.map (·.info)
    unfold ListenerState.lines
    rw [log, parked, List.filterMap_append, due, ← List.append_assoc, List.append_assoc]
    rw [List.map_append] at records
    exact records.symm.append_left _
  · unfold ListenerState.guests
    rw [frame]
  · rw [frame]
  · rw [frame]

/-- The sockets in listener filters are given up. -/
theorem booked_withdrawn (state : ListenerState σ) :
    Booked state state.withdrawn [] (state.departures .shutdown) := by
  have entries : (state.departures .shutdown).map (·.entry) = state.pending.values.map (·.info) :=
    List.map_map
  have departing : (state.departures .shutdown).map (·.toGuest) = state.guests := List.map_map
  have none : (state.departures .shutdown).filterMap (·.fate.connection?) = [] := by
    simp [departures, Fate.connection?]
  have marked : (state.departures .shutdown).countP (·.fate.flag? = some .noRouteFound) = 0 := by
    simp [departures, Fate.flag?]
  refine ⟨?_, ?_, ?_, ?_, ?_, ?_⟩
  · unfold lines withdrawn
    rw [entries, List.filterMap_append, filterMap_line?_abandoned, ← List.append_assoc]
    exact perm_append_right_comm _ _ _
  · rw [departing, List.append_nil]
    exact .refl _
  · rw [none]
    rfl
  · rw [none]
    rfl
  · rw [none]
    rfl
  · rw [marked]
    rfl

private theorem booked_shutdown (housed : state.Housed) :
    Booked state state.shutdown [] (state.departures .shutdown) := by
  have made := state.length_shutdown
  have booked := state.booked_withdrawn.trans (housed.shelved_shutdown.booked made)
  rw [List.append_nil, List.append_nil] at booked
  exact booked

private theorem booked_clearParked (state : ListenerState σ) :
    Booked state state.clearParked.2 [] [] := by
  have made := state.length_clearParked
  obtain ⟨connections, cleared⟩ := state.clearParked_frame
  refine .of_same ?_ ?_ made ?_ ?_
  · rw [cleared]
    unfold lines
    rw [List.filterMap_nil, List.append_nil]
    exact .refl _
  · rw [cleared]
    rfl
  · rw [cleared]
    rfl
  · rw [cleared]
    rfl

private theorem booked_setOpen (state : ListenerState σ) (id : SocketId) (isOpen : Bool) :
    Booked state (state.setOpen id isOpen) [] [] := by
  unfold setOpen
  split
  · exact .of_same (.refl _) (guests_modify fun _ _ => rfl) rfl rfl rfl
  · exact .refl state

/-! ## Runs -/

theorem booked_step (housed : state.Housed) (operation : Operation) :
    Booked state (state.step operation) (state.arrivals operation) (state.departures operation) := by
  have shelves {operation : Operation} (shelves : operation.shelves = true) :
      Booked state (state.step operation) [] [] :=
    (housed.tracking.shelved_step housed.distinct shelves).booked
      (state.length_of_shelves shelves)
  cases operation with
  | accept socket now => exact booked_accept housed socket now
  | data id bytes => exact booked_stepPending state housed.tidy id _
  | resume id success => exact booked_stepPending state housed.tidy id _
  | poll now => exact booked_pollTimeouts housed now
  | setOpen id isOpen => exact state.booked_setOpen id isOpen
  | shutdown => exact booked_shutdown housed
  | clear => exact state.booked_clearParked
  | _ => exact shelves rfl

section Run

variable (config : ListenerConfig σ) (carrier : Carrier) (operations : List Operation)

theorem booked_ran : Booked (.new config carrier) (ran config carrier operations)
    (arrived config carrier operations) (departed config carrier operations) := by
  induction operations using List.reverseRecOn with
  | nil => exact .refl _
  | append_singleton operations operation inductionHypothesis =>
      rw [ran_concat, arrived_concat, departed_concat]
      exact inductionHypothesis.trans (booked_step (housed_ran config carrier operations) operation)

/-- Nothing but its addresses is known of a socket that is accepted. -/
theorem blank_of_arrived {guest : Guest} (listed : guest ∈ arrived config carrier operations) :
    guest.info.Blank := by
  induction operations using List.reverseRecOn with
  | nil => exact absurd listed List.not_mem_nil
  | append_singleton operations operation inductionHypothesis =>
      rw [arrived_concat] at listed
      rcases List.mem_append.mp listed with earlier | last
      · exact inductionHypothesis earlier
      · cases operation with
        | accept socket now =>
            rw [List.mem_singleton.mp last]
            rfl
        | _ => exact absurd last List.not_mem_nil

/-- An acceptance draws a serial for its socket. -/
theorem Arrived.serial {pending : PendingSocket σ} {result : SocketOutcome × ListenerState σ}
    (arrived : Arrived state pending result) (tidy : Tidy state.groups) :
    state.nextSerial + 1 ≤ result.2.nextSerial := by
  cases arrived with
  | held => exact Nat.le_refl _
  | left settled =>
      have taken : Tidy state.taken.groups := tidy
      exact (settled.inherits taken).serials

private theorem arrived_drawn :
    Drawn (ran config carrier operations).nextSerial
      ((arrived config carrier operations).map (·.id.serial)) := by
  induction operations using List.reverseRecOn with
  | nil => exact ⟨List.nodup_nil, fun _ none => absurd none List.not_mem_nil⟩
  | append_singleton operations operation inductionHypothesis =>
      have later := (inherits_ran config carrier operations [operation]).serials
      rw [arrived_concat, List.map_append]
      cases operation with
      | accept socket now =>
          have arrived := (ran config carrier operations).arrived_accept socket now
          have serial := arrived.serial (housed_ran config carrier operations).tidy
          rw [ran_concat]
          exact (inductionHypothesis.draw.perm (List.perm_append_singleton _ _)).mono serial
      | _ =>
          rw [show ListenerState.arrivals _ _ = [] from rfl, List.map_nil, List.append_nil]
          exact inductionHypothesis.mono later

/-- Whoever departs has arrived. -/
theorem mem_arrived_of_departed {departure : Departure}
    (listed : departure ∈ departed config carrier operations) :
    departure.toGuest ∈ arrived config carrier operations := by
  have guests := (booked_ran config carrier operations).guests
  exact guests.mem_iff.mp (List.mem_append_right _ (List.mem_map_of_mem listed))

/-- The lines of a run are due for those that have departed. -/
theorem lines_ran : (ran config carrier operations).lines ~
    (departed config carrier operations).map (·.line) := by
  have same : (departed config carrier operations).map (·.entry) =
      (departed config carrier operations).map (·.line) := by
    refine List.map_congr_left ?_
    intro departure listed
    exact departure.entry_eq_line
      (blank_of_arrived config carrier operations (mem_arrived_of_departed _ _ _ listed))
  rw [← same]
  exact (booked_ran config carrier operations).lines

private theorem log_finish (state : ListenerState σ) (pending : PendingSocket σ) :
    (state.finish pending).2.log = state.log := by
  have concluded := state.concluded_finish pending
  generalize state.finish pending = result at concluded
  cases concluded with
  | rejected => rfl
  | unmatched => rfl
  | refused => rfl
  | connected => rfl

private theorem Traffic.log {before after : ListenerState σ} (traffic : Traffic before after) :
    after.log = before.log := by
  induction traffic with
  | waited frame => rw [frame]
  | left before pending => exact before.log_finish pending
  | trans _ _ first rest => exact rest.trans first

/-- The log is written when parked objects are dropped, and never else. -/
theorem log_step (operation : Operation) : operation = .clear ∨
    (ran config carrier (operations ++ [operation])).log = (ran config carrier operations).log := by
  have housed := housed_ran config carrier operations
  rw [ran_concat]
  generalize ran config carrier operations = state at housed ⊢
  rcases state.step_kinds operation with shelves | traffic | rfl | rfl
  · have frame := (housed.tracking.shelved_step housed.distinct shelves).frame
    refine .inr ?_
    rw [frame]
  · exact .inr traffic.log
  · have frame := housed.shelved_shutdown.frame
    refine .inr ?_
    show state.shutdown.log = state.log
    rw [frame]
    rfl
  · exact .inl rfl

/-- At the end of a run, every socket that was accepted in it has left the listener filters once, and
for each there is one line in the log: it says which connection was made on which chain, if one was;
that no chain matched, if none did; and that a listener filter took too long, if one did. Lines are
written only when parked objects are dropped. -/
theorem one_line_per_socket :
    let whole := operations ++ [.shutdown, .clear]
    let final := ran config carrier whole
    let departed := departed config carrier whole
    (departed.map (·.toGuest)) ~ arrived config carrier whole ∧
    ((arrived config carrier whole).map (·.id.serial)).Nodup ∧
    final.log ~ departed.map (·.line) ∧
    (∀ earlier operation, operation = .clear ∨
      (ran config carrier (earlier ++ [operation])).log = (ran config carrier earlier).log) ∧
    departed.filterMap (·.fate.connection?) = List.range' 1 final.connections.length ∧
    final.log.countP (·.connectionId.isSome) = final.stats.connectionsTotal ∧
    final.log.countP (·.flag = some .noRouteFound) = final.stats.noChainMatch := by
  intro whole final departed
  obtain ⟨noSockets, noRecords, nothingParked⟩ :=
    emptied_of_shutdown_clear config carrier operations
  have booked := booked_ran config carrier whole
  have noGuests : final.guests = [] := by
    unfold guests
    rw [noSockets]
    rfl
  have log : final.log ~ departed.map (·.line) := by
    have due := lines_ran config carrier whole
    unfold lines at due
    rw [noRecords, nothingParked, List.filterMap_nil, List.map_nil, List.append_nil,
      List.append_nil] at due
    exact due
  refine ⟨?_, (arrived_drawn config carrier whole).distinct, log, ?_, ?_, ?_, ?_⟩
  · have guests := booked.guests
    rw [noGuests] at guests
    exact guests
  · exact fun earlier operation => log_step config carrier earlier operation
  · have made : final.connections.length = 0 + _ := booked.connections
    rw [made, Nat.zero_add]
    exact booked.numbers
  · have total : final.stats.connectionsTotal = 0 + _ := booked.total
    rw [log.countP_eq, List.countP_map, total, Nat.zero_add, List.length_filterMap_eq_countP]
    rfl
  · have unmatched : final.stats.noChainMatch = 0 + _ := booked.unmatched
    rw [log.countP_eq, List.countP_map, unmatched, Nat.zero_add]
    rfl

end Run

end ListenerState

end Admission.Listener
