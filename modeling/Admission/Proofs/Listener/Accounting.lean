import Admission.Proofs.Listener.Gauges

/-!
Contract: every accepted socket is accounted for once.

Owns:
- `timedOut`, the sockets that a time-out closed, and `abandoned`, those that a shutdown closed;
- `Accounted`, the balance of accepted sockets, kept by each effect of an operation;
- `sockets_accounted`.
-/

namespace Admission.Listener

open Admission.Chain

def Operation.isAccept : Operation → Bool
  | .accept _ _ => true
  | _ => false

/-- The sockets that came out of the listener filters other than by a time-out. -/
def ListenerStats.ended (stats : ListenerStats) : Nat :=
  stats.connectionsTotal + stats.noChainMatch + stats.filterErrors

/-- The time-out of a listener filter closed a socket. -/
def StreamInfo.isTimedOut (info : StreamInfo) : Bool :=
  info.flag = some .listenerFilterTimeout

private theorem StreamInfo.isTimedOut_of_unmarked {info : StreamInfo}
    (unmarked : info.flag = none) :
    info.isTimedOut = false := by
  unfold isTimedOut
  rw [unmarked]
  rfl

/-- A socket without a mark is counted as it ends. -/
theorem Tally.ended {σ : Type} {pending : PendingSocket σ} {before after : ListenerStats}
    {info : StreamInfo} (tally : Tally pending before after info)
    (unmarked : pending.info.flag = none) :
    after.ended = before.ended + 1 ∧ info.isTimedOut = false := by
  cases tally with
  | rejected => exact ⟨rfl, StreamInfo.isTimedOut_of_unmarked unmarked⟩
  | expired _ marked => exact absurd unmarked marked
  | unmatched =>
      refine ⟨?_, rfl⟩
      unfold ListenerStats.ended
      dsimp only
      omega
  | refused _ flag =>
      refine ⟨?_, StreamInfo.isTimedOut_of_unmarked (flag.trans unmarked)⟩
      unfold ListenerStats.ended
      dsimp only
      omega

namespace ListenerState

variable {σ : Type} {state : ListenerState σ} {config : ListenerConfig σ}
  {accepted lost : Nat}

/-- The sockets that a time-out closed, by the lines that they left or are going to leave. -/
def timedOut (state : ListenerState σ) : Nat :=
  (state.log ++ state.parked.filterMap Parked.line?).countP StreamInfo.isTimedOut

/-- Every accepted socket is counted in one place. -/
structure Accounted (config : ListenerConfig σ) (state : ListenerState σ)
    (accepted lost : Nat) : Prop where
  configured : state.config = config
  unmarked : ∀ record ∈ state.records, record.info.flag = none
  sockets : accepted =
    state.stats.ended + state.timedOut + state.pending.size + lost
  timeouts : state.timedOut = if config.continueOnTimeout then 0 else state.stats.pendingTimeouts

private theorem accounted_new (config : ListenerConfig σ) (carrier : Carrier) :
    Accounted config (ListenerState.new config carrier) 0 0 where
  configured := rfl
  unmarked := fun _ listed => absurd listed List.not_mem_nil
  sockets := rfl
  timeouts := by
    split <;> rfl

/-! ## Sockets -/

private theorem timedOut_park (state : ListenerState σ) (id : SocketId) (socket : Socket)
    (info : StreamInfo) :
    (state.park (.socket id socket info false)).timedOut =
      state.timedOut + [info].countP StreamInfo.isTimedOut := by
  unfold timedOut
  rw [log_park, parked_park, filterMap_line?_unconnected, ← List.append_assoc, List.countP_append]

private theorem timedOut_park_connected (state : ListenerState σ) (id : SocketId) (socket : Socket)
    (info : StreamInfo) :
    (state.park (.socket id socket info true)).timedOut = state.timedOut := by
  unfold timedOut
  rw [log_park, parked_park, filterMap_line?_connected]

/-- What is parked without the mark of a time-out changes no balance. -/
theorem Accounted.park (accounted : Accounted config state accepted lost) (id : SocketId)
    (socket : Socket) {info : StreamInfo} (notTimedOut : info.isTimedOut = false)
    (connected : Bool) :
    Accounted config (state.park (.socket id socket info connected)) accepted lost := by
  have same : (state.park (.socket id socket info connected)).timedOut = state.timedOut := by
    cases connected with
    | true => exact timedOut_park_connected state id socket info
    | false =>
        rw [timedOut_park, List.countP_singleton, notTimedOut]
        rfl
  refine ⟨accounted.configured, accounted.unmarked, ?_, ?_⟩
  · rw [same]
    exact accounted.sockets
  · rw [same]
    exact accounted.timeouts

private theorem Accounted.track (accounted : Accounted config state accepted lost)
    (tidy : Tidy state.groups) (chain : FilterChain) (connection : Nat) {info : StreamInfo}
    (unmarked : info.flag = none) (generation : MatchIndex) :
    Accounted config (state.track chain connection info generation).2 accepted lost := by
  have records := records_track tidy chain connection info generation
  refine ⟨accounted.configured, ?_, accounted.sockets, accounted.timeouts⟩
  intro record listed
  rcases List.mem_cons.mp (records.mem_iff.mp listed) with rfl | earlier
  · exact unmarked
  · exact accounted.unmarked record earlier

/-- A socket that leaves the listener filters without a mark is counted as ended. -/
theorem Settled.accounted {pending : PendingSocket σ} {result : SocketOutcome × ListenerState σ}
    (settled : Settled state pending result) (tidy : Tidy state.groups)
    (unmarked : pending.info.flag = none)
    (accounted : Accounted config state accepted (lost + 1)) :
    Accounted config result.2 accepted lost := by
  obtain ⟨configured, recordsUnmarked, sockets, timeouts⟩ := accounted
  cases settled with
  | @closed connections socket stats info tally =>
      obtain ⟨counted, notTimedOut⟩ := tally.ended unmarked
      have sameTimeouts : stats.pendingTimeouts = state.stats.pendingTimeouts := by
        rw [tally.frame]
      have after : Accounted config { state with connections := connections, stats := stats }
          accepted lost := by
        refine ⟨configured, recordsUnmarked, ?_, ?_⟩
        · show accepted = stats.ended + state.timedOut + state.pending.size + lost
          omega
        · show state.timedOut = if config.continueOnTimeout then 0 else stats.pendingTimeouts
          rw [sameTimeouts]
          exact timeouts
      exact after.park pending.id socket notTimedOut false
  | @connected connections connection info matched passed found flag =>
      have infoUnmarked : info.flag = none := flag.trans unmarked
      have made : Accounted config (state.made connections) accepted lost := by
        refine ⟨configured, recordsUnmarked, ?_, timeouts⟩
        have counted : (state.made connections).stats.ended = state.stats.ended + 1 := by
          unfold ListenerStats.ended
          rw [stats_made]
          dsimp only
          omega
        show accepted = (state.made connections).stats.ended + state.timedOut + state.pending.size +
          lost
        omega
      have tracked := made.track tidy matched.chain connection infoUnmarked matched.index
      exact tracked.park pending.id pending.socket
        (StreamInfo.isTimedOut_of_unmarked infoUnmarked) true

private theorem Arrived.accounted {socket : Socket} {now : Nat}
    {result : SocketOutcome × ListenerState σ}
    (arrived : Arrived state (state.arrival socket now) result) (housed : state.Housed)
    (accounted : Accounted config state accepted lost) :
    Accounted config result.2 (accepted + 1) lost := by
  have taken : Accounted config state.taken (accepted + 1) (lost + 1) :=
    ⟨accounted.configured, accounted.unmarked, congrArg (· + 1) accounted.sockets,
      accounted.timeouts⟩
  cases arrived with
  | held waits =>
      have size := housed.waiting.slots.size_insert (state.arrival socket now)
      have sockets := accounted.sockets
      refine ⟨accounted.configured, accounted.unmarked, ?_, accounted.timeouts⟩
      show accepted + 1 = state.stats.ended + state.timedOut +
        (state.pending.insert (state.arrival socket now)).size + lost
      omega
  | left settled => exact settled.accounted housed.tidy rfl taken

private theorem Accounted.released (accounted : Accounted config state accepted lost)
    {id : SocketId} {pending : PendingSocket σ} (found : state.pending? id = some pending) :
    Accounted config (state.released id.slot) accepted (lost + 1) := by
  have size := Slab.size_remove (pending?_eq_some_iff.mp found).1
  have sockets := accounted.sockets
  refine ⟨accounted.configured, accounted.unmarked, ?_, accounted.timeouts⟩
  show accepted = state.stats.ended + state.timedOut + (state.pending.remove id.slot).size +
    (lost + 1)
  omega

private theorem Accounted.modify (accounted : Accounted config state accepted lost) (slot : Nat)
    (change : PendingSocket σ → PendingSocket σ) :
    Accounted config { state with pending := state.pending.modify slot change } accepted
      lost := by
  refine ⟨accounted.configured, accounted.unmarked, ?_, accounted.timeouts⟩
  dsimp only
  rw [Slab.size_modify]
  exact accounted.sockets

private theorem Stepped.accounted {id : SocketId} {step : Pipeline σ → Socket → Pipeline σ × Socket}
    {result : SocketOutcome × ListenerState σ} (stepped : Stepped state id step result)
    (tidy : Tidy state.groups) (waiting : state.Waiting)
    (accounted : Accounted config state accepted lost) :
    Accounted config result.2 accepted lost := by
  cases stepped with
  | unknown => exact accounted
  | held => exact accounted.modify id.slot _
  | left found settled =>
      have unmarked := (waiting.waits _ _ (pending?_eq_some_iff.mp found).1).unmarked
      exact settled.accounted tidy unmarked (accounted.released found)

/-- A time-out that closes a socket is counted with the socket; one that does not is counted alone. -/
theorem TimedOut.accounted {id : SocketId} {result : SocketOutcome × ListenerState σ}
    (timedOut : TimedOut state id result) (tidy : Tidy state.groups) (waiting : state.Waiting)
    (accounted : Accounted config state accepted lost) :
    Accounted config result.2 accepted lost := by
  obtain ⟨configured, unmarked, sockets, timeouts⟩ := accounted
  cases timedOut with
  | continued continues stepped =>
      -- The counter of time-outs rises, but no socket is closed and none of the balances has it.
      rw [configured] at continues
      rw [if_pos continues] at timeouts
      have timed : Accounted config state.timed accepted lost :=
        ⟨configured, unmarked, sockets, timeouts.trans (if_pos continues).symm⟩
      have stillWaiting : state.timed.Waiting := waiting.of_pending rfl
      exact stepped.accounted tidy stillWaiting timed
  | @closed pending closes found socket =>
      rw [configured] at closes
      rw [if_neg (by rw [closes]; decide)] at timeouts
      have size := Slab.size_remove (pending?_eq_some_iff.mp found).1
      have marked : pending.expire.info.isTimedOut = true := rfl
      have lines := timedOut_park (state.timed.released id.slot) pending.id socket
        pending.expire.info
      rw [List.countP_singleton, marked, if_pos rfl] at lines
      refine ⟨configured, unmarked, ?_, ?_⟩
      · rw [lines]
        show accepted = state.stats.ended + (state.timedOut + 1) +
          (state.pending.remove id.slot).size + lost
        omega
      · rw [lines, if_neg (by rw [closes]; decide)]
        show state.timedOut + 1 = state.stats.pendingTimeouts + 1
        omega

private theorem Polled.accounted {ids : List SocketId}
    {result : List (SocketId × SocketOutcome) × ListenerState σ} (polled : Polled state ids result)
    (tidy : Tidy state.groups) (waiting : state.Waiting)
    (accounted : Accounted config state accepted lost) :
    Accounted config result.2 accepted lost := by
  induction polled with
  | done => exact accounted
  | next timedOut _ inductionHypothesis =>
      exact inductionHypothesis (timedOut.tidy tidy) (waiting.timedOut timedOut)
        (timedOut.accounted tidy waiting accounted)

/-! ## Operations -/

/-- Lines of connections bear no mark. -/
theorem Shelved.accounted {after : ListenerState σ} (shelved : Shelved state after)
    (accounted : Accounted config state accepted lost) :
    Accounted config after accepted lost := by
  obtain ⟨configured, unmarked, sockets, timeouts⟩ := accounted
  obtain ⟨added, parked, noSockets, moved⟩ := shelved.moved
  have sameConfig : after.config = state.config := by
    rw [shelved.frame]
  have samePending : after.pending = state.pending := by
    rw [shelved.frame]
  have sameStats : after.stats = state.stats := by
    rw [shelved.frame]
  have sameLog : after.log = state.log := by
    rw [shelved.frame]
  have noMarks : (added.filterMap Parked.line?).countP StreamInfo.isTimedOut = 0 := by
    rw [filterMap_line?_of_no_socket noSockets, List.countP_eq_zero]
    intro info listed
    obtain ⟨record, recordListed, rfl⟩ := List.mem_map.mp listed
    have before := moved.mem_iff.mpr (List.mem_append_left _ recordListed)
    rw [StreamInfo.isTimedOut_of_unmarked (unmarked record before)]
    decide
  have lines : after.timedOut = state.timedOut := by
    unfold timedOut
    rw [sameLog, parked, List.filterMap_append, ← List.append_assoc, List.countP_append, noMarks]
    rfl
  refine ⟨sameConfig.trans configured, ?_, ?_, ?_⟩
  · intro record listed
    exact unmarked record (moved.mem_iff.mpr (List.mem_append_right _ listed))
  · rw [sameStats, lines, samePending]
    exact sockets
  · rw [lines, sameStats]
    exact timeouts

/-- A shutdown abandons the sockets in listener filters, which have no mark. -/
theorem Accounted.withdrawn (accounted : Accounted config state accepted lost)
    (waiting : state.Waiting) :
    Accounted config state.withdrawn accepted (lost + state.pending.size) := by
  obtain ⟨configured, unmarked, sockets, timeouts⟩ := accounted
  have noMarks : (state.pending.values.map (·.info)).countP StreamInfo.isTimedOut = 0 := by
    rw [List.countP_eq_zero]
    intro info listed
    obtain ⟨pending, pendingListed, rfl⟩ := List.mem_map.mp listed
    obtain ⟨slot, found⟩ := Slab.mem_values_iff.mp pendingListed
    rw [StreamInfo.isTimedOut_of_unmarked (waiting.waits slot pending found).unmarked]
    decide
  have lines : state.withdrawn.timedOut = state.timedOut := by
    unfold timedOut ListenerState.withdrawn
    dsimp only
    rw [List.filterMap_append, filterMap_line?_abandoned, ← List.append_assoc, List.countP_append,
      noMarks]
    rfl
  refine ⟨configured, unmarked, ?_, ?_⟩
  · rw [lines]
    show accepted = state.stats.ended + state.timedOut + 0 + (lost + state.pending.size)
    omega
  · rw [lines]
    exact timeouts

/-- The sockets that an operation abandons in listener filters. -/
def abandonedBy (state : ListenerState σ) : Operation → Nat
  | .shutdown => state.pending.size
  | _ => 0

/-- Only an acceptance brings a socket, and only a shutdown abandons any. -/
theorem silent_of_shelves_or_moves {operation : Operation}
    (silent : operation.shelves = true ∨ operation.moves = true) (state : ListenerState σ) :
    [operation].countP Operation.isAccept = 0 ∧ state.abandonedBy operation = 0 := by
  cases operation with
  | accept => exact absurd silent (by simp [Operation.shelves, Operation.moves])
  | shutdown => exact absurd silent (by simp [Operation.shelves, Operation.moves])
  | _ => exact ⟨rfl, rfl⟩

private theorem Effect.accounted {operation : Operation} {outcomes : List SocketOutcome}
    {after : ListenerState σ} (effect : Effect state operation outcomes after)
    (housed : state.Housed) (accounted : Accounted config state accepted lost) :
    Accounted config after (accepted + [operation].countP Operation.isAccept)
      (lost + state.abandonedBy operation) := by
  have tidy := housed.tidy
  have waiting := housed.waiting
  cases effect with
  | shelved shelves shelved =>
      obtain ⟨noAccept, noneAbandoned⟩ := silent_of_shelves_or_moves (.inl shelves) state
      rw [noAccept, noneAbandoned]
      exact shelved.accounted accounted
  | arrived arrived => exact arrived.accounted housed accounted
  | stepped moves _ stepped =>
      obtain ⟨noAccept, noneAbandoned⟩ := silent_of_shelves_or_moves (.inr moves) state
      rw [noAccept, noneAbandoned]
      exact stepped.accounted tidy waiting accounted
  | polled polled => exact polled.accounted tidy waiting accounted
  | opened => exact accounted.modify _ _
  | ended shelved => exact shelved.accounted (accounted.withdrawn waiting)
  | cleared =>
      have lines : (state.log ++ state.parked.filterMap Parked.line? ++ []).countP
          StreamInfo.isTimedOut = state.timedOut := by
        rw [List.append_nil]
        rfl
      refine ⟨accounted.configured, accounted.unmarked, ?_, ?_⟩
      · exact accounted.sockets.trans (by rw [← lines]; rfl)
      · exact lines.trans accounted.timeouts

/-! ## Runs -/

/-- The sockets that the shutdowns of a run abandon in listener filters. -/
def abandoned (state : ListenerState σ) : List Operation → Nat
  | [] => 0
  | operation :: rest => state.abandonedBy operation + (state.step operation).abandoned rest

private theorem abandoned_concat (state : ListenerState σ) (operations : List Operation)
    (operation : Operation) :
    state.abandoned (operations ++ [operation]) =
      state.abandoned operations + (state.run operations).abandonedBy operation := by
  induction operations generalizing state with
  | nil => exact Nat.add_comm _ _
  | cons first rest inductionHypothesis =>
      rw [List.cons_append]
      unfold abandoned
      rw [inductionHypothesis, Nat.add_assoc]
      rfl

theorem accounted_ran (config : ListenerConfig σ) (carrier : Carrier)
    (operations : List Operation) :
    Accounted config (ran config carrier operations) (operations.countP Operation.isAccept)
      ((ListenerState.new config carrier).abandoned operations) := by
  induction operations using List.reverseRecOn with
  | nil => exact accounted_new config carrier
  | append_singleton operations operation inductionHypothesis =>
      rw [List.countP_append, abandoned_concat]
      exact (effect_ran config carrier operations operation).accounted
        (housed_ran config carrier operations) inductionHypothesis

/-- Throughout a run every accepted socket is counted exactly once: as a connection, as one that no
chain matched, as one that a filter rejected, as one that a time-out closed, as one in listener
filters, or as one that a shutdown abandoned. Time-outs close sockets only if these do not go on to
matching, and then each closes one. -/
theorem sockets_accounted (config : ListenerConfig σ) (carrier : Carrier)
    (operations : List Operation) :
    let state := ran config carrier operations
    operations.countP Operation.isAccept =
      state.stats.connectionsTotal + state.stats.noChainMatch + state.stats.filterErrors +
        state.timedOut + state.pending.size +
        (ListenerState.new config carrier).abandoned operations ∧
    state.timedOut = if config.continueOnTimeout then 0 else state.stats.pendingTimeouts := by
  have accounted := accounted_ran config carrier operations
  exact ⟨accounted.sockets, accounted.timeouts⟩

end ListenerState

end Admission.Listener
