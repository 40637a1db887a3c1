import Admission.Proofs.Listener.Effects

/-!
Contract: the gauges of a listener count what it has.

Owns:
- `Gauged`, what each gauge counts, and `Effect.gauged`, that it does so after every operation;
- `Effect.ever`, that every tracked connection is counted once.
-/

namespace Admission.Listener

open Admission.Chain

/-- A parked socket that never became a tracked connection. -/
def Parked.isUnconnected : Parked → Bool
  | .socket _ _ _ connected => !connected
  | _ => false

/-- What leaves a line is a record or such a socket. -/
theorem length_filterMap_line? (objects : List Parked) :
    (objects.filterMap Parked.line?).length =
      (objects.filterMap Parked.record?).length + objects.countP Parked.isUnconnected := by
  induction objects with
  | nil => rfl
  | cons object rest inductionHypothesis =>
      have here : ([object].filterMap Parked.line?).length =
          ([object].filterMap Parked.record?).length + [object].countP Parked.isUnconnected := by
        cases object with
        | socket id socket info connected => cases connected <;> rfl
        | connection record => rfl
        | group group => rfl
      rw [← List.singleton_append, List.filterMap_append, List.filterMap_append, List.countP_append,
        List.length_append, List.length_append, here, inductionHypothesis]
      omega

/-- Without sockets, every line is that of a record. -/
theorem filterMap_line?_of_no_socket {objects : List Parked}
    (none : ∀ object ∈ objects, object.socketId? = none) :
    objects.filterMap Parked.line? = (objects.filterMap Parked.record?).map (·.info) := by
  rw [List.map_filterMap]
  apply List.filterMap_congr
  intro object listed
  cases object with
  | socket id socket info connected => exact absurd (none _ listed) (by simp [Parked.socketId?])
  | connection record => rfl
  | group group => rfl

namespace ListenerState

variable {σ : Type} {state : ListenerState σ}

/-- What the gauges count. In the course of an operation some sockets may be in no place. -/
structure Gauged (state : ListenerState σ) (moving : Nat) : Prop where
  pending : state.stats.pendingActive = state.pending.size
  active : state.stats.connectionsActive =
    state.records.length + (state.parked.filterMap Parked.record?).length
  opened : state.stats.openObjects =
    state.pending.size + state.records.length + (state.parked.filterMap Parked.line?).length + moving

private theorem gauged_new (config : ListenerConfig σ) (carrier : Carrier) :
    (ListenerState.new config carrier).Gauged 0 :=
  ⟨rfl, rfl, rfl⟩

/-! ## Sockets -/

/-- A socket that is closed comes to a place again. -/
theorem Gauged.park (gauged : state.Gauged 1) (id : SocketId) (socket : Socket)
    (info : StreamInfo) : (state.park (.socket id socket info false)).Gauged 0 where
  pending := gauged.pending
  active := by
    rw [stats_park, records_park, parked_park, filterMap_record?_socket]
    exact gauged.active
  opened := by
    rw [stats_park, pending_park, records_park, parked_park, filterMap_line?_unconnected,
      List.length_append, List.length_singleton]
    exact gauged.opened

theorem Settled.gauged {pending : PendingSocket σ} {result : SocketOutcome × ListenerState σ}
    (settled : Settled state pending result) (tidy : Tidy state.groups) (gauged : state.Gauged 1) :
    result.2.Gauged 0 := by
  cases settled with
  | @closed connections socket stats info tally =>
      have counted : { state with connections := connections, stats := stats }.Gauged 1 := by
        rw [tally.frame]
        exact ⟨gauged.pending, gauged.active, gauged.opened⟩
      exact counted.park pending.id socket info
  | @connected connections connection info matched passed found flag =>
      obtain ⟨waiting, active, opened⟩ := gauged
      have made : Tidy (state.made connections).groups := tidy
      have records :
          ((state.made connections).track matched.chain connection info matched.index).2.records.length
            = state.records.length + 1 :=
        (records_track made matched.chain connection info matched.index).length_eq
      refine ⟨waiting, ?_, ?_⟩
      · simp only [stats_park, stats_track, stats_made, records_park, records, parked_park,
          parked_track, parked_made, filterMap_record?_socket]
        omega
      · simp only [stats_park, stats_track, stats_made, pending_park, pending_track, pending_made,
          records_park, records, parked_park, parked_track, parked_made, filterMap_line?_connected]
        omega

private theorem Gauged.released (gauged : state.Gauged 0) {id : SocketId}
    {pending : PendingSocket σ} (found : state.pending? id = some pending) :
    (state.released id.slot).Gauged 1 := by
  obtain ⟨waiting, active, opened⟩ := gauged
  have size := Slab.size_remove (pending?_eq_some_iff.mp found).1
  refine ⟨?_, active, ?_⟩
  · show state.stats.pendingActive - 1 = (state.pending.remove id.slot).size
    omega
  · show state.stats.openObjects = (state.pending.remove id.slot).size + state.records.length +
      (state.parked.filterMap Parked.line?).length + 1
    omega

private theorem Gauged.modify (gauged : state.Gauged 0) (slot : Nat)
    (change : PendingSocket σ → PendingSocket σ) :
    { state with pending := state.pending.modify slot change }.Gauged 0 := by
  have size := state.pending.size_modify slot change
  refine ⟨?_, gauged.active, ?_⟩
  · exact gauged.pending.trans size.symm
  · dsimp only
    rw [size]
    exact gauged.opened

theorem Arrived.gauged {pending : PendingSocket σ} {result : SocketOutcome × ListenerState σ}
    (arrived : Arrived state pending result) (housed : state.Housed) (gauged : state.Gauged 0) :
    result.2.Gauged 0 := by
  have taken : state.taken.Gauged 1 :=
    ⟨gauged.pending, gauged.active, congrArg (· + 1) gauged.opened⟩
  cases arrived with
  | held =>
      obtain ⟨waiting, active, opened⟩ := gauged
      have size := housed.waiting.slots.size_insert pending
      refine ⟨?_, active, ?_⟩
      · show state.stats.pendingActive + 1 = (state.pending.insert pending).size
        omega
      · show state.stats.openObjects + 1 = (state.pending.insert pending).size +
          state.records.length + (state.parked.filterMap Parked.line?).length + 0
        omega
  | left settled => exact settled.gauged housed.tidy taken

theorem Stepped.gauged {id : SocketId} {step : Pipeline σ → Socket → Pipeline σ × Socket}
    {result : SocketOutcome × ListenerState σ} (stepped : Stepped state id step result)
    (tidy : Tidy state.groups) (gauged : state.Gauged 0) : result.2.Gauged 0 := by
  cases stepped with
  | unknown => exact gauged
  | held => exact gauged.modify id.slot _
  | left found settled => exact settled.gauged tidy (gauged.released found)

theorem TimedOut.gauged {id : SocketId} {result : SocketOutcome × ListenerState σ}
    (timedOut : TimedOut state id result) (tidy : Tidy state.groups) (gauged : state.Gauged 0) :
    result.2.Gauged 0 := by
  have timed : state.timed.Gauged 0 := ⟨gauged.pending, gauged.active, gauged.opened⟩
  cases timedOut with
  | continued _ stepped => exact stepped.gauged tidy timed
  | @closed pending closes found socket =>
      have stillThere : state.timed.pending? id = some pending := found
      exact (timed.released stillThere).park _ _ _

theorem Polled.gauged {ids : List SocketId}
    {result : List (SocketId × SocketOutcome) × ListenerState σ} (polled : Polled state ids result)
    (tidy : Tidy state.groups) (gauged : state.Gauged 0) : result.2.Gauged 0 := by
  induction polled with
  | done => exact gauged
  | next timedOut _ inductionHypothesis =>
      exact inductionHypothesis (timedOut.tidy tidy) (timedOut.gauged tidy gauged)

/-! ## Operations -/

theorem Shelved.gauged {after : ListenerState σ} (shelved : Shelved state after)
    (gauged : state.Gauged 0) : after.Gauged 0 := by
  obtain ⟨waiting, active, opened⟩ := gauged
  obtain ⟨added, parked, noSockets, moved⟩ := shelved.moved
  have sockets : after.pending = state.pending := by
    rw [shelved.frame]
  have stats : after.stats = state.stats := by
    rw [shelved.frame]
  have records := moved.length_eq
  rw [List.length_append] at records
  have lines := congrArg List.length (filterMap_line?_of_no_socket noSockets)
  rw [List.length_map] at lines
  refine ⟨?_, ?_, ?_⟩
  · rw [stats, sockets]
    exact waiting
  · rw [stats, parked, List.filterMap_append, List.length_append]
    omega
  · rw [stats, sockets, parked, List.filterMap_append, List.length_append]
    omega

private theorem Gauged.withdrawn (gauged : state.Gauged 0) : state.withdrawn.Gauged 0 := by
  obtain ⟨waiting, active, opened⟩ := gauged
  refine ⟨?_, ?_, ?_⟩
  · show state.stats.pendingActive - state.pending.size = 0
    omega
  · show state.stats.connectionsActive = state.records.length +
      ((state.parked ++ state.pending.values.map (·.abandoned)).filterMap Parked.record?).length
    rw [List.filterMap_append, filterMap_record?_abandoned, List.append_nil]
    exact active
  · have size : state.pending.values.length = state.pending.size := rfl
    show state.stats.openObjects = 0 + state.records.length +
      ((state.parked ++ state.pending.values.map (·.abandoned)).filterMap Parked.line?).length + 0
    rw [List.filterMap_append, filterMap_line?_abandoned, List.length_append, List.length_map]
    omega

theorem Effect.gauged {operation : Operation} {outcomes : List SocketOutcome}
    {after : ListenerState σ} (effect : Effect state operation outcomes after)
    (housed : state.Housed) (gauged : state.Gauged 0) : after.Gauged 0 := by
  cases effect with
  | shelved _ shelved => exact shelved.gauged gauged
  | arrived arrived => exact arrived.gauged housed gauged
  | stepped _ _ stepped => exact stepped.gauged housed.tidy gauged
  | polled polled => exact polled.gauged housed.tidy gauged
  | opened => exact gauged.modify _ _
  | ended shelved => exact shelved.gauged gauged.withdrawn
  | cleared =>
      obtain ⟨waiting, active, opened⟩ := gauged
      refine ⟨waiting, ?_, ?_⟩
      · show state.stats.connectionsActive - (state.parked.filterMap Parked.record?).length =
          state.records.length
        omega
      · show state.stats.openObjects - (state.parked.filterMap Parked.line?).length =
          state.pending.size + state.records.length
        omega

theorem gauged_ran (config : ListenerConfig σ) (carrier : Carrier)
    (operations : List Operation) : (ran config carrier operations).Gauged 0 := by
  induction operations using List.reverseRecOn with
  | nil => exact gauged_new config carrier
  | append_singleton operations operation inductionHypothesis =>
      exact (effect_ran config carrier operations operation).gauged
        (housed_ran config carrier operations) inductionHypothesis

end ListenerState

/-! ## Connections ever tracked -/

/-- A socket's connection came to be tracked. -/
def SocketOutcome.isConnected : SocketOutcome → Bool
  | .connected _ => true
  | _ => false

/-- How many sockets' connections came to be tracked. -/
def connectedCount (outcomes : List SocketOutcome) : Nat :=
  outcomes.countP SocketOutcome.isConnected

theorem connectedCount_append (outcomes more : List SocketOutcome) :
    connectedCount (outcomes ++ more) = connectedCount outcomes + connectedCount more :=
  List.countP_append

/-- The connections that were ever tracked, as the gauges have it. -/
def ListenerStats.ever (stats : ListenerStats) : Nat :=
  stats.connectionsActive + stats.connectionsDestroyed

namespace ListenerState

variable {σ : Type} {state : ListenerState σ}

section Outcome

variable {id : SocketId} {result : SocketOutcome × ListenerState σ}

theorem Settled.ever {pending : PendingSocket σ} (settled : Settled state pending result) :
    result.2.stats.ever = state.stats.ever + connectedCount [result.1] := by
  cases settled with
  | closed _ _ tally =>
      rw [tally.frame]
      rfl
  | connected => exact Nat.add_right_comm _ _ _

theorem Arrived.ever {pending : PendingSocket σ} (arrived : Arrived state pending result) :
    result.2.stats.ever = state.stats.ever + connectedCount [result.1] := by
  cases arrived with
  | held => rfl
  | left settled => exact settled.ever

theorem Stepped.ever {step : Pipeline σ → Socket → Pipeline σ × Socket}
    (stepped : Stepped state id step result) :
    result.2.stats.ever = state.stats.ever + connectedCount [result.1] := by
  cases stepped with
  | unknown => rfl
  | held => rfl
  | left _ settled => exact settled.ever

theorem TimedOut.ever (timedOut : TimedOut state id result) :
    result.2.stats.ever = state.stats.ever + connectedCount [result.1] := by
  cases timedOut with
  | continued _ stepped => exact stepped.ever
  | closed => rfl

end Outcome

theorem Polled.ever {ids : List SocketId}
    {result : List (SocketId × SocketOutcome) × ListenerState σ}
    (polled : Polled state ids result) :
    result.2.stats.ever = state.stats.ever + connectedCount (result.1.map (·.2)) := by
  induction polled with
  | done => rfl
  | @next before middle after id ids outcome outcomes timedOut _ inductionHypothesis =>
      have first : middle.stats.ever = before.stats.ever + connectedCount [outcome] := timedOut.ever
      have split : connectedCount (outcome :: outcomes.map (·.2)) =
          connectedCount [outcome] + connectedCount (outcomes.map (·.2)) :=
        connectedCount_append [outcome] _
      rw [inductionHypothesis, first, Nat.add_assoc]
      exact congrArg (before.stats.ever + ·) split.symm

/-- Each outcome that says so counts one connection, and dropping one keeps it counted. -/
theorem Effect.ever {operation : Operation} {outcomes : List SocketOutcome}
    {after : ListenerState σ} (effect : Effect state operation outcomes after)
    (gauged : state.Gauged 0) :
    after.stats.ever = state.stats.ever + connectedCount outcomes := by
  cases effect with
  | shelved _ shelved =>
      rw [shelved.frame]
      rfl
  | arrived arrived => exact arrived.ever
  | stepped _ _ stepped => exact stepped.ever
  | polled polled => exact polled.ever
  | opened => rfl
  | ended shelved =>
      rw [shelved.frame]
      rfl
  | cleared =>
      have counted := gauged.active
      show state.stats.connectionsActive - (state.parked.filterMap Parked.record?).length +
        (state.stats.connectionsDestroyed + (state.parked.filterMap Parked.record?).length) =
          state.stats.connectionsActive + state.stats.connectionsDestroyed
      omega

end ListenerState

end Admission.Listener
