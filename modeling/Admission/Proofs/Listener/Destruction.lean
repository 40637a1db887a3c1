import Admission.Proofs.Listener.Survival
import Admission.Proofs.Listener.Traffic

/-!
Contract: when a connection is destroyed.

Owns:
- `Destroyed`, that a connection is gone;
- `Extends`, what sockets that come and leave add to the connections;
- `Grounded`, that every record is of a connection that was made, with `grounded_ran`;
- `destroyed_step_iff`: what is parked goes when it is cleared, and what is closed as soon as it is
  made goes at once.
-/

namespace Admission.Listener.ListenerState

open Admission.Chain

variable {σ : Type} {state : ListenerState σ}

/-- There was a connection of an identity, and it is gone. -/
def Destroyed (state : ListenerState σ) (id : Nat) : Prop :=
  (state.connectionOf? id).any (·.destroyed) = true

instance (state : ListenerState σ) (id : Nat) : Decidable (state.Destroyed id) :=
  inferInstanceAs (Decidable (_ = true))

private theorem connectionOf?_of_length_lt {id : Nat} (beyond : state.connections.length < id) :
    state.connectionOf? id = none := by
  unfold connectionOf?
  rw [if_neg (by omega), List.getElem?_eq_none_iff]
  omega

/-! ## Sockets -/

/-- New connections came to those that were made, and each is gone if and only if it is closed. -/
def Extends (before after : ListenerState σ) : Prop :=
  ∃ created, after.connections = before.connections ++ created ∧
    ∀ connection ∈ created, connection.destroyed = true ↔ connection.state = .closed

private theorem extends_finish (state : ListenerState σ) (pending : PendingSocket σ) :
    Extends state (state.finish pending).2 := by
  have none : ∀ connection ∈ ([] : List Connection),
      connection.destroyed = true ↔ connection.state = .closed :=
    fun _ listed => absurd listed List.not_mem_nil
  have concluded := state.concluded_finish pending
  generalize state.finish pending = result at concluded
  cases concluded with
  | rejected => exact ⟨[], (List.append_nil _).symm, none⟩
  | unmatched => exact ⟨[], (List.append_nil _).symm, none⟩
  | @refused matched passed found closed =>
      refine ⟨[(state.connectionFor pending.socket matched.chain).destroy], rfl, ?_⟩
      intro connection listed
      rw [List.mem_singleton.mp listed]
      exact iff_of_true rfl closed
  | @connected matched passed found unclosed =>
      refine ⟨[state.connectionFor pending.socket matched.chain], rfl, ?_⟩
      intro connection listed
      rw [List.mem_singleton.mp listed, state.connectionFor_destroyed]
      exact iff_of_false Bool.false_ne_true unclosed.lasting

private theorem Traffic.extends {before after : ListenerState σ} (traffic : Traffic before after) :
    Extends before after := by
  induction traffic with
  | waited frame =>
      rw [frame]
      exact ⟨[], (List.append_nil _).symm, fun _ listed => absurd listed List.not_mem_nil⟩
  | left before pending => exact before.extends_finish pending
  | trans _ _ first rest =>
      obtain ⟨early, earlyConnections, earlyGone⟩ := first
      obtain ⟨late, lateConnections, lateGone⟩ := rest
      refine ⟨early ++ late, ?_, ?_⟩
      · rw [lateConnections, earlyConnections, List.append_assoc]
      · intro connection listed
        rcases List.mem_append.mp listed with inEarly | inLate
        · exact earlyGone connection inEarly
        · exact lateGone connection inLate

/-! ## Records -/

/-- The records of all connections that were tracked and are not destroyed: those that are tracked
and those that are parked. -/
def custody (state : ListenerState σ) : List ConnectionRecord :=
  state.records ++ state.parked.filterMap Parked.record?

/-- A record is of a connection that was made. -/
def Grounded (state : ListenerState σ) : Prop :=
  ∀ record ∈ state.custody, 0 < record.connection ∧ record.connection ≤ state.connections.length

private theorem Grounded.of_subset (grounded : state.Grounded) {after : ListenerState σ}
    (fewer : after.custody ⊆ state.custody)
    (made : state.connections.length ≤ after.connections.length) : after.Grounded := by
  intro record listed
  obtain ⟨positive, bounded⟩ := grounded record (fewer listed)
  exact ⟨positive, Nat.le_trans bounded made⟩

private theorem Shelved.custody {before after : ListenerState σ} (shelved : Shelved before after) :
    after.custody.Perm before.custody := by
  obtain ⟨added, parked, _, moved⟩ := shelved.moved
  unfold ListenerState.custody
  rw [parked, List.filterMap_append]
  have together := moved.append_right (before.parked.filterMap Parked.record?)
  refine List.Perm.trans ?_ together.symm
  refine List.perm_append_comm.trans ?_
  rw [List.append_assoc]
  exact List.perm_append_comm

private theorem custody_park (state : ListenerState σ) (id : SocketId) (socket : Socket)
    (info : StreamInfo) (connected : Bool) :
    (state.park (.socket id socket info connected)).custody = state.custody :=
  congrArg (state.records ++ ·) (filterMap_record?_socket _ _ _ _ _)

theorem Housed.shelved_shutdown (housed : state.Housed) :
    Shelved state.withdrawn state.shutdown := by
  have tracking : state.withdrawn.Tracking :=
    ⟨housed.tracking.groups, housed.tracking.live, housed.tracking.own⟩
  rw [shutdown_eq]
  exact tracking.shelved_drain housed.distinct _

private theorem custody_withdrawn (state : ListenerState σ) :
    state.withdrawn.custody = state.custody := by
  unfold custody withdrawn
  rw [List.filterMap_append, filterMap_record?_abandoned, List.append_nil]
  rfl

/-- A socket that leaves makes at most one record, of the connection made for it. -/
theorem custody_finish (state : ListenerState σ) (tidy : Tidy state.groups)
    (pending : PendingSocket σ) :
    (state.finish pending).2.custody = state.custody ∨
      ∃ record, record.connection = state.connections.length + 1 ∧
        (state.finish pending).2.connections.length = state.connections.length + 1 ∧
        (state.finish pending).2.custody.Perm (record :: state.custody) := by
  have concluded := state.concluded_finish pending
  generalize state.finish pending = result at concluded
  cases concluded with
  | rejected => exact .inl (state.custody_park _ _ _ _)
  | unmatched => exact .inl (state.custody_park _ _ _ _)
  | refused => exact .inl (state.custody_park _ _ _ _)
  | @connected matched passed found unclosed =>
      have records := state.records_serving tidy pending matched
      refine .inr ⟨state.servedRecord pending matched, rfl, List.length_append, ?_⟩
      rw [custody_park]
      exact records.append_right (state.parked.filterMap Parked.record?)

private theorem Grounded.finish (grounded : state.Grounded) (tidy : Tidy state.groups)
    (pending : PendingSocket σ) : (state.finish pending).2.Grounded := by
  obtain ⟨created, connections, _⟩ := state.extends_finish pending
  have made : state.connections.length ≤ (state.finish pending).2.connections.length := by
    rw [connections, List.length_append]
    omega
  rcases state.custody_finish tidy pending with same | ⟨record, number, count, same⟩
  · exact grounded.of_subset (by rw [same]; exact List.Subset.refl _) made
  · intro other listed
    rcases List.mem_cons.mp (same.mem_iff.mp listed) with rfl | earlier
    · rw [number, count]
      exact ⟨Nat.succ_pos _, Nat.le_refl _⟩
    · obtain ⟨positive, bounded⟩ := grounded other earlier
      exact ⟨positive, Nat.le_trans bounded made⟩

private theorem Grounded.traffic {before after : ListenerState σ} (traffic : Traffic before after)
    (tidy : Tidy before.groups) (grounded : before.Grounded) :
    Tidy after.groups ∧ after.Grounded := by
  induction traffic with
  | waited frame =>
      rw [frame]
      exact ⟨tidy, grounded⟩
  | left before pending =>
      exact ⟨(before.settled_finish pending).tidy tidy, grounded.finish tidy pending⟩
  | trans _ _ first rest =>
      obtain ⟨tidyThen, groundedThen⟩ := first tidy grounded
      exact rest tidyThen groundedThen

theorem grounded_ran (config : ListenerConfig σ) (carrier : Carrier) (operations : List Operation) :
    (ran config carrier operations).Grounded := by
  induction operations using List.reverseRecOn with
  | nil => exact fun _ listed => absurd listed List.not_mem_nil
  | append_singleton operations operation inductionHypothesis =>
      have housed := housed_ran config carrier operations
      rw [ran_concat]
      generalize ran config carrier operations = state at housed inductionHypothesis ⊢
      rcases state.step_kinds operation with shelves | traffic | rfl | rfl
      · have shelved := housed.tracking.shelved_step housed.distinct shelves
        have made := state.length_of_shelves shelves
        exact inductionHypothesis.of_subset shelved.custody.subset (Nat.le_of_eq made.symm)
      · exact (inductionHypothesis.traffic traffic housed.tidy).2
      · have made := state.length_shutdown
        have custody := housed.shelved_shutdown.custody
        rw [custody_withdrawn] at custody
        exact inductionHypothesis.of_subset custody.subset (Nat.le_of_eq made.symm)
      · refine inductionHypothesis.of_subset ?_ (Nat.le_of_eq state.length_clearParked.symm)
        obtain ⟨connections, cleared⟩ := state.clearParked_frame
        show state.clearParked.2.custody ⊆ state.custody
        rw [cleared]
        exact List.append_subset.mpr ⟨List.subset_append_left _ _, List.nil_subset _⟩

/-! ## Destruction -/

/-- A connection was made, and it is closed already. -/
def ClosedNewly (before after : ListenerState σ) (id : Nat) : Prop :=
  before.connections.length < id ∧
    ∃ connection, after.connectionOf? id = some connection ∧ connection.state = .closed

private theorem not_destroyed_of_length_lt {id : Nat} (beyond : state.connections.length < id) :
    ¬ state.Destroyed id := by
  unfold Destroyed
  rw [connectionOf?_of_length_lt beyond]
  decide

private theorem destroyed_iff_of_view {before after : ListenerState σ}
    (same : after.connections.map (·.destroyed) = before.connections.map (·.destroyed)) (id : Nat) :
    after.Destroyed id ↔ before.Destroyed id ∨ ClosedNewly before after id := by
  have nothing : ¬ ClosedNewly before after id := by
    rintro ⟨beyond, connection, found, _⟩
    rw [← length_of_view same] at beyond
    rw [connectionOf?_of_length_lt beyond] at found
    exact absurd found (by simp)
  have view (state : ListenerState σ) : state.Destroyed id ↔
      id ≠ 0 ∧ (state.connections.map (·.destroyed))[id - 1]? = some true := by
    unfold Destroyed connectionOf?
    rw [List.getElem?_map]
    by_cases known : id = 0
    · simp [known]
    · cases state.connections[id - 1]? <;> simp [known]
  rw [or_iff_left nothing, view, view, same]

private theorem Extends.destroyed_iff {before after : ListenerState σ}
    (extended : Extends before after)
    (id : Nat) : after.Destroyed id ↔ before.Destroyed id ∨ ClosedNewly before after id := by
  obtain ⟨created, connections, gone⟩ := extended
  by_cases beyond : before.connections.length < id
  · have number : id ≠ 0 := by omega
    have found : after.connectionOf? id = created[id - 1 - before.connections.length]? := by
      unfold connectionOf?
      rw [if_neg number, connections, List.getElem?_append_right (by omega)]
    rw [or_iff_right (not_destroyed_of_length_lt beyond)]
    unfold Destroyed ClosedNewly
    rw [found]
    cases known : created[id - 1 - before.connections.length]? with
    | none => simp
    | some connection =>
        have same := gone connection (List.mem_of_getElem? known)
        simp [beyond, same]
  · have found : after.connectionOf? id = before.connectionOf? id := by
      unfold connectionOf?
      split
      · rfl
      · rw [connections, List.getElem?_append_left (by omega)]
    rw [or_iff_left fun newly => beyond newly.1]
    unfold Destroyed
    rw [found]

private theorem destroyed_withConnection_iff {number id : Nat} (positive : 0 < number)
    (made : number ≤ state.connections.length) :
    (state.withConnection number Connection.destroy).Destroyed id ↔
      state.Destroyed id ∨ number = id := by
  have found := state.connectionOf?_withConnection (Nat.ne_of_gt positive) Connection.destroy id
  unfold Destroyed
  rw [found]
  split
  · rename_i same
    have known : (state.connectionOf? id).isSome = true := by
      unfold connectionOf?
      rw [if_neg (by omega), isSome_getElem?]
      omega
    obtain ⟨connection, there⟩ := Option.isSome_iff_exists.mp known
    rw [there]
    exact iff_of_true rfl (.inr same.symm)
  · rename_i different
    exact (or_iff_left fun same => different same.symm).symm

private theorem destroyed_dropAll_iff (state : ListenerState σ) (objects : List Parked)
    (grounded : ∀ record ∈ objects.filterMap Parked.record?,
      0 < record.connection ∧ record.connection ≤ state.connections.length) (id : Nat) :
    (objects.foldl dropParked state).Destroyed id ↔
      state.Destroyed id ∨ ∃ record, .connection record ∈ objects ∧ record.connection = id := by
  induction objects generalizing state with
  | nil => simp
  | cons object rest inductionHypothesis =>
      have later := inductionHypothesis (state.dropParked object) (by
        intro record listed
        rw [state.length_dropParked]
        refine grounded record ?_
        rw [List.filterMap_cons]
        split
        · exact listed
        · exact List.mem_cons_of_mem _ listed)
      rw [List.foldl_cons, later]
      have same (idle : (state.dropParked object).connections = state.connections) :
          (state.dropParked object).Destroyed id ↔ state.Destroyed id := by
        unfold Destroyed connectionOf?
        rw [idle]
      cases object with
      | socket socketId socket info connected =>
          have first : (state.dropParked (.socket socketId socket info connected)).Destroyed id ↔
              state.Destroyed id := same (by cases connected <;> rfl)
          simp [first]
      | group group => simp [same rfl]
      | connection record =>
          obtain ⟨positive, made⟩ := grounded record List.mem_cons_self
          have first : (state.dropParked (.connection record)).Destroyed id ↔
              state.Destroyed id ∨ record.connection = id :=
            destroyed_withConnection_iff positive made
          rw [first]
          simp [or_assoc]

private theorem Grounded.destroyed_clearParked_iff (grounded : state.Grounded) (id : Nat) :
    state.clearParked.2.Destroyed id ↔
      state.Destroyed id ∨ ∃ record, .connection record ∈ state.parked ∧ record.connection = id :=
  destroyed_dropAll_iff { state with parked := [] } state.parked
    (fun record listed => grounded record (List.mem_append_right _ listed)) id

private theorem destroyed_step_iff_of_ne_clear {operation : Operation} (other : operation ≠ .clear)
    (id : Nat) : (state.step operation).Destroyed id ↔
      state.Destroyed id ∨ ClosedNewly state (state.step operation) id := by
  have closes : ∀ connection : Connection,
      (connection.close .noFlush).destroyed = connection.destroyed :=
    fun connection => connection.close_destroyed .noFlush
  rcases state.step_kinds operation with shelves | traffic | rfl | rfl
  · exact destroyed_iff_of_view (state.view_of_shelves closes shelves) id
  · exact traffic.extends.destroyed_iff id
  · exact destroyed_iff_of_view (state.view_shutdown closes) id
  · exact absurd rfl other

/-- An operation destroys nothing but the parked connections, which go when they are cleared, and the
connections that it makes and that are closed by then: these go at once and are never parked. -/
theorem destroyed_step_iff (config : ListenerConfig σ) (carrier : Carrier)
    (operations : List Operation) (operation : Operation) (id : Nat) :
    (ran config carrier (operations ++ [operation])).Destroyed id ↔
      (ran config carrier operations).Destroyed id ∨
      (operation = .clear ∧ ∃ record, .connection record ∈ (ran config carrier operations).parked ∧
        record.connection = id) ∨
      ClosedNewly (ran config carrier operations)
        (ran config carrier (operations ++ [operation])) id := by
  have grounded := grounded_ran config carrier operations
  rw [ran_concat]
  generalize ran config carrier operations = state at grounded ⊢
  by_cases clears : operation = .clear
  · have none : ¬ ClosedNewly state (state.step operation) id := by
      rintro ⟨beyond, connection, found, _⟩
      rw [clears] at found
      rw [← state.length_clearParked] at beyond
      rw [show state.step .clear = state.clearParked.2 from rfl,
        connectionOf?_of_length_lt beyond] at found
      exact absurd found (by simp)
    rw [or_iff_left none, and_iff_right clears, clears]
    exact grounded.destroyed_clearParked_iff id
  · have nothing : ¬ (operation = .clear ∧ ∃ record, .connection record ∈ state.parked ∧
        record.connection = id) := fun both => clears both.1
    rw [or_iff_right nothing]
    exact destroyed_step_iff_of_ne_clear clears id

/-- A chain without filters closes what is accepted on it, and nothing is left to be cleared. -/
theorem destroyed_without_clear :
    ¬ ∀ (operations : List Operation) (operation : Operation) (id : Nat), operation ≠ .clear →
      (ran unfiltered .recorded (operations ++ [operation])).Destroyed id →
      (ran unfiltered .recorded operations).Destroyed id := by
  intro claim
  have lasts := claim
    [.apply [FilterChainDescriptor.blank] (BuildScript.builder ⟨none, false, []⟩)]
    (.accept (Socket.between (.internal "here") (.internal "there")) 0) 1 (by simp)
    (by decide +kernel)
  exact absurd lasts (by decide +kernel)

end Admission.Listener.ListenerState
