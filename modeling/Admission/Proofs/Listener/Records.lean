import Admission.Proofs.Listener.Drain
import Admission.Proofs.Listener.Events
import Admission.Proofs.Listener.Parking
import Admission.Proofs.Table

/-!
Contract: where the records of a listener are.

Owns:
- `records`, all tracked records, with `records_track` for a new one;
- `Tidy`, what keeps the groups apart;
- `Shelved`, that records moved from their groups to what is parked and nothing else happened but to
  the registry and to connections, with `shelved_step` for every operation that does no more than
  this.
-/

namespace Admission.Listener

open Admission.Chain

/-- A chain has one group, and the records of a group sit in the slots that their handles name. -/
structure Tidy (groups : Table FilterChainId ConnectionGroup) : Prop where
  distinct : groups.Distinct
  sound : ∀ chain group, groups.get? chain = some group → group.Sound chain

/-- The records of all groups. -/
def recordsOf (groups : Table FilterChainId ConnectionGroup) : List ConnectionRecord :=
  groups.values.flatMap (·.records.values)

section Groups

variable {groups : Table FilterChainId ConnectionGroup} {chain : FilterChainId}
  {group : ConnectionGroup}

private theorem recordsOf_found (distinct : groups.Distinct)
    (found : groups.get? chain = some group) :
    (recordsOf groups).Perm (group.records.values ++ recordsOf (groups.erase chain)) := by
  have apart := (distinct.values_erase found).flatMap_right (·.records.values)
  rw [List.flatMap_cons] at apart
  exact apart

private theorem recordsOf_insert (distinct : groups.Distinct) (chain : FilterChainId)
    (group : ConnectionGroup) :
    (recordsOf (groups.insert chain group)).Perm
      (group.records.values ++ recordsOf (groups.erase chain)) := by
  have apart := (distinct.values_insert chain group).flatMap_right (·.records.values)
  rw [List.flatMap_cons] at apart
  exact apart

theorem mem_recordsOf (found : groups.get? chain = some group) {slot : Nat}
    {record : ConnectionRecord} (held : group.records.get? slot = some record) :
    record ∈ recordsOf groups := by
  have listed : group ∈ groups.values :=
    List.mem_map.mpr ⟨_, Table.mem_of_find_eq_some found, rfl⟩
  exact List.mem_flatMap.mpr ⟨group, listed, Slab.mem_values_iff.mpr ⟨slot, held⟩⟩

end Groups

namespace ListenerState

variable {σ : Type} {state : ListenerState σ}

/-- All tracked records. -/
def records (state : ListenerState σ) : List ConnectionRecord :=
  recordsOf state.groups

theorem connectionCount_eq (state : ListenerState σ) :
    state.connectionCount = state.records.length := by
  unfold connectionCount records recordsOf
  rw [List.length_flatMap, List.sum, List.foldr_map]
  rfl

/-- Without groups nothing is tracked. -/
theorem records_of_no_group (gone : ∀ chain, state.groups.get? chain = none) :
    state.records = [] := by
  rw [List.eq_nil_iff_forall_not_mem]
  intro record listed
  obtain ⟨group, groupListed, _⟩ := List.mem_flatMap.mp listed
  obtain ⟨⟨chain, _⟩, entry, rfl⟩ := List.mem_map.mp groupListed
  exact Table.get?_eq_none_iff.mp (gone chain) (List.mem_map.mpr ⟨_, entry, rfl⟩)

section Fields

variable (state : ListenerState σ) (object : Parked) (chain : FilterChain) (connection : Nat)
  (info : StreamInfo) (generation : MatchIndex)

@[simp]
theorem pending_park : (state.park object).pending = state.pending := rfl

@[simp]
theorem records_park : (state.park object).records = state.records := rfl

@[simp]
theorem parked_park : (state.park object).parked = state.parked ++ [object] := rfl

@[simp]
theorem stats_park : (state.park object).stats = state.stats := rfl

@[simp]
theorem log_park : (state.park object).log = state.log := rfl

@[simp]
theorem pending_track :
    (state.track chain connection info generation).2.pending = state.pending := rfl

@[simp]
theorem parked_track :
    (state.track chain connection info generation).2.parked = state.parked := rfl

@[simp]
theorem stats_track : (state.track chain connection info generation).2.stats =
    { state.stats with connectionsActive := state.stats.connectionsActive + 1 } := rfl

end Fields

section Track

variable (tidy : Tidy state.groups) (chain : FilterChain) (connection : Nat) (info : StreamInfo)
  (generation : MatchIndex)

include tidy

/-- A new record comes to those that are tracked. -/
theorem records_track :
    (state.track chain connection info generation).2.records.Perm
      (state.newRecord chain connection info generation :: state.records) := by
  have before : state.records.Perm
      ((state.groupFor chain).records.values ++ recordsOf (state.groups.erase chain.id)) := by
    unfold groupFor
    cases found : state.groups.get? chain.id with
    | none =>
        rw [Table.erase_of_absent found]
        exact .refl _
    | some group => exact recordsOf_found tidy.distinct found
  have inserted := (groupFor_sound chain tidy.sound).records.values_insert
    (state.newRecord chain connection info generation)
  unfold records
  rw [groups_track]
  refine (recordsOf_insert tidy.distinct chain.id _).trans ?_
  exact (inserted.append_right _).trans (before.symm.cons _)

theorem tidy_track : Tidy (state.track chain connection info generation).2.groups where
  distinct := tidy.distinct.insert _ _
  sound := groups_track_sound chain connection info generation tidy.sound

end Track

/-! ## Records that leave -/

/-- Records moved from their groups to what is parked. No socket was parked. -/
structure Shelved (before after : ListenerState σ) : Prop where
  distinct : after.groups.Distinct
  moved : ∃ added, after.parked = before.parked ++ added ∧
    (∀ object ∈ added, object.socketId? = none) ∧
    before.records.Perm (added.filterMap Parked.record? ++ after.records)
  frame : after = { before with
    registry := after.registry
    groups := after.groups
    connections := after.connections
    parked := after.parked }

private theorem Shelved.refl (distinct : state.groups.Distinct) : Shelved state state where
  distinct := distinct
  moved := ⟨[], (List.append_nil _).symm, by simp, .refl _⟩
  frame := rfl

private theorem Shelved.trans {before middle after : ListenerState σ}
    (first : Shelved before middle) (rest : Shelved middle after) : Shelved before after where
  distinct := rest.distinct
  moved := by
    obtain ⟨firstAdded, firstParked, firstSockets, firstRecords⟩ := first.moved
    obtain ⟨restAdded, restParked, restSockets, restRecords⟩ := rest.moved
    refine ⟨firstAdded ++ restAdded, by rw [restParked, firstParked, List.append_assoc], ?_, ?_⟩
    · intro object listed
      rcases List.mem_append.mp listed with early | late
      · exact firstSockets object early
      · exact restSockets object late
    · rw [List.filterMap_append, List.append_assoc]
      exact firstRecords.trans (restRecords.append_left _)
  frame := by
    have last := rest.frame
    rw [first.frame] at last
    exact last

theorem shelved_removeConnection (distinct : state.groups.Distinct) (handle : ConnectionHandle) :
    Shelved state (state.removeConnection handle).2 := by
  rcases state.removeConnection_cases handle with
    ⟨_, removed⟩ | ⟨group, record, found, held, emptied, _, removed⟩ |
    ⟨group, record, found, held, _, removed⟩
  · rw [removed]
    exact .refl distinct
  · rw [removed]
    refine ⟨distinct.erase _, ⟨[.connection record, .group (group.without handle.slot)], ?_, ?_, ?_⟩,
      rfl⟩
    · rw [List.append_assoc]
      rfl
    · simp [Parked.socketId?]
    · have taken := Slab.values_remove (ConnectionGroup.get?_eq_some_iff.mp held).1
      have none : (group.records.remove handle.slot).values = [] :=
        List.length_eq_zero_iff.mp emptied
      rw [none] at taken
      exact (recordsOf_found distinct found).trans (taken.append_right _)
  · rw [removed]
    refine ⟨distinct.insert _ _, ⟨[.connection record], rfl, ?_, ?_⟩, rfl⟩
    · simp [Parked.socketId?]
    · have taken := Slab.values_remove (ConnectionGroup.get?_eq_some_iff.mp held).1
      have after := recordsOf_insert distinct handle.chain (group.without handle.slot)
      refine (recordsOf_found distinct found).trans ((taken.append_right _).trans ?_)
      exact (after.symm.cons record)

private theorem shelved_dropConnection (distinct : state.groups.Distinct)
    (handle : ConnectionHandle) :
    Shelved state (state.dropConnection handle) := by
  unfold dropConnection
  split
  · exact .refl distinct
  · rename_i record _
    have closed : Shelved state (state.withConnection record.connection (·.close .noFlush)) :=
      ⟨distinct, (Shelved.refl distinct).moved, rfl⟩
    exact closed.trans (shelved_removeConnection closed.distinct handle)

private theorem shelved_dropAll (distinct : state.groups.Distinct)
    (handles : List ConnectionHandle) :
    Shelved state (handles.foldl dropConnection state) := by
  induction handles generalizing state with
  | nil => exact .refl distinct
  | cons handle rest inductionHypothesis =>
      have first := shelved_dropConnection distinct handle
      exact first.trans (inductionHypothesis first.distinct)

private theorem groups_dropAll_sound
    (sound : ∀ chain group, state.groups.get? chain = some group → group.Sound chain)
    (handles : List ConnectionHandle) (chain : FilterChainId) (group : ConnectionGroup)
    (found : (handles.foldl dropConnection state).groups.get? chain = some group) :
    group.Sound chain := by
  induction handles generalizing state with
  | nil => exact sound chain group found
  | cons handle rest inductionHypothesis =>
      refine inductionHypothesis ?_ found
      unfold dropConnection
      split
      · exact sound
      · rename_i record _
        have closed : ∀ chain group,
            (state.withConnection record.connection (·.close .noFlush)).groups.get? chain =
              some group → group.Sound chain := sound
        exact groups_removeConnection_sound closed handle

/-- When the connections of a group were dropped, nothing is left in it. -/
theorem Tracking.emptied_of_dropAll (tracking : state.Tracking) (draining : state.draining = true)
    {chain : FilterChainId} {group last : ConnectionGroup}
    (found : state.groups.get? chain = some group)
    (left : (group.handles.foldl dropConnection state).groups.get? chain = some last) :
    last.records.values = [] := by
  have dropped := dropAll_dropped draining (tracking.records_batchwise found)
  have sound := groups_dropAll_sound tracking.groups group.handles chain last left
  rw [List.eq_nil_iff_forall_not_mem]
  intro record listed
  obtain ⟨slot, held⟩ := Slab.mem_values_iff.mp listed
  obtain ⟨here, there⟩ := sound.placed slot record held
  have remains : (group.handles.foldl dropConnection state).record? record.handle = some record := by
    refine record?_eq_some_iff.mpr ⟨last, ?_, ?_, rfl⟩
    · rw [here]
      exact left
    · rw [there]
      exact held
  unfold ConnectionGroup.handles at remains
  rw [dropped.record] at remains
  split at remains
  · exact absurd remains (by simp)
  · rename_i spared
    have earlier := (tracking.mem_records_iff found).mpr ⟨remains, here⟩
    exact spared (List.mem_map_of_mem earlier)

private theorem Tracking.shelved_drainChain (tracking : state.Tracking)
    (draining : state.draining = true) (distinct : state.groups.Distinct) (chain : FilterChainId) :
    Shelved state (state.drainChain chain) := by
  unfold drainChain
  split
  · exact .refl distinct
  · rename_i group found
    have shelved := shelved_dropAll distinct group.handles
    dsimp only
    split
    · exact shelved
    · rename_i last left
      have emptied := tracking.emptied_of_dropAll draining found left
      have others := recordsOf_found shelved.distinct left
      rw [emptied, List.nil_append] at others
      have taken : Shelved (group.handles.foldl dropConnection state)
          ({ group.handles.foldl dropConnection state with
            groups := (group.handles.foldl dropConnection state).groups.erase chain }.park
              (.group last)) :=
        ⟨shelved.distinct.erase chain, ⟨[.group last], rfl, by simp [Parked.socketId?], others⟩, rfl⟩
      exact shelved.trans taken

private theorem Tracking.shelved_drainAll (tracking : state.Tracking)
    (draining : state.draining = true) (distinct : state.groups.Distinct)
    (chains : List FilterChainId) :
    Shelved state (chains.foldl drainChain state) := by
  induction chains generalizing state with
  | nil => exact .refl distinct
  | cons chain rest inductionHypothesis =>
      have drained := tracking.drainChain_drained draining chain
      have first := tracking.shelved_drainChain draining distinct chain
      have stillDraining : (state.drainChain chain).draining = true := by
        rw [drained.frame]
        exact draining
      exact first.trans
        (inductionHypothesis (drained.tracking tracking) stillDraining first.distinct)

theorem Tracking.shelved_drain (tracking : state.Tracking) (distinct : state.groups.Distinct)
    (chains : List FilterChainId) : Shelved state (state.drain chains) := by
  have marked : { state with draining := true }.Tracking :=
    ⟨tracking.groups, tracking.live, tracking.own⟩
  have shelved := marked.shelved_drainAll rfl distinct chains
  refine ⟨shelved.distinct, shelved.moved, ?_⟩
  have frame := shelved.frame
  unfold drain
  rw [frame]

private theorem Tracking.shelved_drains (tracking : state.Tracking)
    (distinct : state.groups.Distinct) (activations : List Activation) :
    Shelved state (activations.foldl (fun state activation => state.drain activation.removed)
      state) := by
  induction activations generalizing state with
  | nil => exact .refl distinct
  | cons activation rest inductionHypothesis =>
      have first := tracking.shelved_drain distinct activation.removed
      have drained := tracking.drain_drained activation.removed
      exact first.trans (inductionHypothesis (drained.tracking tracking) first.distinct)

end ListenerState

/-! ## Operations -/

/-- An operation on chains and connections, which lets sockets be. -/
def Operation.shelves : Operation → Bool
  | .apply _ _ | .ready _ | .dispatch | .report _ _ | .remove _ | .drain _ => true
  | _ => false

namespace ListenerState

variable {σ : Type} {state : ListenerState σ}

theorem Tracking.shelved_step (tracking : state.Tracking) (distinct : state.groups.Distinct)
    {operation : Operation} (shelves : operation.shelves = true) :
    Shelved state (state.step operation) := by
  have event {event : Event} (does : operation.event? = some event) :
      Shelved state (state.step operation) := by
    have updated : Shelved state { state with registry := state.registry.step event } :=
      ⟨distinct, (Shelved.refl distinct).moved, rfl⟩
    rw [state.step_of_event does]
    have tracked := tracking.withRegistry (state.registry.step event)
    exact updated.trans (tracked.shelved_drains updated.distinct _)
  cases operation with
  | apply descriptors builder => exact event rfl
  | ready target => exact event rfl
  | dispatch => exact event rfl
  | report handle reported =>
      unfold step onConnectionEvent
      dsimp only
      split
      · exact shelved_removeConnection distinct handle
      · exact .refl distinct
  | remove handle => exact shelved_removeConnection distinct handle
  | drain chains => exact tracking.shelved_drain distinct chains
  | _ => exact absurd shelves (by simp [Operation.shelves])

end ListenerState

end Admission.Listener
