import Admission.Listener.State
import Admission.Proofs.Listener.Connection
import Admission.Proofs.Listener.Slab

/-!
Contract: which connections a listener tracks, and what changes that.

Owns:
- `Tracking`, the invariant: a record sits where its handle says, its connection is not closed, and
  no other record has that connection;
- what `record?` gives after `track` and after `removeConnection`.
-/

namespace Admission.Listener

open Admission.Chain

/-- The records of a group sit in the slots that their handles name, and name its chain. -/
structure ConnectionGroup.Sound (group : ConnectionGroup) (chain : FilterChainId) : Prop where
  records : group.records.Sound
  placed : ∀ slot record, group.records.get? slot = some record →
    record.handle.chain = chain ∧ record.handle.slot = slot

theorem ConnectionGroup.get?_eq_some_iff {group : ConnectionGroup} {handle : ConnectionHandle}
    {record : ConnectionRecord} :
    group.get? handle = some record ↔
      group.records.get? handle.slot = some record ∧ record.handle = handle := by
  unfold get?
  rw [Option.filter_eq_some_iff, decide_eq_true_eq]

/-- A group without the record of a slot. -/
def ConnectionGroup.without (group : ConnectionGroup) (slot : Nat) : ConnectionGroup :=
  { group with records := group.records.remove slot }

theorem ConnectionGroup.Sound.without {group : ConnectionGroup} {chain : FilterChainId}
    (sound : group.Sound chain) (slot : Nat) : (group.without slot).Sound chain where
  records := sound.records.remove slot
  placed := by
    intro other record held
    unfold ConnectionGroup.without at held
    rw [Slab.get?_remove] at held
    split at held
    · exact absurd held (by simp)
    · exact sound.placed other record held

private theorem ConnectionGroup.get?_without {group : ConnectionGroup} {handle : ConnectionHandle}
    {record : ConnectionRecord} (held : group.get? handle = some record)
    (other : ConnectionHandle) :
    (group.without handle.slot).get? other = if other = handle then none else group.get? other := by
  obtain ⟨inSlot, same⟩ := get?_eq_some_iff.mp held
  unfold get? without
  rw [Slab.get?_remove]
  by_cases slot : other.slot = handle.slot
  · rw [if_pos slot, slot, inSlot]
    split
    · rfl
    · rename_i different
      have elsewhere : ¬ decide (record.handle = other) = true := by
        rw [decide_eq_true_eq, same]
        exact fun equal => different equal.symm
      rw [Option.filter_some, if_neg elsewhere]
      rfl
  · have different : other ≠ handle := fun equal => slot (congrArg (·.slot) equal)
    rw [if_neg slot, if_neg different]

private theorem ConnectionGroup.get?_of_size_eq_zero {group : ConnectionGroup}
    (empty : group.size = 0) (handle : ConnectionHandle) : group.get? handle = none := by
  unfold get?
  rw [Slab.size_eq_zero_iff.mp empty]
  rfl

namespace ListenerState

variable {σ : Type} {state : ListenerState σ}

theorem record?_eq_some_iff {handle : ConnectionHandle} {record : ConnectionRecord} :
    state.record? handle = some record ↔
      ∃ group, state.groups.get? handle.chain = some group ∧
        group.records.get? handle.slot = some record ∧ record.handle = handle := by
  unfold record?
  rw [Option.bind_eq_some_iff]
  simp only [ConnectionGroup.get?_eq_some_iff]

theorem handle_of_record? {handle : ConnectionHandle} {record : ConnectionRecord}
    (found : state.record? handle = some record) : record.handle = handle := by
  obtain ⟨_, _, _, same⟩ := record?_eq_some_iff.mp found
  exact same

/-- A record is found under its handle. -/
def Tracks (state : ListenerState σ) (record : ConnectionRecord) : Prop :=
  state.record? record.handle = some record

theorem tracks_of_record? {handle : ConnectionHandle} {record : ConnectionRecord}
    (found : state.record? handle = some record) : state.Tracks record := by
  unfold Tracks
  rw [handle_of_record? found]
  exact found

/-- There is a connection of an identity, and it is not closed. -/
def IsOpen (state : ListenerState σ) (id : Nat) : Prop :=
  ∃ connection, state.connectionOf? id = some connection ∧ connection.Unclosed

/-- The groups are sound, and the tracked connections are open and differ from each other. -/
structure Tracking (state : ListenerState σ) : Prop where
  groups : ∀ chain group, state.groups.get? chain = some group → group.Sound chain
  live : ∀ record, state.Tracks record → state.IsOpen record.connection
  own : ∀ left right, state.Tracks left → state.Tracks right →
    left.connection = right.connection → left = right

theorem tracking_new (config : ListenerConfig σ) (carrier : Carrier) :
    (ListenerState.new config carrier).Tracking where
  groups := fun _ _ none => absurd none (by simp [ListenerState.new])
  live := fun _ none => absurd none (by simp [Tracks, record?, ListenerState.new])
  own := fun _ _ none => absurd none (by simp [Tracks, record?, ListenerState.new])

theorem Tracking.withRegistry (tracking : state.Tracking) (registry : Registry) :
    { state with registry := registry }.Tracking :=
  ⟨tracking.groups, tracking.live, tracking.own⟩

/-- A record in a group is tracked. -/
theorem Tracking.tracks_of_group (tracking : state.Tracking) {chain : FilterChainId}
    {group : ConnectionGroup} (found : state.groups.get? chain = some group) {slot : Nat}
    {record : ConnectionRecord} (held : group.records.get? slot = some record) :
    state.Tracks record ∧ record.handle.chain = chain ∧ record.handle.slot = slot := by
  obtain ⟨here, there⟩ := (tracking.groups chain group found).placed slot record held
  refine ⟨record?_eq_some_iff.mpr ⟨group, ?_, ?_, rfl⟩, here, there⟩
  · rw [here]
    exact found
  · rw [there]
    exact held

/-- Tracking goes on where groups stay sound, records only go away, and the connections of those that
stay remain open. -/
theorem Tracking.shrink (tracking : state.Tracking) {after : ListenerState σ}
    (groups : ∀ chain group, after.groups.get? chain = some group → group.Sound chain)
    (tracks : ∀ record, after.Tracks record → state.Tracks record)
    (live : ∀ record, after.Tracks record → state.IsOpen record.connection →
      after.IsOpen record.connection) : after.Tracking where
  groups := groups
  live := fun record tracked => live record tracked (tracking.live record (tracks record tracked))
  own := fun left right leftTracked rightTracked same =>
    tracking.own left right (tracks left leftTracked) (tracks right rightTracked) same

/-! ## Connections -/

theorem connectionOf?_withConnection {id : Nat} (known : id ≠ 0) (change : Connection → Connection)
    (other : Nat) :
    (state.withConnection id change).connectionOf? other =
      if other = id then (state.connectionOf? other).map change else state.connectionOf? other := by
  unfold withConnection connectionOf?
  by_cases zero : other = 0
  · rw [if_pos zero, if_pos zero]
    split <;> rfl
  · dsimp only
    rw [if_neg zero, if_neg zero]
    by_cases same : other = id
    · rw [if_pos same, same, List.getElem?_modify_eq]
      rfl
    · have elsewhere : id - 1 ≠ other - 1 := by omega
      rw [if_neg same, List.getElem?_modify_ne _ _ elsewhere]

theorem IsOpen.ne_zero {id : Nat} (live : state.IsOpen id) : id ≠ 0 := by
  obtain ⟨connection, found, _⟩ := live
  intro zero
  rw [zero] at found
  exact absurd found (by simp [connectionOf?])

/-! ## New records -/

section Track

variable (state : ListenerState σ) (chain : FilterChain) (connection : Nat) (info : StreamInfo)
  (generation : MatchIndex)

/-- The group that a new record of a chain goes to. -/
def groupFor : ConnectionGroup :=
  (state.groups.get? chain.id).getD ⟨chain, .empty⟩

/-- The record that `track` makes. -/
def newRecord : ConnectionRecord :=
  ⟨(state.track chain connection info generation).1, connection, info, generation⟩

theorem groups_track :
    (state.track chain connection info generation).2.groups =
      state.groups.insert chain.id { state.groupFor chain with
        records := (state.groupFor chain).records.insert
          (state.newRecord chain connection info generation) } := rfl

private theorem record?_of_groupFor {handle : ConnectionHandle} (here : handle.chain = chain.id) :
    state.record? handle = (state.groupFor chain).get? handle := by
  unfold record? groupFor
  rw [here]
  cases state.groups.get? chain.id with
  | none => rfl
  | some group => rfl

variable {state}

section Sound

variable (sound : ∀ chain group, state.groups.get? chain = some group → group.Sound chain)

include sound

theorem groupFor_sound : (state.groupFor chain).Sound chain.id := by
  unfold groupFor
  cases found : state.groups.get? chain.id with
  | none => exact ⟨Slab.sound_empty, fun slot record held => absurd held (by simp)⟩
  | some group => exact sound chain.id group found

theorem groups_track_sound (other : FilterChainId) (group : ConnectionGroup)
    (found : (state.track chain connection info generation).2.groups.get? other = some group) :
    group.Sound other := by
  have before := groupFor_sound chain sound
  rw [groups_track, Table.get?_insert] at found
  split at found
  · rename_i here
    rw [here, ← Option.some.inj found]
    refine ⟨before.records.insert _, ?_⟩
    intro slot record held
    rw [before.records.get?_insert] at held
    split at held
    · rename_i vacant
      rw [← Option.some.inj held, vacant]
      exact ⟨rfl, rfl⟩
    · exact before.placed slot record held
  · exact sound other group found

end Sound

/-- Tracking adds one record and changes no other. -/
theorem Tracking.record?_track (tracking : state.Tracking) (handle : ConnectionHandle) :
    (state.track chain connection info generation).2.record? handle =
      if handle = (state.track chain connection info generation).1 then
        some (state.newRecord chain connection info generation)
      else state.record? handle := by
  have sound := (groupFor_sound chain tracking.groups).records
  have handleParts : (state.track chain connection info generation).1 =
      ⟨chain.id, (state.groupFor chain).records.vacant, state.nextSerial⟩ := rfl
  by_cases here : handle.chain = chain.id
  · have after : (state.track chain connection info generation).2.record? handle =
        (((state.groupFor chain).records.insert
          (state.newRecord chain connection info generation)).get? handle.slot).filter
            (·.handle = handle) := by
      unfold record?
      rw [groups_track, Table.get?_insert, if_pos here]
      rfl
    rw [after, sound.get?_insert, record?_of_groupFor state chain here]
    by_cases vacant : handle.slot = (state.groupFor chain).records.vacant
    · rw [if_pos vacant]
      unfold ConnectionGroup.get?
      rw [vacant, sound.get?_vacant]
      by_cases same : handle = (state.track chain connection info generation).1
      · rw [if_pos same]
        exact Option.filter_some_pos (decide_eq_true same.symm)
      · rw [if_neg same]
        exact Option.filter_some_neg (decide_eq_false fun made => same made.symm)
    · rw [if_neg vacant]
      have other : handle ≠ (state.track chain connection info generation).1 := by
        intro same
        rw [same, handleParts] at vacant
        exact vacant rfl
      rw [if_neg other]
      rfl
  · have other : handle ≠ (state.track chain connection info generation).1 := by
      intro same
      rw [same, handleParts] at here
      exact here rfl
    rw [if_neg other]
    unfold record?
    rw [groups_track, Table.get?_insert, if_neg here]

theorem Tracking.tracks_track (tracking : state.Tracking) {record : ConnectionRecord}
    (tracked : (state.track chain connection info generation).2.Tracks record) :
    record = state.newRecord chain connection info generation ∨ state.Tracks record := by
  unfold Tracks at tracked
  rw [tracking.record?_track] at tracked
  split at tracked
  · exact .inl (Option.some.inj tracked).symm
  · exact .inr tracked

theorem Tracking.track (tracking : state.Tracking) (live : state.IsOpen connection)
    (fresh : ∀ record, state.Tracks record → record.connection ≠ connection) :
    (state.track chain connection info generation).2.Tracking where
  groups := groups_track_sound chain connection info generation tracking.groups
  live := by
    intro record tracked
    rcases tracking.tracks_track chain connection info generation tracked with rfl | earlier
    · exact live
    · exact tracking.live record earlier
  own := by
    intro left right leftTracked rightTracked same
    rcases tracking.tracks_track chain connection info generation leftTracked with rfl | leftEarlier
    · rcases tracking.tracks_track chain connection info generation rightTracked with
        rfl | rightEarlier
      · rfl
      · exact absurd same.symm (fresh right rightEarlier)
    · rcases tracking.tracks_track chain connection info generation rightTracked with
        rfl | rightEarlier
      · exact absurd same (fresh left leftEarlier)
      · exact tracking.own left right leftEarlier rightEarlier same

end Track

/-! ## Removed records -/

/-- A removal parks the record. A group that it leaves empty goes as well, unless chains are being
drained. -/
theorem removeConnection_cases (state : ListenerState σ) (handle : ConnectionHandle) :
    (state.record? handle = none ∧ state.removeConnection handle = (false, state)) ∨
    (∃ group record, state.groups.get? handle.chain = some group ∧
      group.get? handle = some record ∧
      (group.without handle.slot).size = 0 ∧ state.draining = false ∧
      state.removeConnection handle = (true, { state with
        groups := state.groups.erase handle.chain
        parked := state.parked ++ [.connection record] ++ [.group (group.without handle.slot)] })) ∨
    (∃ group record, state.groups.get? handle.chain = some group ∧
      group.get? handle = some record ∧
      ((group.without handle.slot).size = 0 → state.draining = true) ∧
      state.removeConnection handle = (true, { state with
        groups := state.groups.insert handle.chain (group.without handle.slot)
        parked := state.parked ++ [.connection record] })) := by
  unfold removeConnection record?
  cases found : state.groups.get? handle.chain with
  | none => exact .inl ⟨rfl, rfl⟩
  | some group =>
      rw [Option.bind_some]
      dsimp only
      cases held : group.get? handle with
      | none => exact .inl ⟨rfl, rfl⟩
      | some record =>
          dsimp only
          split
          · rename_i emptied
            have resting : state.draining = false := eq_false_of_ne_true emptied.2
            exact .inr (.inl ⟨group, record, rfl, held, emptied.1, resting, rfl⟩)
          · rename_i left
            refine .inr (.inr ⟨group, record, rfl, held, ?_, rfl⟩)
            intro emptied
            by_contra resting
            exact left ⟨emptied, resting⟩

/-- Removal changes nothing but the groups and what is parked. -/
theorem removeConnection_frame (state : ListenerState σ) (handle : ConnectionHandle) :
    ∃ groups parked,
      (state.removeConnection handle).2 = { state with groups := groups, parked := parked } := by
  rcases state.removeConnection_cases handle with
    ⟨_, removed⟩ | ⟨_, _, _, _, _, _, removed⟩ | ⟨_, _, _, _, _, removed⟩
  all_goals
    rw [removed]
    exact ⟨_, _, rfl⟩

/-- Removal takes away one record and changes no other. -/
theorem record?_removeConnection (state : ListenerState σ) (handle other : ConnectionHandle) :
    (state.removeConnection handle).2.record? other =
      if other = handle then none else state.record? other := by
  rcases state.removeConnection_cases handle with
    ⟨unknown, removed⟩ | ⟨group, record, found, held, emptied, _, removed⟩ |
    ⟨group, record, found, held, _, removed⟩
  · rw [removed]
    split
    · rename_i same
      rw [same]
      exact unknown
    · rfl
  · have without := ConnectionGroup.get?_without held other
    rw [ConnectionGroup.get?_of_size_eq_zero emptied] at without
    rw [removed]
    unfold record?
    dsimp only
    rw [Table.get?_erase]
    by_cases chain : other.chain = handle.chain
    · rw [if_pos chain, chain, found]
      exact without
    · have different : other ≠ handle := fun same => chain (congrArg (·.chain) same)
      rw [if_neg chain, if_neg different]
  · have without := ConnectionGroup.get?_without held other
    rw [removed]
    unfold record?
    dsimp only
    rw [Table.get?_insert]
    by_cases chain : other.chain = handle.chain
    · rw [if_pos chain, chain, found]
      exact without
    · have different : other ≠ handle := fun same => chain (congrArg (·.chain) same)
      rw [if_neg chain, if_neg different]

theorem groups_removeConnection_sound {state : ListenerState σ}
    (sound : ∀ chain group, state.groups.get? chain = some group → group.Sound chain)
    (handle : ConnectionHandle) (chain : FilterChainId) (group : ConnectionGroup)
    (found : (state.removeConnection handle).2.groups.get? chain = some group) :
    group.Sound chain := by
  rcases state.removeConnection_cases handle with
    ⟨_, removed⟩ | ⟨_, _, _, _, _, _, removed⟩ | ⟨before, _, had, _, _, removed⟩
  · rw [removed] at found
    exact sound chain group found
  · rw [removed] at found
    dsimp only at found
    rw [Table.get?_erase] at found
    split at found
    · exact absurd found (by simp)
    · exact sound chain group found
  · rw [removed] at found
    dsimp only at found
    rw [Table.get?_insert] at found
    split at found
    · rename_i here
      rw [← Option.some.inj found, here]
      exact (sound handle.chain before had).without handle.slot
    · exact sound chain group found

theorem Tracking.removeConnection (tracking : state.Tracking) (handle : ConnectionHandle) :
    (state.removeConnection handle).2.Tracking := by
  refine tracking.shrink (groups_removeConnection_sound tracking.groups handle) ?_ ?_
  · intro record tracked
    unfold Tracks at tracked
    rw [record?_removeConnection] at tracked
    split at tracked
    · exact absurd tracked (by simp)
    · exact tracked
  · intro record _ live
    obtain ⟨groups, parked, removed⟩ := state.removeConnection_frame handle
    rw [removed]
    exact live

end ListenerState

end Admission.Listener
