import Admission.Proofs.Listener.Serials

/-!
Contract: the representation of a listener, throughout a run.

Owns:
- `Based`, that no group is empty and each is that of a chain of the active generation, kept by each
  operation;
- `WellFormed`, all that ties sockets, records, groups and generations together, and
  `wellFormed_ran`.
-/

namespace Admission.Listener.ListenerState

open Admission.Chain

variable {σ : Type} {state : ListenerState σ} {batches : List (List FilterChainDescriptor)}

/-- A group belongs under the identity of its chain, which is one of the active generation. -/
structure Current (registry : Registry) (chain : FilterChainId) (group : ConnectionGroup) : Prop where
  keyed : group.chain.id = chain
  listed : ∃ key active, registry.active = some active ∧ (key, group.chain) ∈ active.chains

/-- No drain is under way, and every group has connections and belongs to the active generation. -/
structure Based (state : ListenerState σ) : Prop where
  resting : state.draining = false
  occupied : ∀ chain group, state.groups.get? chain = some group → group.size ≠ 0
  current : ∀ chain group, state.groups.get? chain = some group →
    Current state.registry chain group

private theorem based_new (config : ListenerConfig σ) (carrier : Carrier) :
    (ListenerState.new config carrier).Based where
  resting := rfl
  occupied := fun _ _ none => absurd none (by simp [ListenerState.new])
  current := fun _ _ none => absurd none (by simp [ListenerState.new])

/-- Groups may go away as long as those that stay belong to the generation that is active then. -/
theorem Based.shrink (based : state.Based) {after : ListenerState σ}
    (resting : after.draining = state.draining)
    (groups : ∀ chain group, after.groups.get? chain = some group →
      state.groups.get? chain = some group)
    (current : ∀ chain group, after.groups.get? chain = some group →
      Current state.registry chain group → Current after.registry chain group) : after.Based where
  resting := resting.trans based.resting
  occupied := fun chain group found => based.occupied chain group (groups chain group found)
  current := fun chain group found =>
    current chain group found (based.current chain group (groups chain group found))

private theorem Based.calm (based : state.Based) {after : ListenerState σ} (calm : Calm state after)
    (resting : after.draining = state.draining) : after.Based := by
  refine based.shrink resting ?_ ?_
  · intro chain group found
    rw [← calm.groups]
    exact found
  · intro chain group _ current
    rw [calm.registry]
    exact current

/-! ## Connections -/

private theorem Based.removeConnection (based : state.Based) (handle : ConnectionHandle) :
    (state.removeConnection handle).2.Based := by
  rcases state.removeConnection_cases handle with
    ⟨_, removed⟩ | ⟨_, _, _, _, _, _, removed⟩ | ⟨group, _, here, _, emptied, removed⟩
  · rw [removed]
    exact based
  · rw [removed]
    refine based.shrink rfl ?_ fun _ _ _ current => current
    intro chain group found
    dsimp only at found
    rw [Table.get?_erase] at found
    split at found
    · exact absurd found (by simp)
    · exact found
  · rw [removed]
    refine ⟨based.resting, ?_, ?_⟩
    · intro chain other found
      dsimp only at found
      rw [Table.get?_insert] at found
      split at found
      · rw [← Option.some.inj found]
        intro none
        -- A group that lost its last record stays only while a drain is under way.
        exact absurd (based.resting.symm.trans (emptied none)) (by decide)
      · exact based.occupied chain other found
    · intro chain other found
      dsimp only at found
      rw [Table.get?_insert] at found
      split at found
      · rename_i same
        rw [← Option.some.inj found, same]
        have before := based.current handle.chain group here
        exact ⟨before.keyed, before.listed⟩
      · exact based.current chain other found

private theorem Based.drained (based : state.Based) {after : ListenerState σ}
    {chains : List FilterChainId} (drained : Drained state after chains) : after.Based := by
  have resting : after.draining = state.draining := by
    rw [drained.frame]
  have registry : after.registry = state.registry := by
    rw [drained.frame]
  refine based.shrink resting ?_ ?_
  · intro chain group found
    rw [drained.groups] at found
    split at found
    · exact absurd found (by simp)
    · exact found
  · intro chain group _ current
    rw [registry]
    exact current

/-! ## Sockets -/

private theorem Based.track (based : state.Based) (coherent : state.Coherent batches)
    {matched : LookupMatch} (active : state.registry.active = some matched.index)
    {key : ReuseKey} (listed : (key, matched.chain) ∈ matched.index.chains) (connection : Nat)
    (info : StreamInfo) :
    (state.track matched.chain connection info matched.index).2.Based := by
  refine ⟨based.resting, ?_, ?_⟩
  · intro chain group found
    rw [groups_track, Table.get?_insert] at found
    split at found
    · rw [← Option.some.inj found]
      have sound := (groupFor_sound matched.chain coherent.tracking.groups).records
      intro none
      have filled := (sound.values_insert
        (state.newRecord matched.chain connection info matched.index)).length_eq
      exact absurd (filled.symm.trans none) (by simp)
    · exact based.occupied chain group found
  · intro chain group found
    rw [groups_track, Table.get?_insert] at found
    split at found
    · rename_i here
      rw [← Option.some.inj found, here]
      have before : Current state.registry matched.chain.id (state.groupFor matched.chain) := by
        unfold groupFor
        cases earlier : state.groups.get? matched.chain.id with
        | none => exact ⟨rfl, key, matched.index, active, listed⟩
        | some group => exact based.current matched.chain.id group earlier
      exact ⟨before.keyed, before.listed⟩
    · exact based.current chain group found

private theorem Based.settled (based : state.Based) (coherent : state.Coherent batches)
    {pending : PendingSocket σ} {result : SocketOutcome × ListenerState σ}
    (settled : Settled state pending result) : result.2.Based := by
  cases settled with
  | closed => exact ⟨based.resting, based.occupied, based.current⟩
  | @connected connections connection info matched passed found flag =>
      obtain ⟨active, _, key, listed⟩ := coherent.chain_of_lookup found
      have tracked := based.track coherent active listed connection info
      exact ⟨tracked.resting, tracked.occupied, tracked.current⟩

private theorem Based.accept (based : state.Based) (coherent : state.Coherent batches)
    (socket : Socket) (now : Nat) : (state.accept socket now).2.Based := by
  have calm : Calm state state.taken := ⟨rfl, rfl, fun _ live => live⟩
  have arrived := state.arrived_accept socket now
  generalize state.accept socket now = result at arrived
  cases arrived with
  | held => exact based.calm ⟨rfl, rfl, fun _ live => live⟩ rfl
  | left settled => exact (based.calm calm rfl).settled (coherent.calm calm) settled

private theorem Based.stepPending (based : state.Based) (coherent : state.Coherent batches)
    (id : SocketId) (step : Pipeline σ → Socket → Pipeline σ × Socket) :
    (state.stepPending id step).2.Based := by
  have calm : Calm state (state.released id.slot) := ⟨rfl, rfl, fun _ live => live⟩
  have stepped := state.stepped_stepPending id step
  generalize state.stepPending id step = result at stepped
  cases stepped with
  | unknown => exact based
  | held => exact based.calm ⟨rfl, rfl, fun _ live => live⟩ rfl
  | left _ settled => exact (based.calm calm rfl).settled (coherent.calm calm) settled

private theorem Based.timeOut (based : state.Based) (coherent : state.Coherent batches)
    (id : SocketId) :
    (state.timeOut id).2.Based := by
  refine Based.stepPending ?_ (coherent.calm ?_) id _
  · exact based.calm ⟨rfl, rfl, fun _ live => live⟩ rfl
  · exact ⟨rfl, rfl, fun _ live => live⟩

private theorem Based.timeOutAll (based : state.Based) (coherent : state.Coherent batches)
    (ids : List SocketId) : (state.timeOutAll ids).2.Based := by
  induction ids generalizing state with
  | nil => exact based
  | cons id rest inductionHypothesis =>
      exact inductionHypothesis (based.timeOut coherent id) (coherent.timeOut id)

/-! ## Generations -/

/-- A group that an activation leaves is that of a chain that the new index has kept. -/
theorem Based.activated (based : state.Based) (coherent : state.Coherent batches)
    {after : ListenerState σ} {index : MatchIndex}
    {later : List (List FilterChainDescriptor)} (activated : Activated state after index later) :
    after.Based := by
  obtain ⟨registry, _, active, drained⟩ := activated.drained coherent.tracking
  have sameRegistry : after.registry = registry := by
    rw [drained.frame]
  have resting : after.draining = state.draining := by
    rw [drained.frame]
  have groups : ∀ chain group, after.groups.get? chain = some group →
      chain ∉ (state.registry.activationOf index).removed ∧ state.groups.get? chain = some group := by
    intro chain group found
    rw [drained.groups] at found
    split at found
    · exact absurd found (by simp)
    · rename_i kept
      exact ⟨kept, found⟩
  refine based.shrink resting (fun chain group found => (groups chain group found).2) ?_
  intro chain group found current
  obtain ⟨key, old, before, listed⟩ := current.listed
  have kept := (groups chain group found).1
  rw [← current.keyed] at kept
  refine ⟨current.keyed, key, index, ?_, ?_⟩
  · rw [sameRegistry]
    exact active
  · exact mem_of_not_removed coherent.registry activated.succeeds before listed kept

private theorem Based.updated (based : state.Based) {registry : Registry}
    (active : registry.active = state.registry.active) :
    { state with registry := registry }.Based := by
  refine based.shrink rfl (fun _ _ found => found) ?_
  intro chain group _ current
  obtain ⟨key, old, before, listed⟩ := current.listed
  exact ⟨current.keyed, key, old, active.trans before, listed⟩

theorem Based.step (based : state.Based) (coherent : state.Coherent batches)
    (operation : Operation) : (state.step operation).Based := by
  cases operation with
  | apply descriptors builder =>
      rcases coherent.applyChains_cases descriptors builder with
        ⟨index, _, activated⟩ | ⟨_, registry, _, active, result⟩
      · exact based.activated coherent activated
      · unfold ListenerState.step
        dsimp only
        rw [result]
        exact based.updated active
  | ready target => exact based.updated rfl
  | dispatch =>
      rcases coherent.dispatchWarmed_cases with
        ⟨index, _, activated⟩ | ⟨_, registry, _, active, result⟩
      · exact based.activated coherent activated
      · unfold ListenerState.step
        dsimp only
        rw [result]
        exact based.updated active
  | accept socket now => exact based.accept coherent socket now
  | data id bytes => exact based.stepPending coherent id _
  | resume id success => exact based.stepPending coherent id _
  | poll now => exact based.timeOutAll coherent _
  | setOpen id isOpen =>
      refine based.calm (state.calm_setOpen id isOpen) ?_
      unfold ListenerState.step setOpen
      dsimp only
      split <;> rfl
  | report handle reported =>
      unfold ListenerState.step onConnectionEvent
      dsimp only
      split
      · exact based.removeConnection handle
      · exact based
  | remove handle => exact based.removeConnection handle
  | drain chains => exact based.drained (coherent.tracking.drain_drained chains)
  | shutdown =>
      have calm : Calm state state.withdrawn := ⟨rfl, rfl, fun _ live => live⟩
      have drained := (coherent.calm calm).tracking.drain_drained state.groups.keys
      unfold ListenerState.step
      dsimp only
      rw [shutdown_eq]
      exact (based.calm calm rfl).drained drained
  | clear =>
      refine based.calm state.calm_clearParked ?_
      obtain ⟨connections, cleared⟩ := state.clearParked_frame
      unfold ListenerState.step
      dsimp only
      rw [cleared]

theorem based_ran (config : ListenerConfig σ) (carrier : Carrier) (operations : List Operation) :
    (ran config carrier operations).Based := by
  induction operations using List.reverseRecOn with
  | nil => exact based_new config carrier
  | append_singleton operations operation inductionHypothesis =>
      rw [ran_concat]
      exact inductionHypothesis.step (coherent_ran config carrier operations) operation

/-! ## The invariant -/

/-- A live record and where it is: the group of a chain has it in a slot. -/
def Holds (state : ListenerState σ) (chain : FilterChainId) (slot : Nat)
    (record : ConnectionRecord) : Prop :=
  ∃ group, state.groups.get? chain = some group ∧ group.records.get? slot = some record

/-- What ties the parts of a listener together. -/
structure WellFormed (state : ListenerState σ) : Prop where
  /-- No drain is under way. -/
  resting : state.draining = false
  /-- A chain has one group. -/
  distinct : state.groups.Distinct
  occupied : ∀ chain group, state.groups.get? chain = some group → group.size ≠ 0
  keyed : ∀ chain group, state.groups.get? chain = some group → group.chain.id = chain
  /-- A handle names the place of its record. -/
  placed : ∀ chain slot record, state.Holds chain slot record →
    record.handle.chain = chain ∧ record.handle.slot = slot
  /-- A serial is used up. -/
  drawn : ∀ chain slot record, state.Holds chain slot record →
    record.handle.serial < state.nextSerial
  /-- No two records share a serial. -/
  alone : ∀ chain slot record otherChain otherSlot other, state.Holds chain slot record →
    state.Holds otherChain otherSlot other → other.handle.serial = record.handle.serial →
    otherChain = chain ∧ otherSlot = slot
  /-- No record shares its serial with a socket in listener filters. -/
  apart : ∀ chain slot record socketSlot pending, state.Holds chain slot record →
    state.pending.get? socketSlot = some pending → pending.id.serial ≠ record.handle.serial
  /-- A chain with connections is one of the active generation, and each record has it in the
  generation that it holds. -/
  current : ∀ chain group, state.groups.get? chain = some group →
    ∃ key active, state.registry.active = some active ∧ (key, group.chain) ∈ active.chains ∧
      ∀ slot record, group.records.get? slot = some record →
        (key, group.chain) ∈ record.generation.chains
  /-- A socket in listener filters sits in the slot of its id. -/
  seated : ∀ slot pending, state.pending.get? slot = some pending → pending.id.slot = slot
  /-- Its socket is still its own: it is not among those that were parked. -/
  owning : ∀ slot pending, state.pending.get? slot = some pending →
    ∀ object ∈ state.parked, object.socketId? ≠ some pending.id
  /-- It is held by a filter that it has. -/
  held : ∀ slot pending, state.pending.get? slot = some pending →
    pending.pipeline.state = .suspended ∧
      pending.pipeline.cursor < pending.pipeline.filters.length

section Serials

variable (numbered : state.Numbered) {record : ConnectionRecord} {slot : Nat}
  {pending : PendingSocket σ}

include numbered

private theorem Numbered.record_unique {other : ConnectionRecord} (listed : record ∈ state.records)
    (otherListed : other ∈ state.records) (same : other.handle.serial = record.handle.serial) :
    other = record :=
  List.inj_on_of_nodup_map numbered.distinct.of_append_left.of_append_right otherListed listed same

private theorem Numbered.serial_ne (listed : record ∈ state.records)
    (found : state.pending.get? slot = some pending) :
    pending.id.serial ≠ record.handle.serial := by
  have disjoint := List.disjoint_of_nodup_append numbered.distinct.of_append_left
  intro same
  refine disjoint (List.mem_map_of_mem (Slab.mem_values_iff.mpr ⟨slot, found⟩)) ?_
  rw [same]
  exact List.mem_map_of_mem listed

private theorem Numbered.not_parked (found : state.pending.get? slot = some pending)
    {object : Parked} (parked : object ∈ state.parked) : object.socketId? ≠ some pending.id := by
  have disjoint := List.disjoint_of_nodup_append numbered.distinct
  intro same
  refine disjoint (List.mem_append_left _ (List.mem_map_of_mem
    (Slab.mem_values_iff.mpr ⟨slot, found⟩))) ?_
  exact List.mem_map_of_mem (List.mem_filterMap.mpr ⟨object, parked, same⟩)

end Serials

private theorem Holds.mem_records {chain : FilterChainId} {slot : Nat} {record : ConnectionRecord}
    (holds : state.Holds chain slot record) : record ∈ state.records := by
  obtain ⟨group, found, held⟩ := holds
  exact mem_recordsOf found held

/-- A group's chain is the one that its records were matched on. -/
theorem Coherent.generation_has_chain (coherent : state.Coherent batches) {chain : FilterChainId}
    {group : ConnectionGroup} (found : state.groups.get? chain = some group)
    (keyed : group.chain.id = chain) {key : ReuseKey} {active : MatchIndex}
    (isActive : state.registry.active = some active) (listed : (key, group.chain) ∈ active.chains)
    {slot : Nat} {record : ConnectionRecord} (held : group.records.get? slot = some record) :
    (key, group.chain) ∈ record.generation.chains := by
  obtain ⟨tracked, here, _⟩ := coherent.tracking.tracks_of_group found held
  obtain ⟨other, matched, old, had, id, again, otherListed⟩ := (coherent.chains record tracked).shared
  rw [isActive] at again
  rw [← Option.some.inj again] at otherListed
  have sameId : matched.id = group.chain.id := by
    rw [id, here, keyed]
  have distinct := (coherent.registry.active active isActive).2.distinct
  have same := List.inj_on_of_nodup_map distinct otherListed listed sameId
  rw [← same]
  exact had

/-- A listener is well-formed after every run. -/
theorem wellFormed_ran (config : ListenerConfig σ) (carrier : Carrier)
    (operations : List Operation) : (ran config carrier operations).WellFormed := by
  have coherent := coherent_ran config carrier operations
  have housed := housed_ran config carrier operations
  have numbered := numbered_ran config carrier operations
  have based := based_ran config carrier operations
  generalize ran config carrier operations = state at coherent housed numbered based ⊢
  have placed : ∀ chain slot record, state.Holds chain slot record →
      record.handle.chain = chain ∧ record.handle.slot = slot := by
    rintro chain slot record ⟨group, found, held⟩
    exact (housed.tracking.groups chain group found).placed slot record held
  constructor
  case resting => exact based.resting
  case distinct => exact housed.distinct
  case occupied => exact based.occupied
  case keyed => exact fun chain group found => (based.current chain group found).keyed
  case placed => exact placed
  case drawn =>
    intro chain slot record holds
    refine numbered.below _ (List.mem_append_left _ (List.mem_append_right _ ?_))
    exact List.mem_map_of_mem holds.mem_records
  case alone =>
    intro chain slot record otherChain otherSlot other holds otherHolds same
    have one := Numbered.record_unique numbered holds.mem_records otherHolds.mem_records same
    obtain ⟨here, there⟩ := placed chain slot record holds
    obtain ⟨otherHere, otherThere⟩ := placed otherChain otherSlot other otherHolds
    rw [one] at otherHere otherThere
    exact ⟨otherHere.symm.trans here, otherThere.symm.trans there⟩
  case apart =>
    intro chain slot record socketSlot pending holds found
    exact Numbered.serial_ne numbered holds.mem_records found
  case current =>
    intro chain group found
    have current := based.current chain group found
    obtain ⟨key, active, isActive, listed⟩ := current.listed
    exact ⟨key, active, isActive, listed, fun slot record held =>
      coherent.generation_has_chain found current.keyed isActive listed held⟩
  case seated => exact fun slot pending found => (housed.waiting.waits slot pending found).placed
  case owning => exact fun slot pending found object parked =>
    Numbered.not_parked numbered found parked
  case held =>
    intro slot pending found
    have waits := housed.waiting.waits slot pending found
    exact ⟨waits.held, waits.inside⟩

end Admission.Listener.ListenerState
