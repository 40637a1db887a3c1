import Admission.Proofs.Listener.Tracking

/-!
Contract: what a drain of filter chains changes.

Owns: `Drained`, the effect of a drain on groups, connections and parked objects, with its step
`drainChain_drained` and `drain_drained` for chains in order.
-/

namespace Admission.Listener.ListenerState

open Admission.Chain

variable {σ : Type} {state : ListenerState σ}

/-! ## The connections of one chain -/

/-- Records of a chain were dropped and their connections closed, in order. -/
structure Dropped (before after : ListenerState σ) (chain : FilterChainId)
    (records : List ConnectionRecord) : Prop where
  record : ∀ handle, after.record? handle =
    if handle ∈ records.map (·.handle) then none else before.record? handle
  connection : ∀ id, after.connectionOf? id =
    if id ∈ records.map (·.connection) then (before.connectionOf? id).map (·.close .noFlush)
    else before.connectionOf? id
  groups : ∀ other, other ≠ chain → after.groups.get? other = before.groups.get? other
  frame : after = { before with
    groups := after.groups
    connections := after.connections
    parked := before.parked ++ records.map .connection }

private theorem Dropped.nil (state : ListenerState σ) (chain : FilterChainId) :
    Dropped state state chain [] where
  record := by simp
  connection := by simp
  groups := fun _ _ => rfl
  frame := by simp

private theorem Dropped.cons {before middle after : ListenerState σ} {chain : FilterChainId}
    {record : ConnectionRecord} {records : List ConnectionRecord}
    (first : Dropped before middle chain [record]) (rest : Dropped middle after chain records)
    (fresh : record.connection ∉ records.map (·.connection)) :
    Dropped before after chain (record :: records) where
  record := by
    intro handle
    rw [rest.record, first.record, List.map_singleton, List.map_cons]
    by_cases later : handle ∈ records.map (·.handle)
    · rw [if_pos later, if_pos (List.mem_cons_of_mem _ later)]
    · by_cases here : handle = record.handle
      · rw [if_neg later, here, if_pos List.mem_cons_self, if_pos List.mem_cons_self]
      · rw [if_neg later, if_neg (by simpa using here), if_neg (by simpa [here] using later)]
  connection := by
    intro id
    rw [rest.connection, first.connection, List.map_singleton, List.map_cons]
    by_cases here : id = record.connection
    · rw [here, if_neg fresh, if_pos List.mem_cons_self, if_pos List.mem_cons_self]
    · have alone : id ∉ [record.connection] := by simpa using here
      rw [if_neg alone]
      by_cases later : id ∈ records.map (·.connection)
      · rw [if_pos later, if_pos (List.mem_cons_of_mem _ later)]
      · rw [if_neg later, if_neg (by simpa [here] using later)]
  groups := by
    intro other different
    rw [rest.groups other different, first.groups other different]
  frame := by
    have last := rest.frame
    rw [first.frame] at last
    dsimp only at last
    rw [List.append_assoc] at last
    exact last

private theorem dropConnection_dropped (draining : state.draining = true)
    {record : ConnectionRecord} (tracked : state.Tracks record) (known : record.connection ≠ 0) :
    Dropped state (state.dropConnection record.handle) record.handle.chain [record] := by
  have found : state.record? record.handle = some record := tracked
  have step : state.dropConnection record.handle =
      ((state.withConnection record.connection (·.close .noFlush)).removeConnection
        record.handle).2 := by
    unfold dropConnection
    rw [found]
  rcases removeConnection_cases (state.withConnection record.connection (·.close .noFlush))
      record.handle with
    ⟨unknown, _⟩ | ⟨_, _, _, _, _, resting, _⟩ |
    ⟨group, other, here, held, _, result⟩
  · exact absurd (unknown.symm.trans found) (by simp)
  · exact absurd (resting.symm.trans draining) (by simp)
  · have again : state.record? record.handle = some other :=
      Option.bind_eq_some_iff.mpr ⟨group, here, held⟩
    have same : record = other := Option.some.inj (found.symm.trans again)
    rw [step]
    refine ⟨?_, ?_, ?_, ?_⟩
    · intro handle
      rw [record?_removeConnection, List.map_singleton]
      simp only [List.mem_singleton]
      rfl
    · intro id
      rw [result, List.map_singleton]
      simp only [List.mem_singleton]
      exact connectionOf?_withConnection known (·.close .noFlush) id
    · intro chain different
      rw [result]
      dsimp only
      rw [Table.get?_insert, if_neg different]
      rfl
    · rw [result, same]
      rfl

/-- Records that are tracked on one chain, each with a handle and a connection of its own. -/
structure Batchwise (state : ListenerState σ) (chain : FilterChainId)
    (records : List ConnectionRecord) : Prop where
  tracked : ∀ record ∈ records, state.Tracks record ∧ record.handle.chain = chain ∧
    record.connection ≠ 0
  handles : (records.map (·.handle)).Nodup
  connections : (records.map (·.connection)).Nodup

theorem dropAll_dropped (draining : state.draining = true) {chain : FilterChainId}
    {records : List ConnectionRecord} (batchwise : state.Batchwise chain records) :
    Dropped state ((records.map (·.handle)).foldl dropConnection state) chain records := by
  induction records generalizing state with
  | nil => exact .nil state chain
  | cons record records inductionHypothesis =>
      obtain ⟨tracked, known, connected⟩ := batchwise.tracked record List.mem_cons_self
      have handles := batchwise.handles
      have connections := batchwise.connections
      rw [List.map_cons, List.nodup_cons] at handles connections
      have first := dropConnection_dropped draining tracked connected
      rw [known] at first
      have stillDraining : (state.dropConnection record.handle).draining = true := by
        rw [first.frame]
        exact draining
      have rest : (state.dropConnection record.handle).Batchwise chain records := by
        refine ⟨?_, handles.2, connections.2⟩
        intro other listed
        obtain ⟨otherTracked, others⟩ := batchwise.tracked other (List.mem_cons_of_mem _ listed)
        refine ⟨?_, others⟩
        have different : other.handle ∉ [record].map (·.handle) := by
          rw [List.map_singleton, List.mem_singleton]
          intro same
          exact handles.1 (List.mem_map.mpr ⟨other, listed, same⟩)
        unfold Tracks
        rw [first.record, if_neg different]
        exact otherTracked
      exact first.cons (inductionHypothesis stillDraining rest) connections.1

/-! ## Chains -/

/-- Chains were drained: their groups are gone, their connections closed and their records parked, and
nothing else is changed. -/
structure Drained (before after : ListenerState σ) (chains : List FilterChainId) : Prop where
  groups : ∀ chain, after.groups.get? chain =
    if chain ∈ chains then none else before.groups.get? chain
  closed : ∀ record, before.Tracks record → record.handle.chain ∈ chains →
    after.connectionOf? record.connection =
      (before.connectionOf? record.connection).map (·.close .noFlush)
  untouched : ∀ id,
    (∀ record, before.Tracks record → record.handle.chain ∈ chains → record.connection ≠ id) →
    after.connectionOf? id = before.connectionOf? id
  parked : ∃ added, after.parked = before.parked ++ added ∧
    ∀ record, before.Tracks record → record.handle.chain ∈ chains → .connection record ∈ added
  frame : after = { before with
    groups := after.groups
    connections := after.connections
    parked := after.parked }

theorem Drained.record? {before after : ListenerState σ} {chains : List FilterChainId}
    (drained : Drained before after chains) (handle : ConnectionHandle) :
    after.record? handle = if handle.chain ∈ chains then none else before.record? handle := by
  unfold ListenerState.record?
  rw [drained.groups]
  split <;> rfl

/-- The records of a group are the tracked ones of its chain. -/
theorem Tracking.mem_records_iff (tracking : state.Tracking) {chain : FilterChainId}
    {group : ConnectionGroup} (found : state.groups.get? chain = some group)
    {record : ConnectionRecord} :
    record ∈ group.records.values ↔ state.Tracks record ∧ record.handle.chain = chain := by
  constructor
  · intro listed
    obtain ⟨slot, held⟩ := Slab.mem_values_iff.mp listed
    obtain ⟨tracks, here, _⟩ := tracking.tracks_of_group found held
    exact ⟨tracks, here⟩
  · intro tracked
    obtain ⟨tracks, here⟩ := tracked
    obtain ⟨other, otherFound, held, _⟩ := record?_eq_some_iff.mp tracks
    rw [here, found] at otherFound
    rw [Option.some.inj otherFound]
    exact Slab.mem_values_iff.mpr ⟨_, held⟩

theorem Tracking.records_batchwise (tracking : state.Tracking) {chain : FilterChainId}
    {group : ConnectionGroup} (found : state.groups.get? chain = some group) :
    state.Batchwise chain group.records.values := by
  have slots := Slab.values_nodup group.records (·.handle.slot)
    fun slot record held => (tracking.tracks_of_group found held).2.2
  refine ⟨?_, ?_, ?_⟩
  · intro record listed
    obtain ⟨tracks, here⟩ := (tracking.mem_records_iff found).mp listed
    exact ⟨tracks, here, (tracking.live record tracks).ne_zero⟩
  · refine List.Nodup.of_map (·.slot) ?_
    rw [List.map_map]
    exact slots
  · refine (slots.of_map _).map_on ?_
    intro left leftListed right rightListed same
    have leftTracked := ((tracking.mem_records_iff found).mp leftListed).1
    have rightTracked := ((tracking.mem_records_iff found).mp rightListed).1
    exact tracking.own left right leftTracked rightTracked same

private theorem drained_of_absent {chain : FilterChainId}
    (absent : state.groups.get? chain = none) :
    Drained state state [chain] := by
  have elsewhere : ∀ record, state.Tracks record → record.handle.chain ∉ [chain] := by
    intro record tracked listed
    obtain ⟨group, here, _⟩ := record?_eq_some_iff.mp tracked
    rw [List.mem_singleton.mp listed, absent] at here
    exact absurd here (by simp)
  refine ⟨?_, ?_, fun _ _ => rfl, ⟨[], (List.append_nil _).symm, ?_⟩, rfl⟩
  · intro other
    by_cases here : other ∈ [chain]
    · rw [if_pos here, List.mem_singleton.mp here]
      exact absent
    · rw [if_neg here]
  · exact fun record tracked listed => absurd listed (elsewhere record tracked)
  · exact fun record tracked listed => absurd listed (elsewhere record tracked)

/-- After its connections the group itself goes, if it is still there. -/
theorem drainChain_of_group {chain : FilterChainId} {group : ConnectionGroup}
    (found : state.groups.get? chain = some group) :
    ∃ groups parked,
      state.drainChain chain = { group.handles.foldl dropConnection state with
        groups := groups
        parked := (group.handles.foldl dropConnection state).parked ++ parked } ∧
      ∀ other, groups.get? other =
        if other = chain then none
        else (group.handles.foldl dropConnection state).groups.get? other := by
  unfold drainChain
  rw [found]
  dsimp only
  generalize group.handles.foldl dropConnection state = emptied
  cases left : emptied.groups.get? chain with
  | none =>
      refine ⟨emptied.groups, [], by rw [List.append_nil], ?_⟩
      intro other
      split
      · rename_i here
        rw [here]
        exact left
      · rfl
  | some last => exact ⟨_, [.group last], rfl, Table.get?_erase emptied.groups chain⟩

theorem Tracking.drainChain_drained (tracking : state.Tracking) (draining : state.draining = true)
    (chain : FilterChainId) : Drained state (state.drainChain chain) [chain] := by
  cases found : state.groups.get? chain with
  | none =>
      have same : state.drainChain chain = state := by
        unfold drainChain
        rw [found]
      rw [same]
      exact drained_of_absent found
  | some group =>
      have dropped := dropAll_dropped draining (tracking.records_batchwise found)
      have mem_iff : ∀ record, record ∈ group.records.values ↔
          state.Tracks record ∧ record.handle.chain ∈ [chain] := by
        intro record
        rw [tracking.mem_records_iff found, List.mem_singleton]
      obtain ⟨groups, parked, result, gone⟩ := drainChain_of_group found
      rw [result]
      unfold ConnectionGroup.handles at gone ⊢
      refine ⟨?_, ?_, ?_, ?_, ?_⟩
      · intro other
        dsimp only
        by_cases here : other = chain
        · rw [gone, if_pos here, if_pos (List.mem_singleton.mpr here)]
        · have elsewhere : other ∉ [chain] := fun listed => here (List.mem_singleton.mp listed)
          rw [gone, if_neg here, if_neg elsewhere]
          exact dropped.groups other here
      · intro record tracked listed
        have member := List.mem_map_of_mem (f := (·.connection))
          ((mem_iff record).mpr ⟨tracked, listed⟩)
        have after := dropped.connection record.connection
        rw [if_pos member] at after
        exact after
      · intro id different
        have after := dropped.connection id
        rw [if_neg] at after
        · exact after
        · intro member
          obtain ⟨record, listed, same⟩ := List.mem_map.mp member
          obtain ⟨tracked, here⟩ := (mem_iff record).mp listed
          exact different record tracked here same
      · refine ⟨group.records.values.map .connection ++ parked, ?_, ?_⟩
        · dsimp only
          rw [dropped.frame, List.append_assoc]
        · intro record tracked listed
          have member := (mem_iff record).mpr ⟨tracked, listed⟩
          exact List.mem_append_left _ (List.mem_map_of_mem member)
      · have frame := dropped.frame
        rw [frame]

/-! ## Chain after chain -/

section After

variable {before middle after : ListenerState σ} {chain : FilterChainId}
  {chains : List FilterChainId}

theorem Drained.tracks_iff (drained : Drained before after chains) {record : ConnectionRecord} :
    after.Tracks record ↔ before.Tracks record ∧ record.handle.chain ∉ chains := by
  unfold Tracks
  rw [drained.record?]
  by_cases listed : record.handle.chain ∈ chains
  · simp [listed]
  · simp [listed]

/-- The connection of a record on another chain stays as it is. -/
theorem Drained.connection_of_not_mem (drained : Drained before after chains)
    (tracking : before.Tracking) {record : ConnectionRecord} (tracked : before.Tracks record)
    (kept : record.handle.chain ∉ chains) :
    after.connectionOf? record.connection = before.connectionOf? record.connection := by
  refine drained.untouched record.connection ?_
  intro other otherTracked listed same
  rw [tracking.own other record otherTracked tracked same] at listed
  exact kept listed

theorem Drained.tracking (drained : Drained before after chains) (tracking : before.Tracking) :
    after.Tracking := by
  refine tracking.shrink ?_ (fun record tracked => (drained.tracks_iff.mp tracked).1) ?_
  · intro other group found
    rw [drained.groups] at found
    split at found
    · exact absurd found (by simp)
    · exact tracking.groups other group found
  · intro record tracked live
    obtain ⟨earlier, kept⟩ := drained.tracks_iff.mp tracked
    unfold IsOpen
    rw [drained.connection_of_not_mem tracking earlier kept]
    exact live

private theorem Drained.nil (state : ListenerState σ) : Drained state state [] where
  groups := fun _ => (if_neg List.not_mem_nil).symm
  closed := fun _ _ listed => absurd listed List.not_mem_nil
  untouched := fun _ _ => rfl
  parked := ⟨[], (List.append_nil _).symm, fun _ _ listed => absurd listed List.not_mem_nil⟩
  frame := rfl

/-- A record that the first chain leaves is one of the others'. -/
theorem Drained.later (first : Drained before middle [chain]) {record : ConnectionRecord}
    (tracked : before.Tracks record) (listed : record.handle.chain ∈ chain :: chains)
    (kept : record.handle.chain ∉ [chain]) :
    middle.Tracks record ∧ record.handle.chain ∈ chains := by
  refine ⟨first.tracks_iff.mpr ⟨tracked, kept⟩, ?_⟩
  rcases List.mem_cons.mp listed with same | later
  · exact absurd (List.mem_singleton.mpr same) kept
  · exact later

/-- A chain is drained, then others. A record of the first chain is gone when the others are drained,
so its connection is not closed again. -/
theorem Drained.cons (first : Drained before middle [chain]) (rest : Drained middle after chains)
    (tracking : before.Tracking) : Drained before after (chain :: chains) where
  groups := by
    intro other
    rw [rest.groups, first.groups]
    by_cases later : other ∈ chains
    · rw [if_pos later, if_pos (List.mem_cons_of_mem _ later)]
    · rw [if_neg later]
      by_cases here : other = chain
      · rw [if_pos (List.mem_singleton.mpr here), if_pos (List.mem_cons.mpr (.inl here))]
      · rw [if_neg (by simpa using here), if_neg (by simp [here, later])]
  closed := by
    intro record tracked listed
    by_cases here : record.handle.chain ∈ [chain]
    · rw [rest.untouched record.connection, first.closed record tracked here]
      intro other otherTracked _ same
      obtain ⟨otherEarlier, otherKept⟩ := first.tracks_iff.mp otherTracked
      rw [tracking.own other record otherEarlier tracked same] at otherKept
      exact otherKept here
    · obtain ⟨left, later⟩ := first.later tracked listed here
      rw [rest.closed record left later, first.connection_of_not_mem tracking tracked here]
  untouched := by
    intro id different
    rw [rest.untouched, first.untouched]
    · intro record tracked listed
      exact different record tracked (List.mem_cons.mpr (.inl (List.mem_singleton.mp listed)))
    · intro record tracked listed
      exact different record (first.tracks_iff.mp tracked).1 (List.mem_cons_of_mem _ listed)
  parked := by
    obtain ⟨firstAdded, firstParked, firstMember⟩ := first.parked
    obtain ⟨restAdded, restParked, restMember⟩ := rest.parked
    refine ⟨firstAdded ++ restAdded, by rw [restParked, firstParked, List.append_assoc], ?_⟩
    intro record tracked listed
    by_cases here : record.handle.chain ∈ [chain]
    · exact List.mem_append_left _ (firstMember record tracked here)
    · obtain ⟨left, later⟩ := first.later tracked listed here
      exact List.mem_append_right _ (restMember record left later)
  frame := by
    have last := rest.frame
    rw [first.frame] at last
    exact last

end After

theorem Tracking.drainAll_drained (tracking : state.Tracking) (draining : state.draining = true)
    (chains : List FilterChainId) : Drained state (chains.foldl drainChain state) chains := by
  induction chains generalizing state with
  | nil => exact .nil state
  | cons chain chains inductionHypothesis =>
      have first := tracking.drainChain_drained draining chain
      have stillDraining : (state.drainChain chain).draining = true := by
        rw [first.frame]
        exact draining
      exact first.cons (inductionHypothesis (first.tracking tracking) stillDraining) tracking

theorem Tracking.drain_drained (tracking : state.Tracking) (chains : List FilterChainId) :
    Drained state (state.drain chains) chains := by
  have marked : { state with draining := true }.Tracking :=
    ⟨tracking.groups, tracking.live, tracking.own⟩
  have drained := marked.drainAll_drained rfl chains
  have frame := drained.frame
  refine ⟨drained.groups, drained.closed, drained.untouched, drained.parked, ?_⟩
  unfold drain
  rw [frame]

end Admission.Listener.ListenerState
