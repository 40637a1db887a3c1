import Admission.Proofs.Listener.Parking
import Admission.Proofs.Listener.Representation

/-!
Contract: a drain of filter chains ends, takes everything off its chains and touches nothing else.

A chain is drained in turns. Each turn looks up the group of the chain, closes the first connection
in it and removes its record, until there is nothing left to close. While chains are being drained,
a group that has become empty stays in its place, so that the next turn finds it; it is parked when
the turns are over.

Owns:
- `drainTurn?`, `turnByTurn` and `drainByTurns`, the turns of a drain, and `drainByTurns_eq`: they
  end and do what `drain` does;
- `remains`, what a drain parks, in order;
- `Evacuated`, all that a drain does, and `drain_is_complete`.
-/

namespace Admission.Listener

open Admission.Chain

private theorem nodup_eraseDups {α : Type} [DecidableEq α] (values : List α) :
    values.eraseDups.Nodup := by
  induction values using List.reverseRecOn with
  | nil => simp
  | append_singleton values value inductionHypothesis =>
      rw [List.eraseDups_append]
      by_cases listed : value ∈ values
      · simpa [List.removeAll, listed] using inductionHypothesis
      · have single : [value].eraseDups = [value] := by simp [List.eraseDups_cons]
        have apart : ∀ other ∈ values, other ≠ value := by
          intro other earlier same
          rw [same] at earlier
          exact listed earlier
        simpa [List.removeAll, listed, single, List.nodup_append, inductionHypothesis] using apart

namespace ConnectionGroup

/-- The handle of the first record, by slot. -/
def first? (group : ConnectionGroup) : Option ConnectionHandle :=
  group.handles.head?

/-- A group after its records were removed, one after another. -/
def emptied (group : ConnectionGroup) : ConnectionGroup :=
  group.handles.foldl (fun group handle => group.without handle.slot) group

variable {group : ConnectionGroup} {chain : FilterChainId} {record : ConnectionRecord}
  {records : List ConnectionRecord}

private theorem handles_of_values (listed : group.records.values = records) :
    group.handles = records.map (·.handle) := by
  rw [handles, listed]

private theorem Sound.get?_first (sound : group.Sound chain)
    (listed : group.records.values = record :: records) :
    group.get? record.handle = some record ∧ record.handle.chain = chain := by
  have first : record ∈ group.records.values := by simp [listed]
  obtain ⟨slot, found⟩ := Slab.mem_values_iff.mp first
  obtain ⟨here, there⟩ := sound.placed slot record found
  rw [← there] at found
  exact ⟨get?_eq_some_iff.mpr ⟨found, rfl⟩, here⟩

private theorem Sound.values_without_first (sound : group.Sound chain)
    (listed : group.records.values = record :: records) :
    (group.without record.handle.slot).records.values = records := by
  have placed : ∀ slot record, group.records.get? slot = some record → record.handle.slot = slot :=
    fun slot record found => (sound.placed slot record found).2
  exact Slab.values_remove_first placed listed

private theorem emptied_of_empty (listed : group.records.values = []) : group.emptied = group := by
  simp [emptied, handles_of_values listed]

private theorem Sound.emptied_eq (sound : group.Sound chain)
    (listed : group.records.values = record :: records) :
    group.emptied = (group.without record.handle.slot).emptied := by
  have rest := sound.values_without_first listed
  simp [emptied, handles_of_values listed, handles_of_values rest]

private theorem Sound.values_emptied (sound : group.Sound chain) :
    group.emptied.records.values = [] := by
  induction listed : group.records.values generalizing group with
  | nil => rw [emptied_of_empty listed, listed]
  | cons record records inductionHypothesis =>
      rw [sound.emptied_eq listed]
      exact inductionHypothesis (sound.without _) (sound.values_without_first listed)

end ConnectionGroup

namespace ListenerState

variable {σ : Type} {state : ListenerState σ}

/-! ## Turns -/

/-- A turn of a drain: the first connection on a chain is closed and its record removed. There is no
turn if nothing is left on the chain. -/
def drainTurn? (state : ListenerState σ) (chain : FilterChainId) : Option (ListenerState σ) := do
  let group ← state.groups.get? chain
  let handle ← group.first?
  let closed := match group.get? handle with
    | some record => state.withConnection record.connection (·.close .noFlush)
    | none => state
  return (closed.removeConnection handle).2

/-- Takes turns until there is none left, or gives up after so many. -/
def turnByTurn (chain : FilterChainId) : (turns : Nat) → ListenerState σ → Option (ListenerState σ)
  | 0, _ => none
  | turns + 1, state =>
      match state.drainTurn? chain with
      | none => some state
      | some next => turnByTurn chain turns next

/-- Takes turns on a chain and then parks its group. -/
def drainChainByTurns (turns : Nat) (state : ListenerState σ) (chain : FilterChainId) :
    Option (ListenerState σ) := do
  let state ← turnByTurn chain turns state
  match state.groups.get? chain with
  | none => return state
  | some group => return { state with groups := state.groups.erase chain }.park (.group group)

/-- Drains chains in turns, at most so many on each. -/
def drainByTurns (turns : Nat) (state : ListenerState σ) (chains : List FilterChainId) :
    Option (ListenerState σ) := do
  let drained ← chains.foldlM (drainChainByTurns turns) { state with draining := true }
  return { drained with draining := state.draining }

section Turn

variable {chain : FilterChainId} {group : ConnectionGroup} {record : ConnectionRecord}
  {records : List ConnectionRecord}

private theorem drainTurn?_of_empty (found : state.groups.get? chain = some group)
    (listed : group.records.values = []) : state.drainTurn? chain = none := by
  simp [drainTurn?, found, ConnectionGroup.first?, ConnectionGroup.handles_of_values listed]

/-- A turn drops the first connection and leaves the group without it, even if that was the last. -/
theorem drainTurn?_of_first (draining : state.draining = true)
    (found : state.groups.get? chain = some group) (sound : group.Sound chain)
    (listed : group.records.values = record :: records) :
    state.drainTurn? chain = some (state.dropConnection record.handle) ∧
      (state.dropConnection record.handle).groups.get? chain =
        some (group.without record.handle.slot) ∧
      (state.dropConnection record.handle).draining = true := by
  obtain ⟨held, here⟩ := sound.get?_first listed
  have tracked : state.record? record.handle = some record := by
    simp [record?, here, found, held]
  have dropped : state.dropConnection record.handle =
      ((state.withConnection record.connection (·.close .noFlush)).removeConnection
        record.handle).2 := by
    simp [dropConnection, tracked]
  have removed : ((state.withConnection record.connection (·.close .noFlush)).removeConnection
      record.handle).2 =
        { state.withConnection record.connection (·.close .noFlush) with
          groups := state.groups.insert chain (group.without record.handle.slot)
          parked := state.parked ++ [.connection record] } := by
    simp [removeConnection, withConnection, park, here, found, held, draining,
      ConnectionGroup.without]
  rw [dropped]
  refine ⟨?_, ?_, ?_⟩
  · simp [drainTurn?, found, ConnectionGroup.first?, ConnectionGroup.handles_of_values listed, held]
  · simp [removed, Table.get?_insert]
  · rw [removed]
    exact draining

/-- As many turns as a group has connections, and one more to see that there is none left, take all
of them down. -/
theorem turnByTurn_eq (draining : state.draining = true)
    (found : state.groups.get? chain = some group) (sound : group.Sound chain) {turns : Nat}
    (enough : group.size < turns) :
    turnByTurn chain turns state = some (group.handles.foldl dropConnection state) ∧
      (group.handles.foldl dropConnection state).groups.get? chain = some group.emptied := by
  have counted : group.records.values.length < turns := enough
  clear enough
  induction listed : group.records.values generalizing state group turns with
  | nil =>
      rw [listed] at counted
      cases turns with
      | zero => simp at counted
      | succ turns =>
          rw [turnByTurn, drainTurn?_of_empty found listed, ConnectionGroup.emptied_of_empty listed,
            ConnectionGroup.handles_of_values listed]
          exact ⟨rfl, found⟩
  | cons record records inductionHypothesis =>
      rw [listed, List.length_cons] at counted
      cases turns with
      | zero => simp at counted
      | succ turns =>
          have fewer : records.length < turns := by omega
          obtain ⟨turn, left, still⟩ := drainTurn?_of_first draining found sound listed
          have rest := sound.values_without_first listed
          have later := inductionHypothesis still left (sound.without record.handle.slot)
            (by rw [rest]; exact fewer) rest
          rw [ConnectionGroup.handles_of_values rest] at later
          rw [turnByTurn, turn, sound.emptied_eq listed,
            ConnectionGroup.handles_of_values listed]
          exact later

end Turn

/-! ## Chains in turns -/

section Chain

variable {chain : FilterChainId} {group : ConnectionGroup}

private theorem drainChain_of_absent (absent : state.groups.get? chain = none) :
    state.drainChain chain = state := by
  simp [drainChain, absent]

/-- The group that is parked has lost all its records. -/
theorem drainChain_eq (draining : state.draining = true)
    (found : state.groups.get? chain = some group) (sound : group.Sound chain) :
    state.drainChain chain =
      { group.handles.foldl dropConnection state with
        groups := (group.handles.foldl dropConnection state).groups.erase chain }.park
          (.group group.emptied) := by
  have left := (turnByTurn_eq draining found sound (Nat.lt_succ_self _)).2
  simp only [drainChain, found, left]

private theorem Tracking.drainChainByTurns_eq (tracking : state.Tracking)
    (draining : state.draining = true) {turns : Nat}
    (enough : state.chainConnectionCount chain < turns) :
    drainChainByTurns turns state chain = some (state.drainChain chain) := by
  cases found : state.groups.get? chain with
  | none =>
      cases turns with
      | zero => simp at enough
      | succ turns =>
          have turn : state.drainTurn? chain = none := by simp [drainTurn?, found]
          rw [drainChain_of_absent found]
          simp [drainChainByTurns, turnByTurn, turn, found]
  | some group =>
      have sound := tracking.groups chain group found
      have fewer : group.size < turns := by simpa [chainConnectionCount, found] using enough
      obtain ⟨finished, left⟩ := turnByTurn_eq draining found sound fewer
      rw [drainChain_eq draining found sound]
      simp [drainChainByTurns, finished, left]

end Chain

private theorem Drained.chainConnectionCount_le {before after : ListenerState σ}
    {chains : List FilterChainId} (drained : Drained before after chains) (chain : FilterChainId) :
    after.chainConnectionCount chain ≤ before.chainConnectionCount chain := by
  unfold chainConnectionCount
  rw [drained.groups]
  split
  · simp
  · exact Nat.le_refl _

private theorem Tracking.drainAllByTurns_eq (tracking : state.Tracking)
    (draining : state.draining = true) {turns : Nat} {chains : List FilterChainId}
    (enough : ∀ chain ∈ chains, state.chainConnectionCount chain < turns) :
    chains.foldlM (drainChainByTurns turns) state = some (chains.foldl drainChain state) := by
  induction chains generalizing state with
  | nil => rfl
  | cons chain chains inductionHypothesis =>
      have drained := tracking.drainChain_drained draining chain
      have still : (state.drainChain chain).draining = true := by
        rw [drained.frame]
        exact draining
      have fewer : ∀ other ∈ chains,
          (state.drainChain chain).chainConnectionCount other < turns := by
        intro other listed
        have before := enough other (List.mem_cons_of_mem _ listed)
        have after := drained.chainConnectionCount_le other
        omega
      have first := tracking.drainChainByTurns_eq draining (enough chain List.mem_cons_self)
      rw [List.foldlM_cons, first]
      exact inductionHypothesis (drained.tracking tracking) still fewer

private theorem Tracking.marked (tracking : state.Tracking) (draining : Bool) :
    { state with draining := draining }.Tracking :=
  ⟨tracking.groups, tracking.live, tracking.own⟩

/-- A drain ends, and its turns do what `drain` does. -/
theorem Tracking.drainByTurns_eq (tracking : state.Tracking) {turns : Nat}
    {chains : List FilterChainId}
    (enough : ∀ chain ∈ chains, state.chainConnectionCount chain < turns) :
    drainByTurns turns state chains = some (state.drain chains) := by
  have marked := (tracking.marked true).drainAllByTurns_eq rfl enough
  simp [drainByTurns, drain, marked]

/-! ## What is parked -/

/-- What a drain parks of a chain: its records by slot, and then its group without them. -/
def remainsOf (state : ListenerState σ) (chain : FilterChainId) : List Parked :=
  match state.groups.get? chain with
  | none => []
  | some group => group.records.values.map .connection ++ [.group group.emptied]

/-- What a drain of chains parks. A chain that is listed once more has no group any more. -/
def remains (state : ListenerState σ) (chains : List FilterChainId) : List Parked :=
  chains.eraseDups.flatMap state.remainsOf

private theorem remains_concat (state : ListenerState σ) (chains : List FilterChainId)
    (chain : FilterChainId) :
    state.remains (chains ++ [chain]) =
      state.remains chains ++ if chain ∈ chains then [] else state.remainsOf chain := by
  unfold remains
  rw [List.eraseDups_append, List.flatMap_append]
  by_cases listed : chain ∈ chains
  · simp [List.removeAll, listed]
  · simp [List.removeAll, listed, List.eraseDups_cons]

private theorem Tracking.parked_drainChain (tracking : state.Tracking)
    (draining : state.draining = true) (chain : FilterChainId) :
    (state.drainChain chain).parked = state.parked ++ state.remainsOf chain := by
  unfold remainsOf
  cases found : state.groups.get? chain with
  | none => simp [drainChain_of_absent found]
  | some group =>
      have dropped := dropAll_dropped draining (tracking.records_batchwise found)
      have parked : (group.handles.foldl dropConnection state).parked =
          state.parked ++ group.records.values.map .connection :=
        congrArg (·.parked) dropped.frame
      rw [drainChain_eq draining found (tracking.groups chain group found), parked_park, parked,
        List.append_assoc]

private theorem Tracking.parked_drainAll (tracking : state.Tracking)
    (draining : state.draining = true) (chains : List FilterChainId) :
    (chains.foldl drainChain state).parked = state.parked ++ state.remains chains := by
  induction chains using List.reverseRecOn with
  | nil => simp [remains]
  | append_singleton chains chain inductionHypothesis =>
      have drained := tracking.drainAll_drained draining chains
      have still : (chains.foldl drainChain state).draining = true := by
        rw [drained.frame]
        exact draining
      have last : (chains.foldl drainChain state).remainsOf chain =
          if chain ∈ chains then [] else state.remainsOf chain := by
        unfold remainsOf
        rw [drained.groups]
        by_cases listed : chain ∈ chains <;> simp [listed]
      rw [List.foldl_concat, (drained.tracking tracking).parked_drainChain still,
        inductionHypothesis, last, List.append_assoc, ← remains_concat]

private theorem Tracking.parked_drain (tracking : state.Tracking) (chains : List FilterChainId) :
    (state.drain chains).parked = state.parked ++ state.remains chains :=
  (tracking.marked true).parked_drainAll rfl chains

/-- The records on a chain, by slot. -/
def recordsOn (state : ListenerState σ) (chain : FilterChainId) : List ConnectionRecord :=
  match state.groups.get? chain with
  | none => []
  | some group => group.records.values

private theorem Tracking.mem_recordsOn_iff (tracking : state.Tracking) {chain : FilterChainId}
    {record : ConnectionRecord} :
    record ∈ state.recordsOn chain ↔ state.Tracks record ∧ record.handle.chain = chain := by
  unfold recordsOn
  cases found : state.groups.get? chain with
  | none =>
      have absent : ¬(state.Tracks record ∧ record.handle.chain = chain) := by
        intro tracked
        obtain ⟨group, here, _⟩ := record?_eq_some_iff.mp tracked.1
        simp [tracked.2, found] at here
      simp [absent]
  | some group => exact tracking.mem_records_iff found

private theorem Tracking.recordsOn_nodup (tracking : state.Tracking) (chain : FilterChainId) :
    (state.recordsOn chain).Nodup := by
  unfold recordsOn
  cases found : state.groups.get? chain with
  | none => simp
  | some group => exact (tracking.records_batchwise found).handles.of_map

private theorem filterMap_record?_remains (state : ListenerState σ) (chains : List FilterChainId) :
    (state.remains chains).filterMap Parked.record? =
      chains.eraseDups.flatMap state.recordsOn := by
  have single : ∀ chain, (state.remainsOf chain).filterMap Parked.record? =
      state.recordsOn chain := by
    intro chain
    unfold remainsOf recordsOn
    cases state.groups.get? chain with
    | none => rfl
    | some group => simp [List.filterMap_map, Function.comp_def, Parked.record?]
  simp [remains, List.filterMap_flatMap, single]

/-- A drain parks the records of its chains, each once. -/
theorem Tracking.records_remains (tracking : state.Tracking) (chains : List FilterChainId) :
    ((state.remains chains).filterMap Parked.record?).Nodup ∧
      ∀ record, record ∈ (state.remains chains).filterMap Parked.record? ↔
        state.Tracks record ∧ record.handle.chain ∈ chains := by
  rw [filterMap_record?_remains]
  constructor
  · rw [List.nodup_flatMap]
    refine ⟨fun chain _ => tracking.recordsOn_nodup chain, ?_⟩
    refine (nodup_eraseDups chains).imp ?_
    intro chain other apart record here there
    have chainOf := (tracking.mem_recordsOn_iff.mp here).2
    have otherOf := (tracking.mem_recordsOn_iff.mp there).2
    exact apart (chainOf.symm.trans otherOf)
  · intro record
    simp [tracking.mem_recordsOn_iff, and_comm]

private theorem Tracking.size_of_group_mem_remains (tracking : state.Tracking)
    {chains : List FilterChainId} {group : ConnectionGroup}
    (parked : .group group ∈ state.remains chains) : group.size = 0 := by
  obtain ⟨chain, _, here⟩ := List.mem_flatMap.mp parked
  unfold remainsOf at here
  cases found : state.groups.get? chain with
  | none => simp [found] at here
  | some before =>
      have same : group = before.emptied := by simpa [found] using here
      have none := (tracking.groups chain before found).values_emptied
      rw [same, ConnectionGroup.size, Slab.size, none]
      rfl

/-! ## Drains of a listener -/

/-- Chains were drained and nothing else was done. -/
structure Evacuated (before after : ListenerState σ) (chains : List FilterChainId) : Prop where
  gone : ∀ chain ∈ chains, after.groups.get? chain = none
  /-- Each connection on the chains was not closed, and was closed at once, once. -/
  closed : ∀ record, before.Tracks record → record.handle.chain ∈ chains →
    ∃ connection, before.connectionOf? record.connection = some connection ∧
      connection.Unclosed ∧
      after.connectionOf? record.connection = some (connection.close .noFlush) ∧
      (connection.close .noFlush).closes = connection.closes ++ [.noFlush]
  /-- Behind what was parked before stand the records of each chain, and then its group. -/
  parked : after.parked = before.parked ++ before.remains chains
  once : ((before.remains chains).filterMap Parked.record?).Nodup
  whole : ∀ record, record ∈ (before.remains chains).filterMap Parked.record? ↔
    before.Tracks record ∧ record.handle.chain ∈ chains
  hollow : ∀ group, .group group ∈ before.remains chains → group.size = 0
  otherGroups : ∀ chain, chain ∉ chains → after.groups.get? chain = before.groups.get? chain
  otherConnections : ∀ id,
    (∀ record, before.Tracks record → record.handle.chain ∈ chains → record.connection ≠ id) →
    after.connectionOf? id = before.connectionOf? id
  frame : after = { before with
    groups := after.groups
    connections := after.connections
    parked := after.parked }

private theorem Tracking.evacuated_drain (tracking : state.Tracking) (chains : List FilterChainId) :
    Evacuated state (state.drain chains) chains := by
  have drained := tracking.drain_drained chains
  have records := tracking.records_remains chains
  constructor
  case gone =>
    intro chain listed
    rw [drained.groups, if_pos listed]
  case closed =>
    intro record tracked listed
    obtain ⟨connection, found, unclosed⟩ := tracking.live record tracked
    refine ⟨connection, found, unclosed, ?_, unclosed.close_noFlush⟩
    rw [drained.closed record tracked listed, found, Option.map_some]
  case parked => exact tracking.parked_drain chains
  case once => exact records.1
  case whole => exact records.2
  case hollow => exact fun group parked => tracking.size_of_group_mem_remains parked
  case otherGroups =>
    intro chain elsewhere
    rw [drained.groups, if_neg elsewhere]
  case otherConnections => exact drained.untouched
  case frame => exact drained.frame

/-- While no chains are drained, a group that loses its last record is parked at once. -/
theorem removeConnection_of_last (resting : state.draining = false) {handle : ConnectionHandle}
    {group : ConnectionGroup} {record : ConnectionRecord}
    (found : state.groups.get? handle.chain = some group)
    (held : group.get? handle = some record) (last : group.size = 1) :
    state.removeConnection handle = (true, { state with
      groups := state.groups.erase handle.chain
      parked := state.parked ++ [.connection record, .group (group.without handle.slot)] }) := by
  have inSlot := (ConnectionGroup.get?_eq_some_iff.mp held).1
  have fewer : group.size = (group.without handle.slot).size + 1 := Slab.size_remove inSlot
  have none : (group.without handle.slot).size = 0 := by omega
  unfold ConnectionGroup.without at none ⊢
  simp [removeConnection, park, found, held, none, resting]

/-- A drain of a listener, at any point of a run and of any chains, ends: on each chain it takes as
many turns as there are connections, and one more to see that there is none left. It takes down what
is on its chains and leaves everything else, and afterwards an emptied group is parked at once as
before. The same goes for the drain within a shutdown, which finds the listener marked as draining
already and leaves it so. -/
theorem drain_is_complete (config : ListenerConfig σ) (carrier : Carrier)
    (operations : List Operation) (chains : List FilterChainId) :
    let before := ran config carrier operations
    let after := before.drain chains
    (∀ turns, (∀ chain ∈ chains, before.chainConnectionCount chain < turns) →
      drainByTurns turns before chains = some after) ∧
    Evacuated before after chains ∧
    (∀ handle group record, after.groups.get? handle.chain = some group →
      group.get? handle = some record → group.size = 1 →
      after.removeConnection handle = (true, { after with
        groups := after.groups.erase handle.chain
        parked := after.parked ++ [.connection record, .group (group.without handle.slot)] })) ∧
    (∀ turns, (∀ chain ∈ before.groups.keys, before.chainConnectionCount chain < turns) →
      drainByTurns turns { before.withdrawn with draining := true } before.groups.keys =
        some { before.shutdown with draining := true }) ∧
    Evacuated before.withdrawn before.shutdown before.groups.keys := by
  intro before after
  have tracking : before.Tracking := (coherent_ran config carrier operations).tracking
  have resting : before.draining = false := (based_ran config carrier operations).resting
  have drained : Evacuated before after chains := tracking.evacuated_drain chains
  have withdrawn : before.withdrawn.Tracking := ⟨tracking.groups, tracking.live, tracking.own⟩
  refine ⟨fun turns enough => tracking.drainByTurns_eq enough, drained, ?_, ?_, ?_⟩
  · intro handle group record found held last
    have still : after.draining = false := by
      rw [drained.frame]
      exact resting
    exact removeConnection_of_last still found held last
  · intro turns enough
    rw [shutdown_eq]
    exact (withdrawn.marked true).drainByTurns_eq enough
  · rw [shutdown_eq]
    exact withdrawn.evacuated_drain before.groups.keys

end ListenerState

end Admission.Listener
