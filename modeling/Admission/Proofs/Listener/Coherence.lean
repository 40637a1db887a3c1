import Admission.Proofs.Chain.Succession
import Admission.Proofs.Listener.Drain
import Admission.Proofs.Listener.Run

/-!
Contract: every tracked connection is on a chain of the active generation.

Owns:
- `Coherent`, the invariant that ties the tracked connections to the generations, and
  `coherent_ran`, that it holds throughout a run;
- `Activated`, what an operation leaves that has activated a generation, with `activated_of_mem`.
-/

namespace Admission.Listener

open Admission.Chain

/-- A record is on one chain of its generation and of the active one. -/
structure OnActiveChain (registry : Registry) (batches : List (List FilterChainDescriptor))
    (record : ConnectionRecord) : Prop where
  builtFrom : record.generation.BuiltFrom batches
  shared : ∃ key chain active, (key, chain) ∈ record.generation.chains ∧
    chain.id = record.handle.chain ∧ registry.active = some active ∧ (key, chain) ∈ active.chains

/-- What an activation does not remove of the active index is in the new one. -/
theorem mem_of_not_removed {registry : Registry} {batches : List (List FilterChainDescriptor)}
    (consistent : registry.Consistent batches) {index old : MatchIndex}
    (succeeds : index.Succeeds registry.active) (active : registry.active = some old)
    {key : ReuseKey} {chain : FilterChain} (listed : (key, chain) ∈ old.chains)
    (kept : chain.id ∉ (registry.activationOf index).removed) : (key, chain) ∈ index.chains := by
  rw [active] at succeeds
  refine succeeds.mem_of_id (consistent.active old active).2.distinct listed ?_
  by_contra lost
  exact kept (Registry.mem_removed_iff.mpr ⟨old, active, MatchIndex.mem_chainIds listed, lost⟩)

/-- On a change of the active index, a chain is kept exactly if its key comes up again. -/
theorem OnActiveChain.kept_iff {registry : Registry}
    {batches : List (List FilterChainDescriptor)} {record : ConnectionRecord}
    (onActiveChain : OnActiveChain registry batches record)
    (consistent : registry.Consistent batches) {index : MatchIndex}
    (succeeds : index.Succeeds registry.active) :
    ∃ key chain, (key, chain) ∈ record.generation.chains ∧ chain.id = record.handle.chain ∧
      (record.handle.chain ∉ (registry.activationOf index).removed ↔
        key ∈ index.chains.map (·.1)) ∧
      (record.handle.chain ∉ (registry.activationOf index).removed →
        (key, chain) ∈ index.chains) := by
  obtain ⟨key, chain, old, had, id, active, listed⟩ := onActiveChain.shared
  obtain ⟨builtFrom, identified⟩ := consistent.active old active
  have again : record.handle.chain ∉ (registry.activationOf index).removed →
      (key, chain) ∈ index.chains := by
    rw [← id]
    exact mem_of_not_removed consistent succeeds active listed
  rw [active] at succeeds
  refine ⟨key, chain, had, id, ⟨fun kept => List.mem_map_of_mem (again kept), ?_⟩, again⟩
  intro sameKey removed
  have kept := succeeds.mem_of_key builtFrom.distinct listed sameKey
  obtain ⟨_, _, _, lost⟩ := Registry.mem_removed_iff.mp removed
  rw [← id] at lost
  exact lost (MatchIndex.mem_chainIds kept)

namespace ListenerState

variable {σ : Type} {state : ListenerState σ} {batches : List (List FilterChainDescriptor)}

/-- What holds of a listener after updates with some batches. -/
structure Coherent (state : ListenerState σ) (batches : List (List FilterChainDescriptor)) :
    Prop where
  tracking : state.Tracking
  registry : state.registry.Consistent batches
  chains : ∀ record, state.Tracks record → OnActiveChain state.registry batches record

private theorem coherent_new (config : ListenerConfig σ) (carrier : Carrier) :
    (ListenerState.new config carrier).Coherent [] where
  tracking := tracking_new config carrier
  registry := Registry.consistent_new config.name
  chains := fun _ none => absurd none (by simp [Tracks, record?, ListenerState.new])

/-- Coherence goes on where tracking does, records only go away and the registry stays. -/
theorem Coherent.shrink (coherent : state.Coherent batches) {after : ListenerState σ}
    (tracking : after.Tracking) (registry : after.registry = state.registry)
    (tracks : ∀ record, after.Tracks record → state.Tracks record) : after.Coherent batches where
  tracking := tracking
  registry := by
    rw [registry]
    exact coherent.registry
  chains := by
    intro record tracked
    rw [registry]
    exact coherent.chains record (tracks record tracked)

private theorem Coherent.removeConnection (coherent : state.Coherent batches)
    (handle : ConnectionHandle) :
    (state.removeConnection handle).2.Coherent batches := by
  refine coherent.shrink (coherent.tracking.removeConnection handle) ?_ ?_
  · obtain ⟨groups, parked, removed⟩ := state.removeConnection_frame handle
    rw [removed]
  · intro record tracked
    unfold Tracks at tracked
    rw [record?_removeConnection] at tracked
    split at tracked
    · exact absurd tracked (by simp)
    · exact tracked

private theorem Coherent.drained (coherent : state.Coherent batches) {after : ListenerState σ}
    {chains : List FilterChainId} (drained : Drained state after chains) :
    after.Coherent batches := by
  refine coherent.shrink (drained.tracking coherent.tracking) ?_ ?_
  · rw [drained.frame]
  · exact fun record tracked => (drained.tracks_iff.mp tracked).1

private theorem Coherent.drain (coherent : state.Coherent batches) (chains : List FilterChainId) :
    (state.drain chains).Coherent batches :=
  coherent.drained (coherent.tracking.drain_drained chains)

/-! ## Operations that track nothing new -/

/-- A listener with the same groups and generations, in which no connection was closed. -/
structure Calm (before after : ListenerState σ) : Prop where
  groups : after.groups = before.groups
  registry : after.registry = before.registry
  live : ∀ id, before.IsOpen id → after.IsOpen id

private theorem Calm.refl (state : ListenerState σ) : Calm state state :=
  ⟨rfl, rfl, fun _ live => live⟩

private theorem Calm.trans {before middle after : ListenerState σ} (first : Calm before middle)
    (rest : Calm middle after) : Calm before after :=
  ⟨rest.groups.trans first.groups, rest.registry.trans first.registry,
    fun id live => rest.live id (first.live id live)⟩

private theorem Calm.tracks_iff {before after : ListenerState σ} (calm : Calm before after)
    {record : ConnectionRecord} : after.Tracks record ↔ before.Tracks record := by
  unfold Tracks record?
  rw [calm.groups]

private theorem Calm.tracking {before after : ListenerState σ} (calm : Calm before after)
    (tracking : before.Tracking) : after.Tracking := by
  refine tracking.shrink ?_ (fun record tracked => calm.tracks_iff.mp tracked) ?_
  · rw [calm.groups]
    exact tracking.groups
  · exact fun record _ live => calm.live record.connection live

theorem Coherent.calm (coherent : state.Coherent batches) {after : ListenerState σ}
    (calm : Calm state after) : after.Coherent batches :=
  coherent.shrink (calm.tracking coherent.tracking) calm.registry
    fun _ tracked => calm.tracks_iff.mp tracked

/-- Folding calm steps is calm. -/
theorem calm_foldl {α : Type} (step : ListenerState σ → α → ListenerState σ)
    (calm : ∀ state item, Calm state (step state item)) (state : ListenerState σ)
    (items : List α) : Calm state (items.foldl step state) := by
  induction items generalizing state with
  | nil => exact .refl state
  | cons item rest inductionHypothesis =>
      exact (calm state item).trans (inductionHypothesis (step state item))

private theorem calm_destroy (state : ListenerState σ) (id : Nat) :
    Calm state (state.withConnection id Connection.destroy) := by
  refine ⟨rfl, rfl, ?_⟩
  rintro other ⟨connection, found, unclosed⟩
  have known : other ≠ 0 := IsOpen.ne_zero ⟨connection, found, unclosed⟩
  unfold connectionOf? at found
  rw [if_neg known] at found
  unfold IsOpen withConnection connectionOf?
  dsimp only
  rw [if_neg known, List.getElem?_modify, found]
  by_cases here : id - 1 = other - 1
  · exact ⟨connection.destroy, by simp [here], unclosed.destroy⟩
  · exact ⟨connection, by simp [here], unclosed⟩

private theorem calm_dropParked (state : ListenerState σ) (object : Parked) :
    Calm state (state.dropParked object) := by
  cases object with
  | socket id socket info connected =>
      cases connected with
      | true => exact .refl state
      | false => exact ⟨rfl, rfl, fun _ live => live⟩
  | connection record =>
      have destroyed := calm_destroy state record.connection
      exact ⟨destroyed.groups, destroyed.registry, destroyed.live⟩
  | group group => exact .refl state

theorem calm_clearParked (state : ListenerState σ) : Calm state state.clearParked.2 := by
  have emptied : Calm state { state with parked := [] } := ⟨rfl, rfl, fun _ live => live⟩
  exact emptied.trans (calm_foldl dropParked calm_dropParked _ _)

theorem calm_setOpen (state : ListenerState σ) (id : SocketId) (isOpen : Bool) :
    Calm state (state.setOpen id isOpen) := by
  unfold setOpen
  split
  · exact ⟨rfl, rfl, fun _ live => live⟩
  · exact .refl state

private theorem calm_abandon (state : ListenerState σ) (pending : PendingSocket σ) :
    Calm state (state.abandon pending) :=
  ⟨rfl, rfl, fun _ live => live⟩

private theorem Coherent.shutdown (coherent : state.Coherent batches) :
    state.shutdown.Coherent batches := by
  have marked : Calm state { state with draining := true } := ⟨rfl, rfl, fun _ live => live⟩
  have abandoned := marked.trans (calm_foldl abandon calm_abandon { state with draining := true }
    state.pending.values)
  unfold ListenerState.shutdown
  generalize state.pending.values.foldl abandon { state with draining := true } = emptied
    at abandoned ⊢
  have cleared : Calm state { emptied with pending := .empty } :=
    ⟨abandoned.groups, abandoned.registry, abandoned.live⟩
  have drained := (coherent.calm cleared).drain emptied.groups.keys
  exact ⟨⟨drained.tracking.groups, drained.tracking.live, drained.tracking.own⟩,
    drained.registry, drained.chains⟩

/-! ## Sockets -/

private theorem calm_connect (state : ListenerState σ) (socket : Socket) (chain : FilterChain) :
    Calm state (state.connect socket chain).2 := by
  refine ⟨rfl, rfl, ?_⟩
  rintro id ⟨connection, found, unclosed⟩
  refine ⟨connection, ?_, unclosed⟩
  unfold connectionOf? at found ⊢
  split at found
  · exact absurd found (by simp)
  · rename_i known
    have inside := (List.getElem?_eq_some_iff.mp found).1
    rw [if_neg known]
    show (state.connections ++ [(state.connect socket chain).1])[id - 1]? = some connection
    rw [List.getElem?_append_left inside]
    exact found

/-- A new connection has the next identity, and its factories have closed it already or it is
unclosed. -/
theorem connect_new (state : ListenerState σ) (socket : Socket) (chain : FilterChain) :
    (state.connect socket chain).1.id = state.connections.length + 1 ∧
      ((state.connect socket chain).1.state = .closed ∨
        (state.connect socket chain).1.Unclosed) := by
  unfold connect
  dsimp only
  split
  · constructor
    · rw [Connection.installFilters_id]
      rfl
    · refine Connection.closed_or_unclosed_installFilters chain.filters ?_
      rcases Connection.closed_or_unclosed_ofSocket (state.connections.length + 1) state.carrier
        socket chain.transport.protocol with closed | unclosed
      · exact .inl closed
      · exact .inr ⟨unclosed.lasting, unclosed.never⟩
  · constructor
    · rw [Connection.close_id, Connection.installFilters_id]
      rfl
    · exact .inl (Connection.close_noFlush_state _)

private theorem connect_found (state : ListenerState σ) (socket : Socket) (chain : FilterChain) :
    (state.connect socket chain).2.connectionOf? (state.connections.length + 1) =
      some (state.connect socket chain).1 := by
  unfold connectionOf?
  show (state.connections ++ [(state.connect socket chain).1])[state.connections.length + 1 - 1]? =
    some (state.connect socket chain).1
  rw [Nat.add_sub_cancel, List.getElem?_concat_length]

private theorem Tracking.connection_le (tracking : state.Tracking) {record : ConnectionRecord}
    (tracked : state.Tracks record) : record.connection ≤ state.connections.length := by
  obtain ⟨connection, found, _⟩ := tracking.live record tracked
  unfold connectionOf? at found
  split at found
  · exact absurd found (by simp)
  · have inside := (List.getElem?_eq_some_iff.mp found).1
    omega

/-- A match is a chain of the active generation. -/
theorem Coherent.chain_of_lookup (coherent : state.Coherent batches) {socket : Socket}
    {matched : LookupMatch} (found : (state.registry.lookup socket).1 = some matched) :
    state.registry.active = some matched.index ∧ matched.index.BuiltFrom batches ∧
      ∃ key, (key, matched.chain) ∈ matched.index.chains := by
  unfold Registry.lookup at found
  cases active : state.registry.active with
  | none =>
      rw [active] at found
      exact absurd found (by simp)
  | some index =>
      rw [active] at found
      obtain ⟨chain, selected, rfl⟩ := Option.map_eq_some_iff.mp found
      have builtFrom := (coherent.registry.active index active).1
      exact ⟨rfl, builtFrom, builtFrom.finds socket chain selected⟩

private theorem Coherent.track (coherent : state.Coherent batches) {matched : LookupMatch}
    {key : ReuseKey} (active : state.registry.active = some matched.index)
    (builtFrom : matched.index.BuiltFrom batches)
    (listed : (key, matched.chain) ∈ matched.index.chains) {connection : Nat}
    (live : state.IsOpen connection)
    (fresh : ∀ record, state.Tracks record → record.connection ≠ connection) (info : StreamInfo) :
    (state.track matched.chain connection info matched.index).2.Coherent batches where
  tracking := coherent.tracking.track matched.chain connection info matched.index live fresh
  registry := coherent.registry
  chains := by
    intro record tracked
    rcases coherent.tracking.tracks_track matched.chain connection info matched.index tracked with
      rfl | earlier
    · exact ⟨builtFrom, key, matched.chain, matched.index, listed, rfl, active, listed⟩
    · exact coherent.chains record earlier

private theorem Coherent.route (coherent : state.Coherent batches) (pending : PendingSocket σ) :
    (state.route pending).2.Coherent batches := by
  unfold ListenerState.route
  split
  · exact coherent.calm ⟨rfl, rfl, fun _ live => live⟩
  · rename_i matched found
    obtain ⟨active, builtFrom, key, listed⟩ := coherent.chain_of_lookup found
    have calm := state.calm_connect pending.socket matched.chain
    obtain ⟨id, closed | unclosed⟩ := state.connect_new pending.socket matched.chain
    · dsimp only
      rw [if_pos closed]
      have destroyed := calm.trans (calm_destroy _ (state.connect pending.socket matched.chain).1.id)
      exact coherent.calm ⟨destroyed.groups, destroyed.registry, destroyed.live⟩
    · have live : (state.connect pending.socket matched.chain).2.IsOpen
          (state.connect pending.socket matched.chain).1.id := by
        rw [id]
        exact ⟨_, state.connect_found pending.socket matched.chain, unclosed⟩
      have fresh : ∀ record, (state.connect pending.socket matched.chain).2.Tracks record →
          record.connection ≠ (state.connect pending.socket matched.chain).1.id := by
        intro record tracked
        have earlier := coherent.tracking.connection_le (calm.tracks_iff.mp tracked)
        rw [id]
        omega
      have connected := (coherent.calm calm).track active builtFrom listed live fresh
      dsimp only
      rw [if_neg unclosed.lasting]
      exact (connected _).calm ⟨rfl, rfl, fun _ live => live⟩

private theorem Coherent.finish (coherent : state.Coherent batches) (pending : PendingSocket σ) :
    (state.finish pending).2.Coherent batches := by
  unfold ListenerState.finish
  split
  · exact coherent.route pending
  · exact coherent.calm ⟨rfl, rfl, fun _ live => live⟩

private theorem Coherent.accept (coherent : state.Coherent batches) (socket : Socket) (now : Nat) :
    (state.accept socket now).2.Coherent batches := by
  unfold ListenerState.accept
  dsimp only
  split
  · exact coherent.calm ⟨rfl, rfl, fun _ live => live⟩
  · refine Coherent.finish ?_ _
    exact coherent.calm ⟨rfl, rfl, fun _ live => live⟩

private theorem Coherent.stepPending (coherent : state.Coherent batches) (id : SocketId)
    (step : Pipeline σ → Socket → Pipeline σ × Socket) :
    (state.stepPending id step).2.Coherent batches := by
  unfold ListenerState.stepPending
  split
  · exact coherent
  · dsimp only
    split
    · exact coherent.calm ⟨rfl, rfl, fun _ live => live⟩
    · refine Coherent.finish ?_ _
      exact coherent.calm ⟨rfl, rfl, fun _ live => live⟩

theorem Coherent.timeOut (coherent : state.Coherent batches) (id : SocketId) :
    (state.timeOut id).2.Coherent batches := by
  refine Coherent.stepPending ?_ id _
  exact coherent.calm ⟨rfl, rfl, fun _ live => live⟩

private theorem Coherent.timeOutAll (coherent : state.Coherent batches) (ids : List SocketId) :
    (state.timeOutAll ids).2.Coherent batches := by
  induction ids generalizing state with
  | nil => exact coherent
  | cons id rest inductionHypothesis => exact inductionHypothesis (coherent.timeOut id)

/-! ## Activations -/

/-- What an operation did that activated an index: the index is the active one, and the chains that
it has not kept are drained. -/
structure Activated (before after : ListenerState σ) (index : MatchIndex)
    (batches : List (List FilterChainDescriptor)) : Prop where
  succeeds : index.Succeeds before.registry.active
  swapped : ∃ registry : Registry, registry.Consistent batches ∧ registry.active = some index ∧
    after = { before with registry := registry }.drain (before.registry.activationOf index).removed

theorem Coherent.applyChains_cases (coherent : state.Coherent batches)
    (descriptors : List FilterChainDescriptor) (builder : ChainBuilder) :
    (∃ index,
      (state.applyChains descriptors builder).1.outcome =
        .ok (.activated (state.registry.activationOf index)) ∧
      Activated state (state.applyChains descriptors builder).2 index (batches ++ [descriptors])) ∨
    ((∀ activation,
        (state.applyChains descriptors builder).1.outcome ≠ .ok (.activated activation)) ∧
      ∃ registry : Registry, registry.Consistent (batches ++ [descriptors]) ∧
        registry.active = state.registry.active ∧
        (state.applyChains descriptors builder).2 = { state with registry := registry }) := by
  have update := state.registry.beginUpdate_cases descriptors builder
  have consistent := coherent.registry.beginUpdate descriptors builder
  unfold applyChains
  generalize state.registry.beginUpdate descriptors builder = result at update consistent ⊢
  obtain ⟨next, report⟩ := result
  cases update with
  | rejected refused answer =>
      dsimp only at consistent ⊢
      rw [answer]
      exact .inr ⟨fun _ same => absurd (answer.symm.trans same) (by simp), _, consistent, rfl, rfl⟩
  | warming accepted waits answer =>
      dsimp only at consistent ⊢
      rw [answer]
      exact .inr ⟨fun _ same => absurd (answer.symm.trans same) (by simp), _, consistent, rfl, rfl⟩
  | @activated index _ accepted answer =>
      dsimp only at consistent ⊢
      rw [answer]
      have identified : ∀ old, state.registry.active = some old →
          old.Identified state.registry.nextChain :=
        fun old here => (coherent.registry.active old here).2
      have succeeds := MatchIndex.succeeds_of_accepted identified accepted
      exact .inl ⟨index, answer, succeeds, _, consistent, rfl, rfl⟩

theorem Coherent.dispatchWarmed_cases (coherent : state.Coherent batches) :
    (∃ index, state.dispatchWarmed.1 = [state.registry.activationOf index] ∧
      Activated state state.dispatchWarmed.2 index batches) ∨
    (state.dispatchWarmed.1 = [] ∧
      ∃ registry : Registry, registry.Consistent batches ∧
        registry.active = state.registry.active ∧
        state.dispatchWarmed.2 = { state with registry := registry }) := by
  have consistent := coherent.registry.dispatchWarmed
  unfold ListenerState.dispatchWarmed
  unfold Registry.dispatchWarmed at consistent ⊢
  rcases Registry.deliver_cases { state.registry with warmed := [] } state.registry.warmed with
    ⟨index, waiting, delivered⟩ | delivered
  · rw [delivered] at consistent ⊢
    have succeeds := (coherent.registry.warming index waiting).2.2
    exact .inl ⟨index, rfl, succeeds, _, consistent, rfl, rfl⟩
  · rw [delivered] at consistent ⊢
    exact .inr ⟨rfl, _, consistent, rfl, rfl⟩

theorem Activated.drained {after : ListenerState σ} {index : MatchIndex}
    (activated : Activated state after index batches) (tracking : state.Tracking) :
    ∃ registry : Registry, registry.Consistent batches ∧ registry.active = some index ∧
      Drained { state with registry := registry } after
        (state.registry.activationOf index).removed := by
  obtain ⟨registry, consistent, active, result⟩ := activated.swapped
  refine ⟨registry, consistent, active, ?_⟩
  rw [result]
  exact (tracking.withRegistry registry).drain_drained _

/-- Whatever is left after an activation is on a chain that the new index has kept. -/
theorem Coherent.activated (coherent : state.Coherent batches)
    {more : List (List FilterChainDescriptor)} {after : ListenerState σ} {index : MatchIndex}
    (activated : Activated state after index (batches ++ more)) :
    after.Coherent (batches ++ more) := by
  obtain ⟨registry, consistent, active, drained⟩ := activated.drained coherent.tracking
  have sameRegistry : after.registry = registry := by
    rw [drained.frame]
  refine ⟨drained.tracking (coherent.tracking.withRegistry registry), ?_, ?_⟩
  · rw [sameRegistry]
    exact consistent
  · intro record tracked
    obtain ⟨earlier, kept⟩ := drained.tracks_iff.mp tracked
    have onActiveChain := coherent.chains record earlier
    obtain ⟨key, chain, had, id, _, again⟩ :=
      onActiveChain.kept_iff coherent.registry activated.succeeds
    rw [sameRegistry]
    exact ⟨onActiveChain.builtFrom.append more, key, chain, index, had, id, active, again kept⟩

private theorem Coherent.updated (coherent : state.Coherent batches)
    {more : List (List FilterChainDescriptor)} {registry : Registry}
    (consistent : registry.Consistent (batches ++ more))
    (active : registry.active = state.registry.active) :
    { state with registry := registry }.Coherent (batches ++ more) where
  tracking := coherent.tracking.withRegistry registry
  registry := consistent
  chains := by
    intro record tracked
    obtain ⟨builtFrom, key, chain, old, had, id, here, listed⟩ := coherent.chains record tracked
    exact ⟨builtFrom.append more, key, chain, old, had, id, active.trans here, listed⟩

/-! ## Runs -/

private theorem Coherent.dispatchWarmed (coherent : state.Coherent batches) :
    state.dispatchWarmed.2.Coherent batches := by
  have same : batches = batches ++ [] := (List.append_nil batches).symm
  rcases coherent.dispatchWarmed_cases with
    ⟨index, _, activated⟩ | ⟨_, registry, consistent, active, result⟩
  · rw [same] at activated ⊢
    exact coherent.activated activated
  · rw [same] at consistent ⊢
    rw [result]
    exact coherent.updated consistent active

private theorem Coherent.applyChains (coherent : state.Coherent batches)
    (descriptors : List FilterChainDescriptor) (builder : ChainBuilder) :
    (state.applyChains descriptors builder).2.Coherent (batches ++ [descriptors]) := by
  rcases coherent.applyChains_cases descriptors builder with
    ⟨index, _, activated⟩ | ⟨_, registry, consistent, active, result⟩
  · exact coherent.activated activated
  · rw [result]
    exact coherent.updated consistent active

private theorem Coherent.targetReady (coherent : state.Coherent batches) (target : InitTarget) :
    (state.targetReady target).Coherent batches := by
  have ready := coherent.registry.targetReady target
  rw [← List.append_nil batches] at ready ⊢
  exact coherent.updated ready rfl

private theorem Coherent.onConnectionEvent (coherent : state.Coherent batches)
    (handle : ConnectionHandle) (event : ConnectionEvent) :
    (state.onConnectionEvent handle event).Coherent batches := by
  unfold ListenerState.onConnectionEvent
  split
  · exact coherent.removeConnection handle
  · exact coherent

/-- Every operation keeps a listener coherent. -/
theorem Coherent.step (coherent : state.Coherent batches) (operation : Operation) :
    (state.step operation).Coherent (batches ++ operation.batch?.toList) := by
  have stays (none : operation.batch? = none) (after : (state.step operation).Coherent batches) :
      (state.step operation).Coherent (batches ++ operation.batch?.toList) := by
    rw [none, Option.toList_none, List.append_nil]
    exact after
  cases operation with
  | apply descriptors builder => exact coherent.applyChains descriptors builder
  | ready target => exact stays rfl (coherent.targetReady target)
  | dispatch => exact stays rfl coherent.dispatchWarmed
  | accept socket now => exact stays rfl (coherent.accept socket now)
  | data id bytes => exact stays rfl (coherent.stepPending id _)
  | resume id success => exact stays rfl (coherent.stepPending id _)
  | poll now => exact stays rfl (coherent.timeOutAll _)
  | setOpen id isOpen => exact stays rfl (coherent.calm (state.calm_setOpen id isOpen))
  | report handle event => exact stays rfl (coherent.onConnectionEvent handle event)
  | remove handle => exact stays rfl (coherent.removeConnection handle)
  | drain chains => exact stays rfl (coherent.drain chains)
  | shutdown => exact stays rfl coherent.shutdown
  | clear => exact stays rfl (coherent.calm state.calm_clearParked)

theorem coherent_ran (config : ListenerConfig σ) (carrier : Carrier)
    (operations : List Operation) :
    (ran config carrier operations).Coherent (submitted operations) := by
  induction operations using List.reverseRecOn with
  | nil => exact coherent_new config carrier
  | append_singleton operations operation inductionHypothesis =>
      rw [ran_concat, submitted_concat]
      exact inductionHypothesis.step operation

theorem Reachable.coherent (reachable : state.Reachable) : ∃ batches, state.Coherent batches := by
  obtain ⟨config, carrier, operations, rfl⟩ := reachable
  exact ⟨submitted operations, coherent_ran config carrier operations⟩

/-- An activation that an operation brings about is the only one, and is that of the index that is
active afterwards. -/
theorem Coherent.activated_of_mem (coherent : state.Coherent batches) {operation : Operation}
    {activation : Activation} (activates : activation ∈ state.activations operation) :
    ∃ index, state.activations operation = [activation] ∧
      activation = state.registry.activationOf index ∧
      Activated state (state.step operation) index (batches ++ operation.batch?.toList) := by
  cases operation with
  | apply descriptors builder =>
      unfold activations at activates ⊢
      dsimp only at activates ⊢
      rcases coherent.applyChains_cases descriptors builder with
        ⟨index, outcome, activated⟩ | ⟨none, _⟩
      · rw [outcome] at activates ⊢
        have same := List.mem_singleton.mp activates
        exact ⟨index, by rw [same], same, activated⟩
      · split at activates
        · rename_i other outcome
          exact absurd outcome (none other)
        · exact absurd activates List.not_mem_nil
  | dispatch =>
      unfold activations at activates ⊢
      dsimp only at activates ⊢
      rcases coherent.dispatchWarmed_cases with ⟨index, outcome, activated⟩ | ⟨none, _⟩
      · rw [outcome] at activates ⊢
        have same := List.mem_singleton.mp activates
        rw [← List.append_nil batches] at activated
        exact ⟨index, by rw [same], same, activated⟩
      · rw [none] at activates
        exact absurd activates List.not_mem_nil
  | _ => exact absurd activates List.not_mem_nil

end ListenerState

end Admission.Listener
