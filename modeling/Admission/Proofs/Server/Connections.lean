import Admission.Proofs.Server.Run

/-!
Contract: the connections that a server knows are those that its listener tracks.

Records come by the outcomes of sockets, which are put down one by one, and go by reports and by
drains. Between an operation and the last outcome that is put down, the table lacks what is still to
be told.

Owns:
- `MirrorsBut`, how a table stands to the records of a listener when some outcomes are still to be put
  down, kept by every part of a turn;
- `connections_mirror_records`.
-/

namespace Admission.Server

open Admission.Chain Admission.Listener Admission.Config

/-- The entries of a table are the records of a listener, each once, but for those that some outcomes
still have to tell. -/
structure MirrorsBut {σ : Type} (core : ListenerState σ) (connections : Table Nat ConnectionHandle)
    (untold : List SocketOutcome) : Prop where
  distinct : connections.Distinct
  live : ∀ connection handle, connections.get? connection = some handle →
    ∃ record ∈ core.records, record.connection = connection ∧ record.handle = handle
  told : ∀ record ∈ core.records, connections.get? record.connection = some record.handle ∨
    .connected record.handle ∈ untold

/-- The entries of a table are the records of a listener, each once. -/
def Mirrors {σ : Type} (core : ListenerState σ) (connections : Table Nat ConnectionHandle) : Prop :=
  MirrorsBut core connections []

section Mirrors

variable {σ : Type} {core after : ListenerState σ} {connections : Table Nat ConnectionHandle}

private theorem Mirrors.found (mirrors : Mirrors core connections) {record : ConnectionRecord}
    (listed : record ∈ core.records) :
    connections.get? record.connection = some record.handle :=
  (mirrors.told record listed).resolve_right List.not_mem_nil

private theorem Mirrors.of_records (mirrors : Mirrors core connections)
    (same : after.records = core.records) : Mirrors after connections := by
  refine ⟨mirrors.distinct, ?_, ?_⟩
  · rw [same]
    exact mirrors.live
  · rw [same]
    exact mirrors.told

/-- After sockets have moved, the table lacks the connections of the outcomes. -/
theorem Mirrors.moved (mirrors : Mirrors core connections) {operation : Operation}
    {outcomes : List SocketOutcome}
    (effect : ListenerState.Effect core operation outcomes after) (housed : core.Housed)
    (fewer : core.records ⊆ after.records) : MirrorsBut after connections outcomes where
  distinct := mirrors.distinct
  live := by
    intro connection handle found
    obtain ⟨record, listed, same⟩ := mirrors.live connection handle found
    exact ⟨record, fewer listed, same⟩
  told := by
    intro record listed
    exact (effect.records_cases housed.tidy listed).imp_left mirrors.found

/-- The entries of records that are left mirror the records that are left. -/
theorem Mirrors.filtered (mirrors : Mirrors core connections) (housed : core.Housed)
    (housedAfter : after.Housed) (fewer : after.records ⊆ core.records) :
    Mirrors after
      ⟨connections.entries.filter fun entry => (after.record? entry.2).isSome⟩ := by
  refine ⟨mirrors.distinct.filter _, ?_, ?_⟩
  · intro connection handle found
    obtain ⟨found, left⟩ := mirrors.distinct.get?_filter.mp found
    obtain ⟨record, listed, rfl, rfl⟩ := mirrors.live connection handle found
    obtain ⟨later, tracked⟩ := Option.isSome_iff_exists.mp left
    have laterListed := housedAfter.mem_of_record? tracked
    have sameHandle := ListenerState.handle_of_record? tracked
    have same := housed.eq_of_handle (fewer laterListed) listed sameHandle
    exact ⟨later, laterListed, by rw [same], sameHandle⟩
  · intro record listed
    refine .inl (mirrors.distinct.get?_filter.mpr ⟨mirrors.found (fewer listed), ?_⟩)
    exact Option.isSome_of_eq_some (housedAfter.mem_records_iff.mp listed)

/-- The entry of a record that is removed is the only one to go. -/
theorem Mirrors.removed (mirrors : Mirrors core connections) (housed : core.Housed)
    {connection : Nat} {handle : ConnectionHandle}
    (housedAfter : (core.removeConnection handle).2.Housed)
    (found : connections.get? connection = some handle) :
    Mirrors (core.removeConnection handle).2 (connections.erase connection) := by
  obtain ⟨gone, goneListed, rfl, rfl⟩ := mirrors.live connection handle found
  have mem_iff : ∀ record, record ∈ (core.removeConnection gone.handle).2.records ↔
      record.handle ≠ gone.handle ∧ record ∈ core.records := by
    intro record
    rw [housedAfter.mem_records_iff, housed.mem_records_iff]
    unfold ListenerState.Tracks
    rw [ListenerState.record?_removeConnection]
    by_cases same : record.handle = gone.handle
    · simp [same]
    · simp [same]
  refine ⟨mirrors.distinct.erase _, ?_, ?_⟩
  · intro other handle there
    rw [Table.get?_erase] at there
    split at there
    · cases there
    · rename_i elsewhere
      obtain ⟨record, listed, rfl, rfl⟩ := mirrors.live other handle there
      refine ⟨record, (mem_iff record).mpr ⟨?_, listed⟩, rfl, rfl⟩
      intro same
      exact elsewhere (congrArg (·.connection) (housed.eq_of_handle listed goneListed same))
  · intro record listed
    obtain ⟨other, earlier⟩ := (mem_iff record).mp listed
    have elsewhere : record.connection ≠ gone.connection := by
      intro same
      exact other (congrArg (·.handle) (housed.eq_of_connection earlier goneListed same))
    refine .inl ?_
    rw [Table.get?_erase, if_neg elsewhere]
    exact mirrors.found earlier

end Mirrors

namespace ServerState

/-! ## Outcomes that are put down -/

section Track

variable (server : ServerState)

/-- Putting an outcome down tells what it has connected. -/
theorem mirrorsBut_track {outcome : SocketOutcome} {untold : List SocketOutcome}
    (housed : server.core.Housed)
    (mirrors : MirrorsBut server.core server.connections (outcome :: untold)) :
    MirrorsBut server.core (server.track outcome).connections untold := by
  have later : ∀ record ∈ server.core.records,
      outcome ≠ .connected record.handle →
      server.connections.get? record.connection = some record.handle ∨
        .connected record.handle ∈ untold := by
    intro record listed other
    refine (mirrors.told record listed).imp_right ?_
    intro told
    exact (List.mem_cons.mp told).resolve_left other.symm
  unfold track
  split
  · rename_i handle
    split
    · rename_i made found
      have madeListed := housed.mem_of_record? found
      have madeHandle := ListenerState.handle_of_record? found
      refine ⟨mirrors.distinct.insert _ _, ?_, ?_⟩
      · intro connection other there
        rw [Table.get?_insert] at there
        split at there
        · rename_i here
          exact ⟨made, madeListed, here.symm, madeHandle.trans (Option.some.inj there)⟩
        · exact mirrors.live connection other there
      · intro record listed
        rw [Table.get?_insert]
        by_cases same : record.connection = made.connection
        · rw [if_pos same, housed.eq_of_connection listed madeListed same, madeHandle]
          exact .inl rfl
        · rw [if_neg same]
          refine later record listed ?_
          intro connected
          have sameHandle := (SocketOutcome.connected.inj connected).symm.trans madeHandle.symm
          exact same (congrArg (·.connection) (housed.eq_of_handle listed madeListed sameHandle))
    · rename_i absent
      refine ⟨mirrors.distinct, mirrors.live, ?_⟩
      intro record listed
      refine later record listed ?_
      intro connected
      have tracked := housed.mem_records_iff.mp listed
      unfold ListenerState.Tracks at tracked
      rw [← SocketOutcome.connected.inj connected, absent] at tracked
      cases tracked
  · rename_i other
    refine ⟨mirrors.distinct, mirrors.live, ?_⟩
    intro record listed
    exact later record listed (other record.handle)

private theorem mirrors_expires {results : List (SocketId × SocketOutcome)}
    (housed : server.core.Housed)
    (mirrors : MirrorsBut server.core server.connections (results.map (·.2))) :
    Mirrors (results.foldl expire server).core (results.foldl expire server).connections := by
  induction results generalizing server with
  | nil => exact mirrors
  | cons result rest inductionHypothesis =>
      let erased := { server with watches := server.watches.erase result.1 }
      have same : (erased.track result.2).core = server.core := core_track _ _
      have told : MirrorsBut (erased.track result.2).core (erased.track result.2).connections
          (rest.map (·.2)) := by
        rw [same]
        exact mirrorsBut_track erased housed mirrors
      refine inductionHypothesis (erased.track result.2) ?_ told
      rw [same]
      exact housed

end Track

/-! ## Parts of a turn -/

section Parts

variable {server : ServerState} (reachable : server.core.Reachable)
  (mirrors : Mirrors server.core server.connections)

include reachable mirrors

theorem mirrorsBut_step (operation : Operation) (stays : operation.shelves = false)
    (goesOn : operation ≠ .shutdown) :
    MirrorsBut (server.core.step operation) server.connections (server.core.outcomes operation) := by
  have housed := reachable.housed
  have effect := housed.effect operation
  exact mirrors.moved effect housed (effect.records_subset housed.tidy stays goesOn)

private theorem mirrors_onAccept (socket : Socket) (now : Nat) :
    Mirrors (server.onAccept socket now).core (server.onAccept socket now).connections := by
  have untold := mirrorsBut_step reachable mirrors (.accept socket now) rfl nofun
  have housed := (reachable.step (.accept socket now)).housed
  have told :=
    mirrorsBut_track { server with core := (server.core.accept socket now).2 } housed untold
  rw [core_onAccept]
  unfold onAccept
  dsimp only
  split
  · rename_i waits _
    rw [waits] at told
    exact told
  · exact told

private theorem mirrors_onPeek (id : SocketId) (data : List UInt8) :
    Mirrors (server.onPeek id data).core (server.onPeek id data).connections := by
  have untold := mirrorsBut_step reachable mirrors (.data id data) rfl nofun
  have housed := (reachable.step (.data id data)).housed
  have told := mirrorsBut_track { server with
      core := (server.core.onSocketData id data).2
      watches := server.watches.erase id }
    housed untold
  rw [core_onPeek]
  unfold onPeek
  dsimp only
  split
  · rename_i waits _
    rw [waits] at told
    exact told
  · rename_i waits _
    rw [waits] at told
    exact told
  · exact told

private theorem mirrors_onDeadline (now : Nat) :
    Mirrors (server.onDeadline now).core (server.onDeadline now).connections := by
  have untold := mirrorsBut_step reachable mirrors (.poll now) rfl nofun
  have housed := (reachable.step (.poll now)).housed
  rw [onDeadline_eq]
  exact mirrors_expires { server with core := (server.core.pollTimeouts now).2 } housed untold

/-- A socket whose peer has gone is not connected. -/
theorem mirrors_onPeerClosed (id : SocketId) :
    Mirrors (server.onPeerClosed id).core (server.onPeerClosed id).connections := by
  have untold := mirrorsBut_step reachable mirrors (.resume id false) rfl nofun
  refine ⟨untold.distinct, untold.live, ?_⟩
  intro record listed
  refine (untold.told record listed).imp_right ?_
  intro connected
  have outcome := List.mem_singleton.mp connected
  rcases reachable.housed.waiting.resume_false_cases id with unknown | closed
  · exact absurd (outcome.trans unknown) nofun
  · exact absurd (outcome.trans closed) nofun

private theorem mirrors_onReport (connection : Nat) (event : ConnectionEvent) :
    Mirrors (server.onReport connection event).core
      (server.onReport connection event).connections := by
  rcases server.onReport_cases connection event with same | ⟨handle, found, reported⟩
  · rw [same]
    exact mirrors
  · rw [reported]
    exact mirrors.removed reachable.housed (reachable.step (.remove handle)).housed found

private theorem mirrors_forgetClosed (operation : Operation) (shelves : operation.shelves = true)
    (after : ServerState) (core : after.core = server.core.step operation)
    (connections : after.connections = server.connections) :
    Mirrors after.forgetClosed.core after.forgetClosed.connections := by
  have housed := reachable.housed
  have shelved := housed.tracking.shelved_step housed.distinct shelves
  have filtered := mirrors.filtered housed (reachable.step operation).housed shelved.records_subset
  unfold forgetClosed
  rw [core, connections]
  exact filtered

private theorem mirrors_applyFile (file : ListenerFile) :
    Mirrors (server.applyFile file).2.core (server.applyFile file).2.connections := by
  obtain ⟨batches, coherent⟩ := reachable.coherent
  have activation := coherent.applyChains_cases file.filterChains Builtin.builder
  have forgotten := mirrors_forgetClosed reachable mirrors
    (.apply file.filterChains Builtin.builder) rfl { server with
      core := (server.core.applyChains file.filterChains Builtin.builder).2
      file := { server.file with filterChains := file.filterChains } } rfl rfl
  unfold applyFile
  dsimp only
  rcases activation with ⟨index, outcome, _⟩ | ⟨none, registry, _, _, result⟩
  · rw [outcome]
    exact forgotten
  · have kept : Mirrors (server.core.applyChains file.filterChains Builtin.builder).2
        server.connections := by
      rw [result]
      exact mirrors.of_records rfl
    split
    · exact kept
    · rename_i activation outcome
      exact absurd outcome (none activation)
    · exact kept

private theorem mirrors_reload (contents : Option (List UInt8)) :
    Mirrors (server.reload contents).2.core (server.reload contents).2.connections := by
  obtain ⟨digest, same | ⟨file, applied⟩⟩ := server.reload_cases contents
  · rw [same]
    exact mirrors
  · rw [applied]
    exact @mirrors_applyFile { server with digest := digest } reachable mirrors file

private theorem mirrors_handle (now : Nat) (event : LoopEvent) :
    Mirrors (server.handle now event).core (server.handle now event).connections := by
  cases event with
  | accepted socket => exact mirrors_onAccept reachable mirrors socket now
  | peeked id data => exact mirrors_onPeek reachable mirrors id data
  | peerClosed id => exact mirrors_onPeerClosed reachable mirrors id
  | reported connection event => exact mirrors_onReport reachable mirrors connection event
  | deadline => exact mirrors_onDeadline reachable mirrors now
  | fileSeen contents => exact mirrors_reload reachable mirrors contents

/-- Warm-ups that are dispatched drain chains only if one of them activates. -/
theorem mirrors_endTurn : Mirrors server.endTurn.core server.endTurn.connections := by
  obtain ⟨batches, coherent⟩ := reachable.coherent
  have activation := coherent.dispatchWarmed_cases
  have forgotten := mirrors_forgetClosed reachable mirrors .dispatch rfl
    { server with core := server.core.dispatchWarmed.2 } rfl rfl
  have cleared (core : ListenerState Unit) {connections : Table Nat ConnectionHandle}
      (before : Mirrors core connections) : Mirrors core.clearParked.2 connections := by
    refine before.of_records ?_
    unfold ListenerState.records
    rw [core.calm_clearParked.groups]
  unfold endTurn
  dsimp only
  rcases activation with ⟨index, activates, _⟩ | ⟨none, registry, _, _, result⟩
  · rw [activates]
    exact cleared _ forgotten
  · rw [none, result]
    exact cleared _ (mirrors.of_records rfl)

end Parts

/-! ## Runs -/

variable {server : ServerState}

theorem mirrors_run (begins : server.Begins) (turns : List Turn) :
    Mirrors (server.run turns).core (server.run turns).connections := by
  induction turns using List.reverseRecOn with
  | nil =>
      have nothing := begins.quiet.2
      refine ⟨?_, ?_, ?_⟩
      · rw [run, List.foldl_nil, begins.connections]
        exact Table.distinct_empty
      · intro connection handle found
        rw [run, List.foldl_nil, begins.connections] at found
        cases found
      · intro record listed
        rw [run, List.foldl_nil, nothing] at listed
        cases listed
  | append_singleton turns turn inductionHypothesis =>
      have reachable := reachable_run begins turns
      have handled := mirrors_handle reachable inductionHypothesis turn.now turn.event
      rw [run_concat]
      exact mirrors_endTurn (reachable_handle reachable turn.now turn.event) handled

/-- After every turn the table of a server is a bijection from the identities of connections to the
handles of live records: a live record is found under its connection, every entry names a live record
of its connection, and records and entries are equal in number and one to one. -/
theorem connections_mirror_records (begins : server.Begins) (turns : List Turn) :
    let after := server.run turns
    (∀ handle record, after.core.record? handle = some record →
      after.connections.get? record.connection = some handle) ∧
    (∀ connection handle, after.connections.get? connection = some handle →
      ∃ record, after.core.record? handle = some record ∧ record.connection = connection) ∧
    after.connections.entries.Perm
      (after.core.records.map fun record => (record.connection, record.handle)) := by
  have mirrors := mirrors_run begins turns
  have reachable := reachable_run begins turns
  have housed := reachable.housed
  refine ⟨?_, ?_, ?_⟩
  · intro handle record found
    rw [← ListenerState.handle_of_record? found]
    exact mirrors.found (housed.mem_of_record? found)
  · intro connection handle found
    obtain ⟨record, listed, same, rfl⟩ := mirrors.live connection handle found
    exact ⟨record, housed.mem_records_iff.mp listed, same⟩
  · have handles : ((server.run turns).core.records.map (·.handle.serial)).Nodup :=
      (reachable.numbered.sublist
        ((List.sublist_append_right _ _).trans (List.sublist_append_left _ _))).distinct
    have entries : (server.run turns).connections.entries.Nodup := mirrors.distinct.of_map _
    have records : ((server.run turns).core.records.map
        fun record => (record.connection, record.handle)).Nodup := by
      refine List.Nodup.of_map (·.2.serial) ?_
      rw [List.map_map]
      exact handles
    refine (List.perm_ext_iff_of_nodup entries records).mpr ?_
    rintro ⟨connection, handle⟩
    rw [mirrors.distinct.mem_entries_iff, List.mem_map]
    constructor
    · intro found
      obtain ⟨record, listed, rfl, rfl⟩ := mirrors.live connection handle found
      exact ⟨record, listed, rfl⟩
    · rintro ⟨record, listed, same⟩
      cases same
      exact mirrors.found listed

/-- Two connections, of which the first is ended twice. -/
def visits : List Turn := [
  ⟨0, .accepted (caller 1)⟩, ⟨1, .accepted (caller 2)⟩, ⟨2, .reported 1 .remoteClose⟩,
  ⟨3, .reported 1 .localClose⟩]

theorem connections_mirror_records_visits :
    (echoing []).Begins ∧
      ∃ record, ((echoing []).run visits).core.record? ⟨⟨1⟩, 1, 4⟩ = some record ∧
        record.connection = 2 := by
  have begins := begins_echoing []
  have entry : ((echoing []).run visits).connections.get? 2 = some ⟨⟨1⟩, 1, 4⟩ := by
    decide +kernel
  exact ⟨begins, (connections_mirror_records begins visits).2.1 2 _ entry⟩

end ServerState

end Admission.Server
