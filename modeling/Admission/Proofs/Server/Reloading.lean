import Admission.Proofs.Chain.Service
import Admission.Proofs.Listener.Events
import Admission.Proofs.Listener.Parking
import Admission.Proofs.Server.Run

/-!
Contract: which filter chains a server runs on that looks at its file again and again.

A look compares the digest of the bytes with that of the last look. A server that begins to watch its
file takes what it finds there for what it runs on. Afterwards the last content that was read is what
the digest stands for, and either it has been applied or it is refused by the active chains, which
have stayed since.

Owns:
- `seen`, the contents that turns read, and `AsFound`, by which the first look is passed over;
- `Looked`, what a look can do to a server;
- `Heeding`, the invariant of a server that watches its file, kept by every turn;
- `reload_settles`, and `lost_reloads`, what it leaves out.
-/

namespace Admission.Server

open Admission.Chain Admission.Listener Admission.Config Admission.Json

/-! ## Contents -/

/-- The bytes that a turn reads from the listener file. -/
def Turn.read? (turn : Turn) : Option (List UInt8) :=
  match turn.event with
  | .fileSeen contents => contents
  | _ => none

/-- The contents that turns read, in order. -/
def seen (turns : List Turn) : List (List UInt8) :=
  turns.filterMap Turn.read?

private theorem seen_concat (turns : List Turn) (turn : Turn) :
    seen (turns ++ [turn]) = seen turns ++ turn.read?.toList := by
  unfold seen
  rw [List.filterMap_append]
  cases read : turn.read? with
  | none => rw [List.filterMap_cons_none read, List.filterMap_nil, Option.toList_none]
  | some bytes => rw [List.filterMap_cons_some read, List.filterMap_nil, Option.toList_some]

/-- No contents were read but those found when the server began to watch its file. -/
def AsFound (found : Option (List UInt8)) (earlier : List (List UInt8)) : Prop :=
  ∀ bytes ∈ earlier, found = some bytes

private theorem AsFound.earlier {found : Option (List UInt8)} {earlier later : List (List UInt8)}
    (asFound : AsFound found (earlier ++ later)) : AsFound found earlier :=
  fun bytes listed => asFound bytes (List.mem_append_left _ listed)

/-- The digest that a server keeps which found some bytes at first and has read some since. -/
def lastDigest (found : Option (List UInt8)) (earlier : List (List UInt8)) : String :=
  ((earlier.getLast?.or found).map ListenerFile.digest).getD ""

private theorem digest_ne_empty (bytes : List UInt8) : ListenerFile.digest bytes ≠ "" := by
  intro empty
  have chars := congrArg String.toList empty
  unfold ListenerFile.digest Digest.sha256Hex Text.encodeHex at chars
  rw [String.toList_ofList, String.toList_empty, List.flatMap_eq_nil_iff] at chars
  have none : Digest.sha256 bytes = [] :=
    List.eq_nil_iff_forall_not_mem.mpr fun byte listed => List.cons_ne_nil _ _ (chars byte listed)
  unfold Digest.sha256 Digest.bigEndian at none
  simp at none

private theorem lastDigest_concat (found : Option (List UInt8)) (earlier : List (List UInt8))
    (bytes : List UInt8) : lastDigest found (earlier ++ [bytes]) = ListenerFile.digest bytes := by
  unfold lastDigest
  rw [List.getLast?_concat]
  rfl

/-- Where the digest has no collisions, it tells the bytes that were read last. -/
theorem last_of_digest {found : Option (List UInt8)} {earlier : List (List UInt8)}
    {texts : Set (List UInt8)} (collisionFree : CollisionFree texts)
    (known : ∀ bytes ∈ earlier.getLast?.or found, bytes ∈ texts) {bytes : List UInt8}
    (text : bytes ∈ texts) (same : ListenerFile.digest bytes = lastDigest found earlier) :
    earlier.getLast?.or found = some bytes := by
  unfold lastDigest at same
  cases last : earlier.getLast?.or found with
  | none =>
      rw [last] at same
      exact absurd same (digest_ne_empty bytes)
  | some other =>
      rw [last] at same
      rw [collisionFree bytes text other (known other last) same]

namespace ServerState

/-! ## What a server runs on -/

/-- The filter chains are accepted. -/
def Accepts (server : ServerState) (batch : List FilterChainDescriptor) : Prop :=
  ∃ outcome, (server.core.applyChains batch Builtin.builder).1.outcome = .ok outcome

/-- The active filter chains are those of the file that the server keeps. -/
def Serving (server : ServerState) : Prop :=
  ∃ index, server.core.registry.active = some index ∧
    index.Serves Builtin.builder server.file.filterChains

/-- No generation waits and nothing is parked: that is how a turn ends. -/
structure Rested (server : ServerState) : Prop where
  warming : server.core.registry.warming = none
  parked : server.core.parked = []

variable {server after : ServerState}

private theorem accepts_iff_builds {batch : List FilterChainDescriptor} :
    server.Accepts batch ↔
      ∃ index, (server.core.registry.buildOf batch Builtin.builder).outcome = .ok index := by
  unfold Accepts
  rw [server.core.applyChains_eq]
  dsimp only
  cases outcome : (server.core.registry.buildOf batch Builtin.builder).outcome with
  | error error =>
      rw [(Registry.beginUpdate_of_refused outcome).2]
      simp
  | ok index =>
      rw [(Registry.activated_of_accepted prompt_builtin outcome).2]
      simp

/-- Whether filter chains are accepted depends on those that are active. -/
theorem accepts_congr (same : after.core.registry.active = server.core.registry.active)
    {batch : List FilterChainDescriptor} : after.Accepts batch ↔ server.Accepts batch := by
  rw [accepts_iff_builds, accepts_iff_builds]
  unfold Registry.buildOf
  rw [same]
  exact MatchIndex.accepts_congr

private theorem Serving.congr (serving : server.Serving)
    (active : after.core.registry.active = server.core.registry.active)
    (chains : after.file.filterChains = server.file.filterChains) : after.Serving := by
  unfold Serving
  rw [active, chains]
  exact serving

/-! ## Looks at the file -/

/-- What a look at the file does to a server that keeps a digest. -/
inductive Looked (server : ServerState) (last : String) :
    Option (List UInt8) → ServerState → Prop
  | absent : Looked server last none server
  | again {bytes : List UInt8} (same : ListenerFile.digest bytes = last) :
      Looked server last (some bytes) server
  /-- The bytes spell no file, or its chains are refused. -/
  | refused {bytes : List UInt8} (registry : Registry)
      (refuses : ∀ file, ListenerFile.load (some bytes) = .ok file →
        ¬server.Accepts file.filterChains)
      (active : registry.active = server.core.registry.active)
      (warming : registry.warming = server.core.registry.warming) :
      Looked server last (some bytes) { server with
        digest := some (ListenerFile.digest bytes)
        core := { server.core with registry } }
  | applied {bytes : List UInt8} {file : ListenerFile} {index : MatchIndex} (registry : Registry)
      (connections : Table Nat ConnectionHandle) (fresh : ListenerFile.digest bytes ≠ last)
      (loaded : ListenerFile.load (some bytes) = .ok file)
      (accepted : (server.core.registry.buildOf file.filterChains Builtin.builder).outcome =
        .ok index)
      (active : registry.active = some index) (warming : registry.warming = none) :
      Looked server last (some bytes) { server with
        digest := some (ListenerFile.digest bytes)
        file := { server.file with filterChains := file.filterChains }
        core := { server.core with registry }.drain
          (server.core.registry.activationOf index).removed
        connections }

private theorem applyChains_of_accepted {core : ListenerState Unit}
    {batch : List FilterChainDescriptor} {index : MatchIndex}
    (accepted : (core.registry.buildOf batch Builtin.builder).outcome = .ok index) :
    ∃ registry : Registry, registry.active = some index ∧ registry.warming = none ∧
      (core.applyChains batch Builtin.builder).1.outcome =
        .ok (.activated (core.registry.activationOf index)) ∧
      (core.applyChains batch Builtin.builder).2 =
        { core with registry }.drain (core.registry.activationOf index).removed := by
  obtain ⟨registry, outcome⟩ := Registry.activated_of_accepted prompt_builtin accepted
  refine ⟨((core.registry.drawn (core.registry.buildOf batch Builtin.builder)).warm index []).swap
    index, rfl, rfl, ?_, ?_⟩
  · rw [core.applyChains_eq]
    exact outcome
  · rw [← registry]
    unfold ListenerState.applyChains
    dsimp only
    rw [outcome]

private theorem applyChains_of_refused {core : ListenerState Unit}
    {batch : List FilterChainDescriptor} {error : ConfigError}
    (refused : (core.registry.buildOf batch Builtin.builder).outcome = .error error) :
    ∃ registry : Registry, registry.active = core.registry.active ∧
      registry.warming = core.registry.warming ∧
      (core.applyChains batch Builtin.builder).1.outcome = .error error ∧
      (core.applyChains batch Builtin.builder).2 = { core with registry } := by
  obtain ⟨registry, outcome⟩ := Registry.beginUpdate_of_refused refused
  refine ⟨core.registry.drawn (core.registry.buildOf batch Builtin.builder), rfl, rfl, ?_, ?_⟩
  · rw [core.applyChains_eq]
    exact outcome
  · rw [← registry]
    unfold ListenerState.applyChains
    dsimp only
    rw [outcome]

private theorem looked_applyFile {last : String} {bytes : List UInt8} {file : ListenerFile}
    (fresh : ListenerFile.digest bytes ≠ last)
    (loaded : ListenerFile.load (some bytes) = .ok file) :
    Looked server last (some bytes)
      ({ server with digest := some (ListenerFile.digest bytes) }.applyFile file).2 := by
  unfold applyFile
  dsimp only
  cases outcome : (server.core.registry.buildOf file.filterChains Builtin.builder).outcome with
  | error error =>
      obtain ⟨registry, active, warming, answer, core⟩ := applyChains_of_refused outcome
      have refuses : ∀ other, ListenerFile.load (some bytes) = .ok other →
          ¬server.Accepts other.filterChains := by
        intro other spelled
        obtain rfl : file = other := Except.ok.inj (loaded.symm.trans spelled)
        rw [accepts_iff_builds, outcome]
        nofun
      generalize server.core.applyChains file.filterChains Builtin.builder = result at answer core ⊢
      rw [answer, core]
      exact .refused registry refuses active warming
  | ok index =>
      obtain ⟨registry, active, warming, answer, core⟩ := applyChains_of_accepted outcome
      generalize server.core.applyChains file.filterChains Builtin.builder = result at answer core ⊢
      rw [answer, core]
      exact .applied registry _ fresh loaded outcome active warming

private theorem looked_reload {last : String} (watched : server.digest = some last)
    (contents : Option (List UInt8)) : Looked server last contents (server.reload contents).2 := by
  cases contents with
  | none =>
      unfold reload
      rw [watched]
      exact .absent
  | some bytes =>
      unfold reload
      rw [watched]
      dsimp only
      by_cases same : ListenerFile.digest bytes = last
      · rw [if_pos same]
        exact .again same
      · rw [if_neg same]
        cases loaded : ListenerFile.load (some bytes) with
        | error problem =>
            exact .refused server.core.registry (fun file spelled => by
              rw [loaded] at spelled
              cases spelled) rfl rfl
        | ok file =>
            dsimp only
            exact looked_applyFile same loaded

/-! ## Turns -/

/-- What a server goes by when it looks at its file. -/
def reading (server : ServerState) : ListenerFile × Option String :=
  (server.file, server.digest)

private theorem reading_track (server : ServerState) (outcome : SocketOutcome) :
    (server.track outcome).reading = server.reading := by
  unfold track
  split
  · split <;> rfl
  · rfl

private theorem reading_expires (server : ServerState) (results : List (SocketId × SocketOutcome)) :
    (results.foldl expire server).reading = server.reading := by
  induction results generalizing server with
  | nil => rfl
  | cons result rest inductionHypothesis =>
      rw [List.foldl_cons, inductionHypothesis]
      exact reading_track _ _

private theorem reading_endTurn (server : ServerState) :
    server.endTurn.reading = server.reading := by
  unfold endTurn
  dsimp only
  split <;> rfl

/-- Only a look at the file has to do with the file and with filter chains. -/
theorem handle_of_unread (server : ServerState) (now : Nat) {event : LoopEvent}
    (unread : ∀ contents, event ≠ .fileSeen contents) :
    (server.handle now event).core.registry = server.core.registry ∧
      (server.handle now event).reading = server.reading := by
  cases event with
  | accepted socket =>
      rw [handle]
      constructor
      · rw [core_onAccept]
        exact server.core.registry_step_of_quiet rfl
      · unfold onAccept
        dsimp only
        split
        · rfl
        · exact reading_track _ _
  | peeked id data =>
      rw [handle]
      constructor
      · rw [core_onPeek]
        exact server.core.registry_step_of_quiet rfl
      · unfold onPeek
        dsimp only
        split
        · rfl
        · rfl
        · exact reading_track _ _
  | peerClosed id => 
      have quiet : (Operation.resume id false).event? = none := rfl
      exact ⟨server.core.registry_step_of_quiet quiet, rfl⟩
  | reported connection event =>
      rw [handle]
      rcases server.onReport_cases connection event with same | ⟨ended, _, reported⟩
      · rw [same]
        exact ⟨rfl, rfl⟩
      · rw [reported]
        have quiet : (Operation.remove ended).event? = none := rfl
        exact ⟨server.core.registry_step_of_quiet quiet, rfl⟩
  | deadline =>
      rw [handle]
      constructor
      · rw [core_onDeadline]
        exact server.core.registry_step_of_quiet rfl
      · rw [onDeadline_eq, reading_expires]
        rfl
  | fileSeen contents => exact absurd rfl (unread contents)

private theorem core_endTurn_of_idle (idle : server.core.registry.warming = none) :
    server.endTurn.core = { server.core with
      registry := { server.core.registry with warmed := [] } }.clearParked.2 := by
  have still : { server.core.registry with warmed := [] }.warming = none := idle
  have dispatched : server.core.registry.dispatchWarmed =
      ({ server.core.registry with warmed := [] }, []) := Registry.deliver_of_idle still _
  rw [core_endTurn]
  unfold ListenerState.step ListenerState.dispatchWarmed
  dsimp only
  rw [dispatched]
  rfl

/-- The end of a turn in which nothing waits leaves the active chains as they are. -/
theorem rested_endTurn (idle : server.core.registry.warming = none) :
    server.endTurn.Rested ∧
      server.endTurn.core.registry.active = server.core.registry.active := by
  have core := core_endTurn_of_idle idle
  obtain ⟨connections, cleared⟩ := ListenerState.clearParked_frame { server.core with
    registry := { server.core.registry with warmed := [] } }
  rw [cleared] at core
  refine ⟨⟨?_, ?_⟩, ?_⟩
  · rw [core]
    exact idle
  · rw [core]
  · rw [core]

/-! ## What a watching server is like -/

/-- The content of a file and the chains that it spells are among some texts. -/
structure Known (texts : Set (List UInt8)) (bytes : List UInt8) : Prop where
  content : bytes ∈ texts
  chains : ∀ file, ListenerFile.load (some bytes) = .ok file →
    ∀ descriptor ∈ file.filterChains, descriptor.contentBytes ∈ texts

/-- A server between two turns that has read some contents since it was bound and found its file. -/
structure Heeding (bound : ServerState) (found : Option (List UInt8)) (texts : Set (List UInt8))
    (earlier : List (List UInt8)) (server : ServerState) : Prop where
  digest : server.digest = some (lastDigest found earlier)
  serving : server.Serving
  texts : ∀ descriptor ∈ server.file.filterChains, descriptor.contentBytes ∈ texts
  initial : AsFound found earlier →
    server.core.registry.active = bound.core.registry.active ∧
      server.file.filterChains = bound.file.filterChains
  /-- The content that was read last has been applied, unless it is refused. -/
  latest : ¬AsFound found earlier → ∀ bytes ∈ earlier.getLast?, ∀ file,
    ListenerFile.load (some bytes) = .ok file → server.Accepts file.filterChains →
      server.file.filterChains = file.filterChains

variable {bound : ServerState} {found : Option (List UInt8)} {texts : Set (List UInt8)}
  {earlier : List (List UInt8)}

private theorem Heeding.congr (heeding : Heeding bound found texts earlier server)
    (active : after.core.registry.active = server.core.registry.active)
    (reading : after.reading = server.reading) : Heeding bound found texts earlier after := by
  obtain ⟨file, digest⟩ := Prod.mk.inj reading
  have chains : after.file.filterChains = server.file.filterChains := by rw [file]
  refine ⟨digest.trans heeding.digest, heeding.serving.congr active chains, ?_, ?_, ?_⟩
  · rw [chains]
    exact heeding.texts
  · rw [active, chains]
    exact heeding.initial
  · intro other bytes last file loaded accepts
    rw [chains]
    exact heeding.latest other bytes last file loaded ((accepts_congr active).mp accepts)

/-- A server that was just bound runs on the chains of its file. -/
theorem heeding_bind {file : ListenerFile} (started : bind file = .ok bound)
    (found : Option (List UInt8)) (collisionFree : CollisionFree texts)
    (chains : ∀ descriptor ∈ file.filterChains, descriptor.contentBytes ∈ texts) :
    bound.file = file ∧ (bound.withReload found).Rested ∧
      Heeding bound found texts [] (bound.withReload found) := by
  unfold bind at started
  split at started
  · cases started
  · rename_i config configured
    dsimp only at started
    cases outcome : ((ListenerState.new config .tcp).registry.buildOf file.filterChains
        Builtin.builder).outcome with
    | error error =>
        obtain ⟨_, _, _, answer, _⟩ := applyChains_of_refused outcome
        rw [answer] at started
        cases started
    | ok index =>
        obtain ⟨registry, active, warming, answer, core⟩ :=
          applyChains_of_accepted outcome
        rw [answer, core] at started
        cases started
        have serves : index.Serves Builtin.builder file.filterChains := by
          refine MatchIndex.serves_of_accepted collisionFree chains ?_ outcome
          intro old here
          exact absurd here.symm (Option.some_ne_none old)
        exact ⟨rfl, ⟨warming, rfl⟩, rfl, ⟨index, active, serves⟩, chains, fun _ => ⟨rfl, rfl⟩,
          fun _ bytes listed => absurd listed (by simp)⟩

/-- A turn without a look at the file. -/
theorem Heeding.unread (heeding : Heeding bound found texts earlier server) (rested : server.Rested)
    {turn : Turn} (unread : ∀ contents, turn.event ≠ .fileSeen contents) :
    (server.step turn).Rested ∧ Heeding bound found texts earlier (server.step turn) := by
  obtain ⟨registry, reading⟩ := server.handle_of_unread turn.now unread
  have idle : (server.handle turn.now turn.event).core.registry.warming = none := by
    rw [registry]
    exact rested.warming
  obtain ⟨restedAfter, active⟩ := rested_endTurn idle
  rw [registry] at active
  exact ⟨restedAfter, heeding.congr active ((reading_endTurn _).trans reading)⟩

private theorem getLast?_or_mem {bytes : List UInt8}
    (last : earlier.getLast?.or found = some bytes) :
    bytes ∈ found.toList ++ earlier := by
  cases latest : earlier.getLast? with
  | none =>
      rw [latest] at last
      exact List.mem_append_left _ (Option.mem_toList.mpr last)
  | some other =>
      rw [latest] at last
      obtain rfl : other = bytes := Option.some.inj last
      exact List.mem_append_right _ (List.mem_of_getLast? latest)

/-- Where the digest is that of the last look, the content is that of the last look; and it has been
that since the file was found, or it has been looked at. -/
theorem again_cases (collisionFree : CollisionFree texts) {bytes : List UInt8}
    (known : ∀ other ∈ (found.toList ++ earlier) ++ [bytes], Known texts other)
    (same : ListenerFile.digest bytes = lastDigest found earlier) :
    AsFound found (earlier ++ [bytes]) ∨
      (¬AsFound found earlier ∧ earlier.getLast? = some bytes) := by
  have text := (known bytes (List.mem_append_right _ List.mem_cons_self)).content
  have last := last_of_digest collisionFree
    (fun other last => (known other (List.mem_append_left _ (getLast?_or_mem last))).content)
    text same
  by_cases asFound : AsFound found earlier
  · have here : found = some bytes := by
      cases latest : earlier.getLast? with
      | none =>
          rw [latest] at last
          exact last
      | some other =>
          rw [latest] at last
          obtain rfl : other = bytes := Option.some.inj last
          exact asFound _ (List.mem_of_getLast? latest)
    refine .inl ?_
    intro other listed
    rcases List.mem_append.mp listed with old | new
    · exact asFound other old
    · rw [List.mem_singleton.mp new]
      exact here
  · refine .inr ⟨asFound, ?_⟩
    cases latest : earlier.getLast? with
    | none =>
        rw [List.getLast?_eq_none_iff.mp latest] at asFound
        exact absurd (fun _ listed => absurd listed List.not_mem_nil) asFound
    | some other =>
        rw [latest] at last
        exact last

/-- A content that is the only one since the file was found is that of the digest. -/
theorem lastDigest_of_asFound {bytes : List UInt8} (asFound : AsFound found (earlier ++ [bytes])) :
    lastDigest found earlier = ListenerFile.digest bytes := by
  have here : found = some bytes := asFound bytes (List.mem_append_right _ List.mem_cons_self)
  unfold lastDigest
  cases latest : earlier.getLast? with
  | none =>
      rw [here]
      rfl
  | some other =>
      have there := asFound.earlier other (List.mem_of_getLast? latest)
      rw [Option.some.inj (here.symm.trans there)]
      rfl

/-- A look at the file. -/
theorem Heeding.looked (heeding : Heeding bound found texts earlier server)
    (collisionFree : CollisionFree texts) {contents : Option (List UInt8)}
    (known : ∀ bytes ∈ (found.toList ++ earlier) ++ contents.toList, Known texts bytes)
    (looked : Looked server (lastDigest found earlier) contents after) :
    Heeding bound found texts (earlier ++ contents.toList) after := by
  have newest {bytes other : List UInt8} (last : other ∈ (earlier ++ [bytes]).getLast?) :
      bytes = other := by
    rw [List.getLast?_concat] at last
    exact Option.some.inj last
  cases looked with
  | absent =>
      rw [Option.toList_none, List.append_nil]
      exact heeding
  | @again bytes same =>
      have cases := again_cases collisionFree known same
      refine ⟨?_, heeding.serving, heeding.texts, fun asFound => heeding.initial asFound.earlier, ?_⟩
      · rw [Option.toList_some, lastDigest_concat, same]
        exact heeding.digest
      · intro other last listed
        obtain rfl := newest listed
        obtain ⟨looked, last⟩ := cases.resolve_left other
        exact heeding.latest looked bytes last
  | @refused bytes registry refuses active warming =>
      refine ⟨?_, heeding.serving.congr active rfl, heeding.texts, ?_, ?_⟩
      · rw [Option.toList_some, lastDigest_concat]
      · intro asFound
        obtain ⟨same, chains⟩ := heeding.initial asFound.earlier
        exact ⟨active.trans same, chains⟩
      · intro _ last listed file loaded accepts
        obtain rfl := newest listed
        exact absurd ((accepts_congr active).mp accepts) (refuses file loaded)
  | @applied bytes file index registry connections fresh loaded accepted active warming =>
      have chains := (known bytes (List.mem_append_right _ List.mem_cons_self)).chains file loaded
      have drained := ListenerState.registry_drain { server.core with registry }
        (server.core.registry.activationOf index).removed
      refine ⟨?_, ⟨index, ?_, ?_⟩, chains, ?_, ?_⟩
      · rw [Option.toList_some, lastDigest_concat]
      · dsimp only
        rw [drained]
        exact active
      · refine MatchIndex.serves_of_accepted collisionFree chains ?_ accepted
        intro old here
        obtain ⟨running, same, serves⟩ := heeding.serving
        obtain rfl : old = running := Option.some.inj (here.symm.trans same)
        exact ⟨server.file.filterChains, serves, heeding.texts⟩
      · exact fun asFound => absurd (lastDigest_of_asFound asFound).symm fresh
      · intro _ last listed other spelled _
        obtain rfl := newest listed
        obtain rfl : file = other := Except.ok.inj (loaded.symm.trans spelled)
        rfl

private theorem Looked.idle {last : String} {contents : Option (List UInt8)}
    (looked : Looked server last contents after) (idle : server.core.registry.warming = none) :
    after.core.registry.warming = none := by
  cases looked with
  | absent => exact idle
  | again => exact idle
  | refused registry _ _ warming => exact warming.trans idle
  | applied registry _ _ _ _ _ warming =>
      dsimp only
      rw [ListenerState.registry_drain]
      exact warming

/-- A turn in which the server looks at its file. -/
theorem Heeding.look (heeding : Heeding bound found texts earlier server) (rested : server.Rested)
    (collisionFree : CollisionFree texts) {contents : Option (List UInt8)}
    (known : ∀ bytes ∈ (found.toList ++ earlier) ++ contents.toList, Known texts bytes) (now : Nat) :
    (server.step ⟨now, .fileSeen contents⟩).Rested ∧
      Heeding bound found texts (earlier ++ contents.toList)
        (server.step ⟨now, .fileSeen contents⟩) := by
  have looked := looked_reload heeding.digest contents
  obtain ⟨restedAfter, active⟩ := rested_endTurn (looked.idle rested.warming)
  have after := heeding.looked collisionFree known looked
  exact ⟨restedAfter, after.congr active (reading_endTurn _)⟩

/-! ## Runs -/

theorem heeding_run {file : ListenerFile} (started : bind file = .ok bound)
    (found : Option (List UInt8)) (collisionFree : CollisionFree texts)
    (chains : ∀ descriptor ∈ file.filterChains, descriptor.contentBytes ∈ texts) {turns : List Turn}
    (known : ∀ bytes ∈ found.toList ++ seen turns, Known texts bytes) :
    ((bound.withReload found).run turns).Rested ∧
      Heeding bound found texts (seen turns) ((bound.withReload found).run turns) := by
  induction turns using List.reverseRecOn with
  | nil => exact (heeding_bind started found collisionFree chains).2
  | append_singleton turns turn inductionHypothesis =>
      rw [seen_concat, ← List.append_assoc] at known
      obtain ⟨rested, heeding⟩ := inductionHypothesis fun bytes listed =>
        known bytes (List.mem_append_left _ listed)
      rw [run_concat, seen_concat]
      obtain ⟨now, event⟩ := turn
      by_cases look : ∃ contents, event = .fileSeen contents
      · obtain ⟨contents, rfl⟩ := look
        exact heeding.look rested collisionFree known now
      · have unread : ∀ contents, event ≠ .fileSeen contents :=
          fun contents same => look ⟨contents, same⟩
        have nothing : Turn.read? ⟨now, event⟩ = none := by
          unfold Turn.read?
          split
          · rename_i contents same
            exact absurd same (unread contents)
          · rfl
        rw [nothing, Option.toList_none, List.append_nil]
        exact heeding.unread rested unread

/-- The content is that of a file, and its filter chains are accepted. -/
def Takes (server : ServerState) (contents : Option (List UInt8)) (file : ListenerFile) : Prop :=
  ListenerFile.load contents = .ok file ∧ server.Accepts file.filterChains

/-- What a look at the file makes of a server that has read some contents since it was bound and found
its file. -/
structure Heeds (bound : ServerState) (found : Option (List UInt8)) (earlier : List (List UInt8))
    (contents : Option (List UInt8)) (before after : ServerState) : Prop where
  /-- The active chains are those that the server has from its file. -/
  serving : after.Serving
  /-- Those are the chains of the content, if it is taken. Only a content that was found as it is, and
  has been all that was read since, is passed over although others were bound. -/
  applied : ∀ file, before.Takes contents file →
    (AsFound found (earlier ++ contents.toList) → file.filterChains = bound.file.filterChains) →
      after.file.filterChains = file.filterChains
  kept : (AsFound found (earlier ++ contents.toList) ∨ ∀ file, ¬before.Takes contents file) →
    after.core.registry.active = before.core.registry.active ∧
      after.file.filterChains = before.file.filterChains
  /-- While nothing else was read, a server runs on what it was bound with. -/
  initial : AsFound found earlier →
    before.core.registry.active = bound.core.registry.active ∧
      before.file.filterChains = bound.file.filterChains
  /-- Nothing but the registry changes if the chains that run come in again. -/
  undisturbed : ∀ file, ListenerFile.load contents = .ok file →
    (∀ running ∈ before.file.filterChains, ∃ descriptor ∈ file.filterChains,
      descriptor.Alike running) → ∃ registry, after.core = { before.core with registry }

private theorem Heeding.chains_of_taken (heeding : Heeding bound found texts earlier server)
    (collisionFree : CollisionFree texts) {contents : Option (List UInt8)}
    (known : ∀ bytes ∈ (found.toList ++ earlier) ++ contents.toList, Known texts bytes)
    (looked : Looked server (lastDigest found earlier) contents after) {file : ListenerFile}
    (takes : server.Takes contents file)
    (meant : AsFound found (earlier ++ contents.toList) →
      file.filterChains = bound.file.filterChains) :
    after.file.filterChains = file.filterChains := by
  obtain ⟨loaded, accepts⟩ := takes
  cases looked with
  | absent => cases loaded
  | @again bytes same =>
      rcases again_cases collisionFree known same with asFound | ⟨looked, last⟩
      · exact (heeding.initial asFound.earlier).2.trans (meant asFound).symm
      · exact heeding.latest looked bytes last file loaded accepts
  | refused registry refuses _ _ => exact absurd accepts (refuses file loaded)
  | applied registry connections fresh spelled _ _ _ =>
      rw [Except.ok.inj (loaded.symm.trans spelled)]

private theorem Looked.kept {contents : Option (List UInt8)}
    (looked : Looked server (lastDigest found earlier) contents after)
    (passed : AsFound found (earlier ++ contents.toList) ∨ ∀ file, ¬server.Takes contents file) :
    after.core.registry.active = server.core.registry.active ∧
      after.file.filterChains = server.file.filterChains := by
  cases looked with
  | absent => exact ⟨rfl, rfl⟩
  | again => exact ⟨rfl, rfl⟩
  | refused registry _ active _ => exact ⟨active, rfl⟩
  | applied registry connections fresh loaded accepted _ _ =>
      rcases passed with asFound | untaken
      · exact absurd (lastDigest_of_asFound asFound).symm fresh
      · exact absurd ⟨loaded, accepts_iff_builds.mpr ⟨_, accepted⟩⟩ (untaken _)

private theorem Looked.undisturbed {last : String} {contents : Option (List UInt8)}
    (looked : Looked server last contents after) (serving : server.Serving) {file : ListenerFile}
    (loaded : ListenerFile.load contents = .ok file)
    (again : ∀ running ∈ server.file.filterChains, ∃ descriptor ∈ file.filterChains,
      descriptor.Alike running) : ∃ registry, after.core = { server.core with registry } := by
  cases looked with
  | absent => exact ⟨server.core.registry, rfl⟩
  | again => exact ⟨server.core.registry, rfl⟩
  | refused registry _ _ _ => exact ⟨registry, rfl⟩
  | applied registry connections fresh spelled accepted _ _ =>
      obtain rfl := Except.ok.inj (loaded.symm.trans spelled)
      obtain ⟨running, here, serves⟩ := serving
      have nothing := Registry.removed_eq_nil (fun old same => by
        rw [← Option.some.inj (here.symm.trans same)]
        exact serves) again accepted
      rw [nothing]
      exact ⟨registry, rfl⟩

private theorem clearParked_of_nil {core : ListenerState Unit} (none : core.parked = []) :
    core.clearParked.2 = core := by
  unfold ListenerState.clearParked
  rw [none]
  show { core with parked := [] } = core
  rw [← none]

/-- The end of a turn in which nothing was parked changes the registry only. -/
theorem core_endTurn_of_rested (rested : server.Rested) :
    ∃ registry, server.endTurn.core = { server.core with registry } :=
  ⟨_, (core_endTurn_of_idle rested.warming).trans (clearParked_of_nil rested.parked)⟩

/-- The texts of contents, and of the chains of a file and of those that the contents spell. -/
def digested (file : ListenerFile) (contents : List (List UInt8)) : Set (List UInt8) :=
  {text | text ∈ contents ∨ ∃ read : ListenerFile,
    (read = file ∨ ∃ bytes ∈ contents, ListenerFile.load (some bytes) = .ok read) ∧
      ∃ descriptor ∈ read.filterChains, descriptor.contentBytes = text}

/-- No reload is lost, where the digest has no collisions, but for the first: a server that watches its
file takes what it finds there for what it was bound with. After every other look it runs on the
chains of what it read, if these are accepted, and otherwise, as after a look at what it found, on
those of before. A look at the chains on which it runs closes nothing. -/
theorem reload_settles {file : ListenerFile} {bound : ServerState} (started : bind file = .ok bound)
    (found : Option (List UInt8)) (turns : List Turn) (now : Nat) (contents : Option (List UInt8))
    (collisionFree : CollisionFree
      (digested file ((found.toList ++ seen turns) ++ contents.toList))) :
    bound.file = file ∧
      Heeds bound found (seen turns) contents ((bound.withReload found).run turns)
        (((bound.withReload found).run turns).step ⟨now, .fileSeen contents⟩) := by
  have known : ∀ bytes ∈ (found.toList ++ seen turns) ++ contents.toList,
      Known (digested file ((found.toList ++ seen turns) ++ contents.toList)) bytes := by
    intro bytes listed
    exact ⟨.inl listed, fun read loaded descriptor chain =>
      .inr ⟨read, .inr ⟨bytes, listed, loaded⟩, descriptor, chain, rfl⟩⟩
  have chains : ∀ descriptor ∈ file.filterChains, descriptor.contentBytes ∈
      digested file ((found.toList ++ seen turns) ++ contents.toList) :=
    fun descriptor chain => .inr ⟨file, .inl rfl, descriptor, chain, rfl⟩
  obtain ⟨rested, heeding⟩ := heeding_run started found collisionFree chains
    fun bytes listed => known bytes (List.mem_append_left _ listed)
  generalize (bound.withReload found).run turns = before at rested heeding
  have looked := looked_reload heeding.digest contents
  have after := (heeding.look rested collisionFree known now).2
  obtain ⟨_, active⟩ := rested_endTurn (looked.idle rested.warming)
  obtain ⟨same, _⟩ := Prod.mk.inj (reading_endTurn (before.reload contents).2)
  have step : before.step ⟨now, .fileSeen contents⟩ = (before.reload contents).2.endTurn := rfl
  rw [step] at after ⊢
  refine ⟨(heeding_bind started found collisionFree chains).1, after.serving, ?_, ?_,
    heeding.initial, ?_⟩
  · intro read takes meant
    rw [same]
    exact heeding.chains_of_taken collisionFree known looked takes meant
  · intro passed
    rw [active, same]
    exact looked.kept passed
  · intro read loaded again
    obtain ⟨registry, core⟩ := looked.undisturbed heeding.serving loaded again
    have restedAfter : (before.reload contents).2.Rested := by
      refine ⟨looked.idle rested.warming, ?_⟩
      rw [core]
      exact rested.parked
    obtain ⟨later, ended⟩ := core_endTurn_of_rested restedAfter
    rw [core] at ended
    exact ⟨later, ended⟩

/-! ## Listener files -/

/-- The bytes of a listener file with some filter chains. -/
def fileWith (chains : List Value) : List UInt8 :=
  Text.encodeUtf8 (Value.object [("address", .string "127.0.0.1:0"),
    ("filter_chains", .array chains), ("name", .string "l")]).chars

/-- A file with one chain. -/
def echoFile : ListenerFile :=
  { ListenerFile.blank with name := "l", filterChains := [echoChain] }

/-- A byte that is no text. -/
def noText : List UInt8 := [0xff]

private theorem noText_unreadable : (ListenerFile.load (some noText)).isOk = false := by
  decide +kernel

private theorem digested_echoFile {bare : ListenerFile}
    (loaded : ListenerFile.load (some (fileWith [])) = .ok bare) (chainless : bare.filterChains = [])
    {text : List UInt8} (digested : text ∈ digested echoFile [fileWith [], noText, fileWith []]) :
    text ∈ [fileWith [], noText, echoChain.contentBytes] := by
  have either {bytes : List UInt8} (listed : bytes ∈ [fileWith [], noText, fileWith []]) :
      bytes = fileWith [] ∨ bytes = noText := by
    simp only [List.mem_cons, List.not_mem_nil, or_false] at listed
    tauto
  obtain listed | ⟨read, rfl | ⟨bytes, listed, spells⟩, descriptor, chain, rfl⟩ := digested
  · rcases either listed with rfl | rfl
    · exact List.mem_cons_self
    · exact List.mem_cons_of_mem _ List.mem_cons_self
  · rw [List.mem_singleton.mp chain]
    simp
  · rcases either listed with rfl | rfl
    · rw [Except.ok.inj (spells.symm.trans loaded), chainless] at chain
      cases chain
    · have unreadable := noText_unreadable
      rw [spells] at unreadable
      cases unreadable

/-- A content without chains was there when the server began to watch its file. It is applied
nevertheless, since bytes came between that spell no file. -/
theorem reload_settles_echoFile :
    ∃ bound, bind echoFile = .ok bound ∧
      CollisionFree (digested echoFile [fileWith [], noText, fileWith []]) ∧
      (∃ bare, ((bound.withReload (some (fileWith []))).run [⟨0, .fileSeen (some noText)⟩]).Takes
        (some (fileWith [])) bare) ∧
      (((bound.withReload (some (fileWith []))).run [⟨0, .fileSeen (some noText)⟩]).step
        ⟨1, .fileSeen (some (fileWith []))⟩).file.filterChains = [] := by
  have facts : (bind echoFile).toOption.any (fun bound =>
      (ListenerFile.load (some (fileWith []))).toOption.any fun bare =>
        bare.filterChains.isEmpty &&
        (((bound.withReload (some (fileWith []))).run
          [⟨0, .fileSeen (some noText)⟩]).core.applyChains bare.filterChains
            Builtin.builder).1.outcome.isOk) = true := by
    decide +kernel
  rw [Option.any_eq_true] at facts
  obtain ⟨bound, bindsTo, facts⟩ := facts
  rw [Option.any_eq_true] at facts
  obtain ⟨bare, spelled, facts⟩ := facts
  obtain ⟨empty, accepted⟩ := Bool.and_eq_true_iff.mp facts
  have started := toOption_eq_some bindsTo
  have loaded := toOption_eq_some spelled
  have chainless : bare.filterChains = [] := List.isEmpty_iff.mp empty
  have collisionFree : CollisionFree (digested echoFile [fileWith [], noText, fileWith []]) := by
    have different : ([fileWith [], noText, echoChain.contentBytes].map
        Digest.sha256Hex).Nodup := by decide +kernel
    exact fun left leftText right rightText same => List.inj_on_of_nodup_map different
      (digested_echoFile loaded chainless leftText) (digested_echoFile loaded chainless rightText) same
  obtain ⟨_, heeds⟩ := reload_settles started (some (fileWith [])) [⟨0, .fileSeen (some noText)⟩] 1
    (some (fileWith [])) collisionFree
  have takes : ((bound.withReload (some (fileWith []))).run
      [⟨0, .fileSeen (some noText)⟩]).Takes (some (fileWith [])) bare :=
    ⟨loaded, exists_ok_of_isOk accepted⟩
  have between : ¬AsFound (some (fileWith [])) [noText, fileWith []] := by
    intro asFound
    have unreadable := noText_unreadable
    rw [← Option.some.inj (asFound noText List.mem_cons_self), loaded] at unreadable
    cases unreadable
  refine ⟨bound, started, collisionFree, ⟨bare, takes⟩, ?_⟩
  rw [← chainless]
  exact heeds.applied bare takes fun asFound => absurd asFound between

/-- A chain that writes back what it reads. Its filter is given a zero, of which it makes nothing. -/
def zeroChain (negative : Bool) : Value :=
  .object [("filters", .array [
    (⟨Builtin.echo, .number (.float (.zero negative))⟩ : FactoryConfig).toJson])]

/-- The server that is bound with the content of a listener file. -/
def opened (bytes : List UInt8) : Option ServerState :=
  (ListenerFile.load (some bytes)).toOption.bind fun file => (bind file).toOption

/-- Equality of lists of filter chains as data. -/
def sameChains : List FilterChainDescriptor → List FilterChainDescriptor → Bool
  | [], [] => true
  | x :: xs, y :: ys =>
      x.criteria == y.criteria && x.name == y.name && x.transportSocket.same y.transportSocket &&
        ListenerFile.sameFilters x.filters y.filters &&
        x.transportSocketConnectTimeout == y.transportSocketConnectTimeout && sameChains xs ys
  | _, _ => false

/-- A server is bound with one chain and finds a file without chains when it begins to watch: it takes
the file, and still runs on the chain after it has looked. And where a file differs in the sign of a
zero, by which it is the same as data, a look at it closes the connection on the chain. -/
theorem lost_reloads :
    ∃ bound, opened (fileWith [zeroChain false]) = some bound ∧
      (∃ bare, (bound.withReload (some (fileWith []))).Takes (some (fileWith [])) bare ∧
        bare.filterChains.length = 0 ∧
        ((bound.withReload (some (fileWith []))).step
          ⟨0, .fileSeen (some (fileWith []))⟩).core.registry.active.map (·.size) = some 1) ∧
      ∃ changed, ListenerFile.load (some (fileWith [zeroChain true])) = .ok changed ∧
        sameChains bound.file.filterChains changed.filterChains = true ∧
        ((bound.withReload none).step ⟨0, .accepted (caller 1)⟩).core.connections.map (·.state) =
          [.live] ∧
        ((bound.withReload none).run [⟨0, .accepted (caller 1)⟩,
          ⟨0, .fileSeen (some (fileWith [zeroChain true]))⟩]).core.connections.map (·.state) =
            [.closed] := by
  have facts : (opened (fileWith [zeroChain false])).any (fun bound =>
      ((ListenerFile.load (some (fileWith []))).toOption.any fun bare =>
        (bound.core.applyChains bare.filterChains Builtin.builder).1.outcome.isOk &&
        decide (bare.filterChains.length = 0) &&
        decide (((bound.withReload (some (fileWith []))).step
          ⟨0, .fileSeen (some (fileWith []))⟩).core.registry.active.map (·.size) = some 1)) &&
      (ListenerFile.load (some (fileWith [zeroChain true]))).toOption.any fun changed =>
        sameChains bound.file.filterChains changed.filterChains &&
        decide (((bound.withReload none).step ⟨0, .accepted (caller 1)⟩).core.connections.map
          (·.state) = [.live]) &&
        decide (((bound.withReload none).run [⟨0, .accepted (caller 1)⟩,
          ⟨0, .fileSeen (some (fileWith [zeroChain true]))⟩]).core.connections.map (·.state) =
            [.closed])) = true := by
    decide +kernel
  rw [Option.any_eq_true] at facts
  obtain ⟨bound, here, both⟩ := facts
  obtain ⟨passed, closed⟩ := Bool.and_eq_true_iff.mp both
  rw [Option.any_eq_true] at passed closed
  obtain ⟨bare, spelled, passed⟩ := passed
  obtain ⟨changed, loaded, closed⟩ := closed
  obtain ⟨passed, one⟩ := Bool.and_eq_true_iff.mp passed
  obtain ⟨accepted, none⟩ := Bool.and_eq_true_iff.mp passed
  obtain ⟨closed, ended⟩ := Bool.and_eq_true_iff.mp closed
  obtain ⟨same, live⟩ := Bool.and_eq_true_iff.mp closed
  refine ⟨bound, here, ⟨bare, ⟨toOption_eq_some spelled, exists_ok_of_isOk accepted⟩,
    of_decide_eq_true none, of_decide_eq_true one⟩, changed, toOption_eq_some loaded, same,
    of_decide_eq_true live, of_decide_eq_true ended⟩

end ServerState

end Admission.Server
