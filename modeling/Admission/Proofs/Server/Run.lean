import Admission.Proofs.Listener.Identity
import Admission.Server.State

/-!
Contract: runs of a server.

A turn does operations to the listener and keeps the two tables of the server beside them. What is
known of every listener that operations lead to is thus known of the listener of a server.

Owns:
- `Turn` and `ServerState.run`, the state after turns of the loop in whatever order, with `collect`,
  what they bring about;
- `Begins`, a server before its first turn, which `begins_of_bind` gives;
- what each part of a turn does to the listener, and `reachable_run`.
-/

namespace Admission.Server

open Admission.Chain Admission.Listener Admission.Config

/-- An event, and when it happens. -/
structure Turn where
  now : Nat
  event : LoopEvent

namespace ServerState

def step (server : ServerState) (turn : Turn) : ServerState :=
  server.turn turn.now turn.event

/-- The server after turns of its loop. -/
def run (server : ServerState) (turns : List Turn) : ServerState :=
  turns.foldl step server

theorem run_concat (server : ServerState) (turns : List Turn) (turn : Turn) :
    server.run (turns ++ [turn]) = (server.run turns).step turn :=
  List.foldl_append

/-- What the turns of a run bring about, one after another. -/
def collect {α : Type} (produce : ServerState → Turn → List α) (server : ServerState) :
    List Turn → List α
  | [] => []
  | turn :: rest => produce server turn ++ (server.step turn).collect produce rest

theorem collect_concat {α : Type} (produce : ServerState → Turn → List α) (server : ServerState)
    (turns : List Turn) (turn : Turn) :
    server.collect produce (turns ++ [turn]) =
      server.collect produce turns ++ produce (server.run turns) turn := by
  induction turns generalizing server with
  | nil => exact List.append_nil _
  | cons first rest inductionHypothesis =>
      rw [List.cons_append]
      unfold collect
      rw [inductionHypothesis, List.append_assoc]
      rfl

/-! ## Beginnings -/

/-- A server before its first turn: filter chains were applied to a new listener, whatever its
filters, and both tables are empty. -/
structure Begins (server : ServerState) : Prop where
  applied : ∃ (config : ListenerConfig Unit) (descriptors : List FilterChainDescriptor),
    server.core = ((ListenerState.new config .tcp).applyChains descriptors Builtin.builder).2
  watches : server.watches = .empty
  connections : server.connections = .empty

theorem begins_of_bind {file : ListenerFile} {server : ServerState}
    (bound : bind file = .ok server) : server.Begins := by
  unfold bind at bound
  split at bound
  · cases bound
  · rename_i config configured
    dsimp only at bound
    split at bound
    · cases bound
    · cases bound
      exact ⟨⟨config, file.filterChains, rfl⟩, rfl, rfl⟩

/-- Settings by which a socket that runs out of time goes on. -/
def lenient (filters : List (ListenerFilter Unit)) : ListenerConfig Unit :=
  { (ListenerConfig.new "listener" (.internal "here") : ListenerConfig Unit) with
    continueOnTimeout := true
    filters }

/-- A chain for every socket, which writes back what it reads. -/
def echoChain : FilterChainDescriptor :=
  { FilterChainDescriptor.blank with filters := [.named Builtin.echo] }

/-- A server with that chain. -/
def echoing (filters : List (ListenerFilter Unit)) : ServerState where
  file := ListenerFile.blank
  core := ((ListenerState.new (lenient filters) .tcp).applyChains [echoChain] Builtin.builder).2
  digest := none
  watches := .empty
  connections := .empty

theorem begins_echoing (filters : List (ListenerFilter Unit)) : (echoing filters).Begins where
  applied := ⟨lenient filters, [echoChain], by dsimp only [echoing]⟩
  watches := by dsimp only [echoing]
  connections := by dsimp only [echoing]

/-- A socket with a stream. -/
def caller (stream : Nat) : Socket :=
  { Socket.between (.internal "here") (.internal "there") with stream := some ⟨stream⟩ }

/-- A server that watches its file begins like one that does not. -/
theorem Begins.withReload {server : ServerState} (begins : server.Begins)
    (contents : Option (List UInt8)) : (server.withReload contents).Begins :=
  ⟨begins.applied, begins.watches, begins.connections⟩

private theorem Begins.reachable {server : ServerState} (begins : server.Begins) :
    server.core.Reachable := by
  obtain ⟨config, descriptors, applied⟩ := begins.applied
  rw [applied]
  exact ⟨config, .tcp, [.apply descriptors Builtin.builder], rfl⟩

/-- Nothing goes on in the listener of a server that begins. -/
theorem Begins.quiet {server : ServerState} (begins : server.Begins) :
    server.core.pending = .empty ∧ server.core.records = [] := by
  obtain ⟨config, descriptors, applied⟩ := begins.applied
  have housed := ListenerState.housed_ran config .tcp []
  have shelved : ListenerState.Shelved (ListenerState.ran config .tcp [])
      ((ListenerState.ran config .tcp []).step (.apply descriptors Builtin.builder)) :=
    housed.tracking.shelved_step housed.distinct rfl
  rw [applied]
  constructor
  · exact congrArg (·.pending) shelved.frame
  · exact List.eq_nil_of_subset_nil shelved.records_subset

/-! ## Parts of a turn -/

section Parts

variable (server : ServerState)

/-- A look at the file that comes to nothing, or one that applies the file. -/
theorem reload_cases (contents : Option (List UInt8)) :
    ∃ digest, (server.reload contents).2 = { server with digest := digest } ∨
      ∃ file, (server.reload contents).2 = ({ server with digest := digest }.applyFile file).2 := by
  unfold reload
  split
  · exact ⟨server.digest, .inl rfl⟩
  · exact ⟨server.digest, .inl rfl⟩
  · rename_i last bytes
    dsimp only
    split
    · exact ⟨server.digest, .inl rfl⟩
    · split
      · exact ⟨_, .inl rfl⟩
      · rename_i file loaded
        exact ⟨_, .inr ⟨file, rfl⟩⟩

theorem core_applyFile (file : ListenerFile) :
    (server.applyFile file).2.core =
      server.core.step (.apply file.filterChains Builtin.builder) := by
  unfold applyFile
  dsimp only
  split <;> rfl

theorem watches_applyFile (file : ListenerFile) :
    (server.applyFile file).2.watches = server.watches := by
  unfold applyFile
  dsimp only
  split <;> rfl

section Track

variable (outcome : SocketOutcome)

theorem core_track : (server.track outcome).core = server.core := by
  unfold track
  split
  · split <;> rfl
  · rfl

theorem watches_track : (server.track outcome).watches = server.watches := by
  unfold track
  split
  · split <;> rfl
  · rfl

end Track

theorem core_onAccept (socket : Socket) (now : Nat) :
    (server.onAccept socket now).core = server.core.step (.accept socket now) := by
  unfold onAccept
  dsimp only
  split
  · rfl
  · exact core_track _ _

theorem core_onPeek (id : SocketId) (data : List UInt8) :
    (server.onPeek id data).core = server.core.step (.data id data) := by
  unfold onPeek
  dsimp only
  split
  · rfl
  · rfl
  · exact core_track _ _

/-- One socket that has run out of time is let go of, and tracked if it was connected. -/
def expire (server : ServerState) (result : SocketId × SocketOutcome) : ServerState :=
  { server with watches := server.watches.erase result.1 }.track result.2

theorem onDeadline_eq (now : Nat) :
    server.onDeadline now =
      (server.core.pollTimeouts now).1.foldl expire
        { server with core := (server.core.pollTimeouts now).2 } := rfl

private theorem core_expires (results : List (SocketId × SocketOutcome)) :
    (results.foldl expire server).core = server.core := by
  induction results generalizing server with
  | nil => rfl
  | cons result rest inductionHypothesis =>
      rw [List.foldl_cons, inductionHypothesis]
      exact core_track _ _

theorem core_onDeadline (now : Nat) :
    (server.onDeadline now).core = server.core.step (.poll now) := by
  rw [onDeadline_eq, core_expires]
  rfl

/-- The end of a connection that the server knows goes to the listener; of others it does not hear. -/
theorem onReport_cases (connection : Nat) (event : ConnectionEvent) :
    server.onReport connection event = server ∨
      ∃ handle, server.connections.get? connection = some handle ∧
        server.onReport connection event = { server with
          core := server.core.step (.remove handle)
          connections := server.connections.erase connection } := by
  unfold onReport
  split
  · rename_i closes
    split
    · rename_i handle found
      refine .inr ⟨handle, found, ?_⟩
      unfold ListenerState.onConnectionEvent
      rw [if_pos closes]
      rfl
    · exact .inl rfl
  · exact .inl rfl

theorem core_endTurn : server.endTurn.core = (server.core.step .dispatch).step .clear := by
  unfold endTurn
  dsimp only
  split <;> rfl

theorem watches_endTurn : server.endTurn.watches = server.watches := by
  unfold endTurn
  dsimp only
  split <;> rfl

end Parts

/-! ## Runs -/

variable {server : ServerState}

theorem reachable_handle (reachable : server.core.Reachable) (now : Nat) (event : LoopEvent) :
    (server.handle now event).core.Reachable := by
  cases event with
  | accepted socket =>
      rw [handle, core_onAccept]
      exact reachable.step _
  | peeked id data =>
      rw [handle, core_onPeek]
      exact reachable.step _
  | peerClosed id => exact reachable.step (.resume id false)
  | reported connection event =>
      rw [handle]
      rcases server.onReport_cases connection event with same | ⟨ended, _, reported⟩
      · rw [same]
        exact reachable
      · rw [reported]
        exact reachable.step (.remove ended)
  | deadline =>
      rw [handle, core_onDeadline]
      exact reachable.step _
  | fileSeen contents =>
      rw [handle]
      obtain ⟨digest, same | ⟨file, applied⟩⟩ := server.reload_cases contents
      · rw [same]
        exact reachable
      · rw [applied, core_applyFile]
        exact reachable.step _

theorem reachable_step (reachable : server.core.Reachable) (turn : Turn) :
    (server.step turn).core.Reachable := by
  unfold step ServerState.turn
  rw [core_endTurn]
  exact ((reachable_handle reachable turn.now turn.event).step _).step _

theorem reachable_run (begins : server.Begins) (turns : List Turn) :
    (server.run turns).core.Reachable := by
  induction turns using List.reverseRecOn with
  | nil => exact begins.reachable
  | append_singleton turns turn inductionHypothesis =>
      rw [run_concat]
      exact reachable_step inductionHypothesis turn

end ServerState

end Admission.Server
