import Admission.Config.ListenerFile
import Admission.Listener.State

/-!
Contract: the event loop of a standalone server, which drives one listener.

The loop takes one event a turn: an accepted socket, bytes seen on a socket in listener filters,
the end of a connection, a deadline, or a look at the listener file. Each turn ends with the
dispatch of finished warm-ups and the dropping of parked objects.

Owns:
- `ServerState`: the listener, the file that it runs on, the watches on sockets in listener
  filters, and the handles of live connections by identity;
- binding, the turns of the loop, reloading, and shutting down.

Does not own: the byte streams. A socket carries the number of its stream, and the streams that
the server still holds are in `streams`; whoever runs the loop closes the others.
-/

namespace Admission.Server

open Admission.Chain Admission.Listener Admission.Config

/-- Why a server does not start. -/
inductive BindError where
  | badConfig (listener : String) (error : ConfigError)
  | badChains (listener : String) (error : ConfigError)
  deriving DecidableEq, Repr

/-- The messages of the fault and of its causes, outermost first. -/
def BindError.messages : BindError → List String
  | badConfig listener error =>
      "Invalid listener configuration" :: error.message listener :: error.causes
  | badChains listener error =>
      "Invalid filter chains" :: error.message listener :: error.causes

/-- A watch on a socket in listener filters, which goes off once the stream holds more than `seen`
bytes. -/
structure Watch where
  stream : StreamId
  seen : Nat
  deriving DecidableEq, Repr

/-- How many bytes a watch hands on at most: enough for a ClientHello and for one new byte. -/
def Watch.window (watch : Watch) : Nat := max Tls.defaultInspectorLimit (watch.seen + 1)

/-- What a look at the listener file came to. -/
inductive ReloadOutcome where
  /-- There is no file. -/
  | unreadable
  /-- The bytes are those of the last look. -/
  | unchanged
  | invalid
  /-- The filter chains were refused; `needsRestart` if the file also changes what cannot be
  reloaded. -/
  | rejected (needsRestart : Bool)
  | applied (needsRestart : Bool)
  deriving DecidableEq, Repr

/-- Whether the file changes what only a restart can change. -/
def ReloadOutcome.needsRestart : ReloadOutcome → Bool
  | rejected needsRestart => needsRestart
  | applied needsRestart => needsRestart
  | _ => false

structure ServerState where
  /-- The listener file; of a changed one only the filter chains are taken over. -/
  file : ListenerFile
  core : ListenerState Unit
  /-- The digest of the file as last looked at, if the file is watched. -/
  digest : Option String
  watches : Table SocketId Watch
  connections : Table Nat ConnectionHandle

/-- What happens to a server. -/
inductive LoopEvent where
  | accepted (socket : Socket)
  | peeked (id : SocketId) (data : List UInt8)
  /-- The stream of a watched socket ended before any byte. -/
  | peerClosed (id : SocketId)
  | reported (connection : Nat) (event : ConnectionEvent)
  | deadline
  /-- The listener file has these bytes, or does not exist. -/
  | fileSeen (contents : Option (List UInt8))

namespace ServerState

def bind (file : ListenerFile) : Except BindError ServerState :=
  match file.listenerConfig () with
  | .error error => .error (.badConfig file.name error)
  | .ok config =>
      let (report, core) :=
        (ListenerState.new config .tcp).applyChains file.filterChains Builtin.builder
      match report.outcome with
      | .error error => .error (.badChains file.name error)
      | .ok _ => .ok ⟨file, core, none, .empty, .empty⟩

/-- Watches the listener file. Its bytes as they are now count as applied. -/
def withReload (server : ServerState) (contents : Option (List UInt8)) : ServerState :=
  { server with digest := some ((contents.map ListenerFile.digest).getD "") }

/-! ## Events -/

def track (server : ServerState) : SocketOutcome → ServerState
  | .connected handle =>
      match server.core.record? handle with
      | some record =>
          { server with connections := server.connections.insert record.connection handle }
      | none => server
  | _ => server

/-- Lets go of the handles of connections that were drained. -/
def forgetClosed (server : ServerState) : ServerState :=
  let live := server.connections.entries.filter fun entry => (server.core.record? entry.2).isSome
  { server with connections := ⟨live⟩ }

/-- Takes a new socket in. A socket that stays in listener filters is watched from its first
byte. -/
def onAccept (server : ServerState) (socket : Socket) (now : Nat) : ServerState :=
  let (outcome, core) := server.core.accept socket now
  let server := { server with core }
  match outcome, socket.stream with
  | .pending id, some stream =>
      { server with watches := server.watches.insert id ⟨stream, 0⟩ }
  | outcome, _ => server.track outcome

/-- Hands the bytes of a watched socket to its listener filters. If they want more, the watch goes
on behind these bytes. -/
def onPeek (server : ServerState) (id : SocketId) (data : List UInt8) : ServerState :=
  let (outcome, core) := server.core.onSocketData id data
  let watch := server.watches.get? id
  let server := { server with core, watches := server.watches.erase id }
  match outcome, watch with
  | .pending id, some watch =>
      { server with watches := server.watches.insert id { watch with seen := data.length } }
  | .pending _, none => server
  | outcome, _ => server.track outcome

def onPeerClosed (server : ServerState) (id : SocketId) : ServerState :=
  { server with
    core := (server.core.continueSocket id false).2
    watches := server.watches.erase id }

/-- Lets sockets run out of time; they are not watched any more. -/
def onDeadline (server : ServerState) (now : Nat) : ServerState :=
  let (outcomes, core) := server.core.pollTimeouts now
  outcomes.foldl
    (fun server (id, outcome) => { server with watches := server.watches.erase id }.track outcome)
    { server with core }

/-- A connection reports something. Its end removes it, unless it is gone already. -/
def onReport (server : ServerState) (connection : Nat) (event : ConnectionEvent) : ServerState :=
  if event.isClose then
    match server.connections.get? connection with
    | some handle =>
        { server with
          core := server.core.onConnectionEvent handle event
          connections := server.connections.erase connection }
    | none => server
  else server

/-- Applies the filter chains of a changed listener file. -/
def applyFile (server : ServerState) (file : ListenerFile) : ReloadOutcome × ServerState :=
  let needsRestart := server.file.needsRestart file
  let (report, core) := server.core.applyChains file.filterChains Builtin.builder
  let applied := { server with
    core, file := { server.file with filterChains := file.filterChains } }
  match report.outcome with
  | .error _ => (.rejected needsRestart, { server with core })
  | .ok (.activated _) => (.applied needsRestart, applied.forgetClosed)
  | .ok (.warming _ _) => (.applied needsRestart, applied)

/-- Looks at the listener file. Bytes that were looked at before change nothing; what else they
come to, they count as looked at from now on. -/
def reload (server : ServerState) (contents : Option (List UInt8)) :
    ReloadOutcome × ServerState :=
  match server.digest, contents with
  | none, _ => (.unchanged, server)
  | some _, none => (.unreadable, server)
  | some last, some bytes =>
      let digest := ListenerFile.digest bytes
      if digest = last then (.unchanged, server)
      else
        let server := { server with digest := some digest }
        match ListenerFile.load (some bytes) with
        | .error _ => (.invalid, server)
        | .ok file => server.applyFile file

/-! ## Turns -/

/-- What every turn ends with: warm-ups are dispatched and parked objects dropped. -/
def endTurn (server : ServerState) : ServerState :=
  let (activations, core) := server.core.dispatchWarmed
  let server := { server with core }
  let server := if activations.isEmpty then server else server.forgetClosed
  { server with core := server.core.clearParked.2 }

/-- What an event does before the end of its turn. -/
def handle (server : ServerState) (now : Nat) : LoopEvent → ServerState
  | .accepted socket => server.onAccept socket now
  | .peeked id data => server.onPeek id data
  | .peerClosed id => server.onPeerClosed id
  | .reported connection event => server.onReport connection event
  | .deadline => server.onDeadline now
  | .fileSeen contents => (server.reload contents).2

def turn (server : ServerState) (now : Nat) (event : LoopEvent) : ServerState :=
  (server.handle now event).endTurn

/-- Closes every socket and every connection. -/
def shutdown (server : ServerState) : ServerState :=
  { server with core := server.core.shutdown.clearParked.2, watches := .empty }

/-! ## Reading -/

/-- The streams that the server holds, in sockets and in connections. -/
def streams (server : ServerState) : List StreamId :=
  server.core.pending.values.filterMap (·.socket.stream) ++
    server.core.connections.filterMap fun connection =>
      connection.stream.or (connection.session.map (·.stream))

/-- The sessions of the live connections, each with the identity of its connection. -/
def sessions (server : ServerState) : List (Nat × Session) :=
  server.core.connections.filterMap fun connection =>
    connection.session.map (connection.id, ·)

def debug (server : ServerState) : String :=
  "Server \x7b listener: " ++ Text.quoted server.file.name ++ ", core: " ++ server.core.debug ++
    s!", peeks: {server.watches.size}, connections: {server.connections.size} \x7d"

end ServerState

end Admission.Server
