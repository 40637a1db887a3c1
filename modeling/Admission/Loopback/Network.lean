import Admission.Loopback.Backend
import Admission.Server.State
import Admission.Stream.Relay

/-!
Contract: an in-process network with one running server, clients and backends.

All parties are on 127.0.0.1 and connected by ordered byte streams. Nothing happens by itself:
`rest` lets everything happen that needs no waiting, and `await` lets time pass from deadline to
deadline until something is the case. So every run has one outcome.

Owns:
- `Network` and what clients do in it;
- the sessions of the server's connections: echoing, or relaying to a backend;
- the closing of streams that the server lets go of, and the reports that a session sends to the
  event loop when it ends.
-/

namespace Admission.Loopback

open Admission.Net Admission.Chain Admission.Listener Admission.Stream Admission.Server

/-- The work of a session. -/
inductive Task where
  | echo (flow : Flow)
  | proxy (farStream : StreamId) (relay : Relay)
  /-- The session has ended. -/
  | over
  deriving DecidableEq, Repr

structure Serving where
  connection : Nat
  stream : StreamId
  task : Task
  deriving DecidableEq, Repr

structure Network where
  server : ServerState
  /-- The server has not been shut down. -/
  isRunning : Bool
  /-- In milliseconds. -/
  clock : Nat
  /-- Every connection made so far, by the number of its stream. -/
  channels : List Channel
  /-- Connections of clients that the server has not accepted, oldest first. -/
  arrivals : List StreamId
  /-- The streams that the server accepted and did not close. -/
  held : List StreamId
  sessions : List Serving
  backends : List Backend

namespace Network

/-- The address of every party. -/
def host : BitVec 32 := 0x7F000001#32

def freePort : UInt16 := 40000

def backendPort (number : Nat) : UInt16 := UInt16.ofNat (41000 + number)

/-- The port of a client, by the number of its stream. -/
def clientPort (stream : StreamId) : UInt16 := UInt16.ofNat (50000 + stream.value % 15000)

def echoBuffer : Nat := 8192

def start (server : ServerState) (backends : List BackendScript) : Network where
  server
  isRunning := true
  clock := 0
  channels := []
  arrivals := []
  held := []
  sessions := []
  backends := backends.zipIdx.map fun (script, number) => ⟨script, backendPort number, []⟩

def backendAddress (number : Nat) : SocketAddress := .v4 host (backendPort number)

/-! ## Streams -/

def channel (network : Network) (stream : StreamId) : Channel :=
  (network.channels[stream.value]?).getD .fresh

def withChannel (network : Network) (stream : StreamId) (change : Channel → Channel) : Network :=
  { network with channels := network.channels.modify stream.value change }

def addChannel (network : Network) (channel : Channel) : StreamId × Network :=
  (⟨network.channels.length⟩, { network with channels := network.channels ++ [channel] })

/-! ## The server's end -/

def serverPort (network : Network) : UInt16 :=
  let port := network.server.file.address.port
  if port = 0 then freePort else port

def socketOf (network : Network) (stream : StreamId) : Socket :=
  { Socket.between (.ip (.v4 host network.serverPort)) (.ip (.v4 host (clientPort stream))) with
    stream := some stream }

/-- Connects the server to a backend. Nothing if nobody listens on the address. -/
def connectBackend (network : Network) (address : SocketAddress) : Option (StreamId × Network) :=
  let listens (backend : Backend) : Bool := address = .v4 host backend.port
  (network.backends.find? listens).map fun backend =>
    let stream : StreamId := ⟨network.channels.length⟩
    let (connection, channel) := backend.script.accept stream
    let greet (backend : Backend) : Backend :=
      if listens backend then { backend with connections := backend.connections ++ [connection] }
      else backend
    (stream, { network with
      channels := network.channels ++ [channel]
      backends := network.backends.map greet })

def closeSession (network : Network) (serving : Serving) : Network :=
  let closed := network.withChannel serving.stream Channel.closeByAcceptor
  match serving.task with
  | .proxy farStream _ => closed.withChannel farStream Channel.closeByConnector
  | _ => closed

/-- Closes what the server let go of: sockets and connections, and the streams of sessions. -/
def closeReleased (network : Network) : Network :=
  let streams := network.server.streams
  let live := network.server.sessions.map (·.1)
  let (held, released) := network.held.partition (· ∈ streams)
  let (sessions, ended) := network.sessions.partition (·.connection ∈ live)
  let closed := released.foldl
    (fun network stream => network.withChannel stream Channel.closeByAcceptor) network
  { ended.foldl closeSession closed with held, sessions }

def setTask (network : Network) (connection : Nat) (task : Task) : Network :=
  let change (serving : Serving) : Serving :=
    if serving.connection = connection then { serving with task } else serving
  { network with sessions := network.sessions.map change }

/-- Runs a turn of the server's loop and closes what it let go of. -/
def turn (network : Network) (event : LoopEvent) : Network :=
  { network with server := network.server.turn network.clock event }.closeReleased

/-- A session ends: its streams are closed and the loop is told. -/
def endSession (network : Network) (serving : Serving) (event : ConnectionEvent) : Network :=
  ((network.closeSession serving).setTask serving.connection .over).turn
    (.reported serving.connection event)

/-! ## What happens without waiting -/

def acceptNext (network : Network) : Option Network :=
  match network.arrivals with
  | stream :: arrivals =>
      some ({ network with arrivals, held := network.held ++ [stream] }.turn
        (.accepted (network.socketOf stream)))
  | [] => none

def watchEvent (network : Network) (entry : SocketId × Watch) : Option LoopEvent :=
  let (id, watch) := entry
  ((network.channel watch.stream).forward.peek? watch.window).bind fun data =>
    if data.isEmpty then some (.peerClosed id)
    else if watch.seen < data.length then some (.peeked id data)
    else none

/-- The first watch that goes off. -/
def peekNext (network : Network) : Option Network :=
  (network.server.watches.entries.findSome? network.watchEvent).map network.turn

/-- Sockets run out of time in listener filters. -/
def expireNext (network : Network) : Option Network :=
  if network.server.core.nextTimeout.any (· ≤ network.clock) then some (network.turn .deadline)
  else none

def startNext (network : Network) : Option Network :=
  let known := network.sessions.map (·.connection)
  (network.server.sessions.find? (·.1 ∉ known)).map fun (connection, session) =>
    let begin (network : Network) (task : Task) : Network :=
      { network with sessions := network.sessions ++ [⟨connection, session.stream, task⟩] }
    match session.role with
    | .echo => begin network (.echo (.start echoBuffer none network.clock))
    | .passive =>
        (begin network .over).endSession ⟨connection, session.stream, .over⟩ .remoteClose
    | .proxy settings =>
        match network.connectBackend settings.backend with
        | some (farStream, network) =>
            let relay := Relay.start session.bufferSize settings.idleTimeout network.clock
            begin network (.proxy farStream relay)
        | none =>
            (begin network .over).endSession ⟨connection, session.stream, .over⟩ .localClose

/-- Echoes what a session can read. -/
def echoStep (network : Network) (serving : Serving) (flow : Flow) : Option Network :=
  let channel := network.channel serving.stream
  (flow.step? network.clock channel.forward channel.backward).map fun _ =>
    let (flow, source, sink) := flow.run network.clock channel.forward channel.backward
    let network := (network.withChannel serving.stream fun _ => ⟨source, sink⟩).setTask
      serving.connection (.echo flow)
    match flow.state with
    | .copying => network
    | .finished => network.endSession serving .remoteClose
    | _ => network.endSession serving .localClose

/-- Relays what the two peers of a session sent. -/
def proxyStep (network : Network) (serving : Serving) (farStream : StreamId) (relay : Relay) :
    Option Network :=
  let client := network.channel serving.stream
  let far := network.channel farStream
  let pipes : PeerPipes :=
    ⟨client.forward, client.backward, far.backward, far.forward⟩
  let ready := [Peer.client, Peer.backend].any fun peer =>
    (relay.step? network.clock pipes peer).isSome
  if ready then
    let (relay, pipes) := relay.run network.clock pipes
    let moved :=
      (network.withChannel serving.stream fun _ => ⟨pipes.fromClient, pipes.toClient⟩).withChannel
        farStream fun _ => ⟨pipes.toBackend, pipes.fromBackend⟩
    let network := moved.setTask serving.connection (.proxy farStream relay)
    if relay.isOver then some (network.endSession { serving with task := .proxy farStream relay }
      .remoteClose)
    else some network
  else none

/-- Moves the bytes of the first session that can go on. -/
def serveNext (network : Network) : Option Network :=
  network.sessions.findSome? fun serving =>
    match serving.task with
    | .echo flow => network.echoStep serving flow
    | .proxy farStream relay => network.proxyStep serving farStream relay
    | .over => none

/-- Lets a backend act on a connection, if it can. -/
def backendStep (network : Network) (backend : Backend) (connection : BackendConnection) :
    Option Network :=
  let channel := network.channel connection.stream
  (backend.script.step? connection channel).map fun (after, channel) =>
    let replace (backend : Backend) : Backend :=
      { backend with connections := backend.connections.map fun other =>
          if other.stream = connection.stream then after else other }
    { network.withChannel connection.stream fun _ => channel with
      backends := network.backends.map replace }

/-- Lets the first backend act that can. -/
def answerNext (network : Network) : Option Network :=
  network.backends.findSome? fun backend =>
    backend.connections.findSome? fun connection => network.backendStep backend connection

/-- Something that happens without waiting. -/
def step? (network : Network) : Option Network :=
  let ofServer :=
    if network.isRunning then
      network.acceptNext <|> network.peekNext <|> network.expireNext <|> network.startNext <|>
        network.serveNext
    else none
  ofServer <|> network.answerNext

/-- A number of steps that no run to rest exceeds. A connection takes a few steps to come and to
go, a byte is looked at once and moved at most four times, and an expired socket passes one
listener filter a step. -/
def budget (network : Network) : Nat :=
  let bytes := network.channels.foldl (fun bytes channel =>
    bytes + channel.forward.unread.length + channel.backward.unread.length) 0
  16 * (1 + network.channels.length + network.arrivals.length + bytes +
    network.server.file.listenerFilters.length)

/-- Takes steps as long as there are any, and at most `limit`. -/
def steps : (limit : Nat) → Network → Network
  | 0, network => network
  | limit + 1, network =>
      match network.step? with
      | some next => steps limit next
      | none => network

/-- Lets everything happen that needs no waiting. -/
def rest (network : Network) : Network := steps network.budget network

/-! ## Time -/

def sessionDeadlines (network : Network) : List Nat :=
  network.sessions.filterMap fun serving =>
    match serving.task with
    | .proxy _ relay => relay.deadline
    | _ => none

/-- The next time at which something happens by itself. -/
def nextDeadline (network : Network) : Option Nat :=
  (network.server.core.nextTimeout.toList ++ network.sessionDeadlines).min?

/-- Lets time pass from deadline to deadline until something is the case, or there is no deadline,
or so many have passed. -/
def awaitFor (done : Network → Bool) : (limit : Nat) → Network → Network
  | 0, network => network.rest
  | limit + 1, network =>
      let rested := network.rest
      if done rested then rested
      else match rested.nextDeadline with
        | none => rested
        | some time => awaitFor done limit { rested with clock := max rested.clock time }

/-- Lets time pass until something is the case. Every socket and both directions of every session
have a deadline at most, and each of them passes once. -/
def await (network : Network) (done : Network → Bool) : Network :=
  network.awaitFor done (4 * (1 + network.channels.length + network.arrivals.length))

/-! ## Clients -/

/-- A client connects to the server. -/
def connect (network : Network) : StreamId × Network :=
  let (stream, network) := network.addChannel .fresh
  (stream, { network with arrivals := network.arrivals ++ [stream] })

/-- A client sends bytes, and sees whether the server can still get them. -/
def send (network : Network) (stream : StreamId) (bytes : List UInt8) : Bool × Network :=
  match (network.channel stream).forward.write? bytes with
  | some forward => (true, network.withChannel stream ({ · with forward }))
  | none => (false, network)

/-- A client closes its sending side. -/
def finish (network : Network) (stream : StreamId) : Network :=
  network.withChannel stream fun channel => { channel with forward := channel.forward.finish }

/-- A client closes its end. -/
def drop (network : Network) (stream : StreamId) : Network :=
  network.withChannel stream Channel.closeByConnector

inductive ReadEnd where
  /-- As many bytes came as were asked for. -/
  | full
  | closed
  deriving DecidableEq, Repr

/-- A client reads a number of bytes, or to the end of the stream. -/
def read (network : Network) (stream : StreamId) (limit : Option Nat) :
    (List UInt8 × ReadEnd) × Network :=
  let enough (pipe : Pipe) : Bool := limit.any (· ≤ pipe.unread.length)
  let network := network.await fun network =>
    let pipe := (network.channel stream).backward
    enough pipe || pipe.isFinished
  let pipe := (network.channel stream).backward
  let isFull := enough pipe
  let size := if isFull then limit.getD 0 else pipe.unread.length
  let rest := { pipe with front := pipe.unread.drop size, back := [] }
  ((pipe.unread.take size, if isFull then .full else .closed),
    network.withChannel stream ({ · with backward := rest }))

/-- The listener file is replaced or removed, and the server looks at it. -/
def reload (network : Network) (contents : Option (List UInt8)) : ReloadOutcome × Network :=
  let rested := network.rest
  let (outcome, server) := rested.server.reload contents
  (outcome, { rested with server := server.endTurn }.closeReleased.rest)

/-- The server is shut down once everything has come to rest. -/
def shutdown (network : Network) : Network :=
  let rested := network.rest
  { rested with server := rested.server.shutdown, isRunning := false }.closeReleased.rest

end Network

end Admission.Loopback
