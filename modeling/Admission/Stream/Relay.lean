import Admission.Stream.Flow

/-!
Contract: relaying between a client and a backend.

A relay is two flows, one in each direction. They share nothing: each has its own buffer, its own
idle timeout and its own end, and the end of one finishes only the pipe that it writes to. The
relay is over when both flows are.

Owns: `Relay`, the four pipes that it works on, and its turns.
-/

namespace Admission.Stream

/-- The two peers of a relay. -/
inductive Peer where
  | client
  | backend
  deriving DecidableEq, Repr

/-- The pipes of the two peers, as the relay sees them. -/
structure PeerPipes where
  fromClient : Pipe
  toClient : Pipe
  fromBackend : Pipe
  toBackend : Pipe
  deriving DecidableEq, Repr

/-- Copying in both directions between two peers. -/
structure Relay where
  toBackend : Flow
  /-- What the backend sends. -/
  toClient : Flow
  deriving DecidableEq, Repr

namespace Relay

def start (bufferSize : Nat) (idleTimeout : Option Nat) (now : Nat) : Relay :=
  ⟨.start bufferSize idleTimeout now, .start bufferSize idleTimeout now⟩

/-- Whether both directions have ended. -/
def isOver (relay : Relay) : Bool := !relay.toBackend.isCopying && !relay.toClient.isCopying

/-- One read of what a peer sent, and the writing of it to the other peer. Nothing if there is
nothing to do. -/
def step? (relay : Relay) (now : Nat) (pipes : PeerPipes) : Peer → Option (Relay × PeerPipes)
  | .client =>
      (relay.toBackend.step? now pipes.fromClient pipes.toBackend).map fun (flow, source, sink) =>
        ({ relay with toBackend := flow },
          { pipes with fromClient := source, toBackend := sink })
  | .backend =>
      (relay.toClient.step? now pipes.fromBackend pipes.toClient).map fun (flow, source, sink) =>
        ({ relay with toClient := flow },
          { pipes with fromBackend := source, toClient := sink })

/-- Copies in both directions as far as it goes without waiting. -/
def run (relay : Relay) (now : Nat) (pipes : PeerPipes) : Relay × PeerPipes :=
  let (toBackend, fromClient, toBackendPipe) :=
    relay.toBackend.run now pipes.fromClient pipes.toBackend
  let (toClient, fromBackend, toClientPipe) :=
    relay.toClient.run now pipes.fromBackend pipes.toClient
  (⟨toBackend, toClient⟩, ⟨fromClient, toClientPipe, fromBackend, toBackendPipe⟩)

/-- The earliest time at which a waiting read gives up. -/
def deadline (relay : Relay) : Option Nat :=
  [relay.toBackend, relay.toClient].filterMap (·.deadline) |>.min?

def totals (relay : Relay) : Nat × Nat := (relay.toBackend.total, relay.toClient.total)

end Relay

end Admission.Stream
