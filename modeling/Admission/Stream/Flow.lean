import Admission.Stream.Pipe

/-!
Contract: copying from one pipe to another until the first one ends.

A flow reads into a buffer and writes what it read. At the end of its source it finishes its sink.
A read that waits for longer than the idle timeout ends the flow without finishing the sink, and
so does a write that fails.

Owns: `Flow` and its single steps; times are in milliseconds.
-/

namespace Admission.Stream

/-- How far a flow has come. -/
inductive FlowState where
  | copying
  /-- The source ended, and the sink was finished. -/
  | finished
  /-- Nothing came from the source for the idle timeout. -/
  | idle
  /-- The sink could not be written to. -/
  | failed
  deriving DecidableEq, Repr

/-- The copying in one direction. -/
structure Flow where
  bufferSize : Nat
  idleTimeout : Option Nat
  /-- When the read that is waiting gives up. -/
  deadline : Option Nat
  state : FlowState
  /-- The number of bytes written. -/
  count : Nat
  deriving DecidableEq, Repr

namespace Flow

/-- A flow that begins to read. -/
def start (bufferSize : Nat) (idleTimeout : Option Nat) (now : Nat) : Flow where
  bufferSize
  idleTimeout
  deadline := idleTimeout.map (now + ·)
  state := .copying
  count := 0

/-- Whether the flow still copies. -/
def isCopying (flow : Flow) : Bool := flow.state = .copying

def stop (flow : Flow) (state : FlowState) : Flow := { flow with state, deadline := none }

/-- What is left after one read: the flow, its source and its sink. Nothing if the flow is over or
has to wait. A read that succeeds at the deadline counts. -/
def step? (flow : Flow) (now : Nat) (source sink : Pipe) : Option (Flow × Pipe × Pipe) :=
  if flow.isCopying then
    match source.read? flow.bufferSize with
    | some ([], source) => some (flow.stop .finished, source, sink.finish)
    | some (bytes, source) =>
        match sink.write? bytes with
        | none => some (flow.stop .failed, source, sink)
        | some sink =>
            some ({ flow with
              count := flow.count + bytes.length
              deadline := flow.idleTimeout.map (now + ·) }, source, sink)
    | none =>
        if flow.deadline.any (· ≤ now) then some (flow.stop .idle, source, sink) else none
  else none

/-- Takes as many steps as there are, and at most `limit`. -/
def steps (now : Nat) : (limit : Nat) → Flow → Pipe → Pipe → Flow × Pipe × Pipe
  | 0, flow, source, sink => (flow, source, sink)
  | limit + 1, flow, source, sink =>
      match flow.step? now source sink with
      | none => (flow, source, sink)
      | some (flow, source, sink) => steps now limit flow source sink

/-- Takes steps until the flow is over or has to wait. Each step reads at least a byte, if it is
not the last one. -/
def run (flow : Flow) (now : Nat) (source sink : Pipe) : Flow × Pipe × Pipe :=
  steps now (source.unread.length + 1) flow source sink

/-- The number of bytes copied, as a flow reports it at its end: none if it did not reach the end
of its source. -/
def total (flow : Flow) : Nat := if flow.state = .finished then flow.count else 0

end Flow

end Admission.Stream
