import Admission.Listener.Socket
import Admission.Text.Quoted

/-!
Contract: listener filters, which look at an accepted socket before a filter chain is selected,
and the pipeline that runs them.

A filter that needs more bytes holds the pipeline, which remembers its position and goes on later
with data, an explicit continuation or a timeout. A filter may keep private memory of any type;
it changes a socket only through its findings.

Owns: `ListenerFilter`, `Pipeline` and its steps.
-/

namespace Admission.Listener

/-- Whether the pipeline goes on after a filter. -/
inductive FilterStatus where
  | proceed
  /-- Wait for something to happen to the socket. -/
  | hold
  deriving DecidableEq, Repr

/-- What a filter answers to a call. -/
structure FilterReply (σ : Type) where
  memory : σ
  findings : Findings
  status : FilterStatus

structure ListenerFilter (σ : Type) where
  name : String
  memory : σ
  onAccept : σ → Socket → FilterReply σ
  /-- Called with all bytes readable so far while the filter holds the pipeline. -/
  onData : σ → Socket → List UInt8 → FilterReply σ

inductive PipelineState where
  | running
  /-- A filter holds the pipeline. -/
  | suspended
  /-- Every filter has been passed. -/
  | completed
  /-- The socket was closed. -/
  | terminated
  deriving DecidableEq, Repr

/-- The filters of a socket, and how far they have run. -/
structure Pipeline (σ : Type) where
  filters : List (ListenerFilter σ)
  cursor : Nat
  state : PipelineState

namespace Pipeline

variable {σ : Type}

def new (filters : List (ListenerFilter σ)) : Pipeline σ := ⟨filters, 0, .running⟩

def current? (pipeline : Pipeline σ) : Option String :=
  if pipeline.state = .suspended then (pipeline.filters[pipeline.cursor]?).map (·.name) else none

def remember (pipeline : Pipeline σ) (memory : σ) : Pipeline σ :=
  { pipeline with filters := pipeline.filters.modify pipeline.cursor ({ · with memory := memory }) }

def enter (pipeline : Pipeline σ) (state : PipelineState) : Pipeline σ :=
  { pipeline with state }

def advance (pipeline : Pipeline σ) : Pipeline σ :=
  { pipeline with cursor := pipeline.cursor + 1 }

/-- Runs filters from the cursor on, until one holds or closes the socket or all are passed. -/
def iterate (pipeline : Pipeline σ) (socket : Socket) : Pipeline σ × Socket :=
  match _found : pipeline.filters[pipeline.cursor]? with
  | none => (pipeline.enter .completed, socket)
  | some filter =>
      let reply := filter.onAccept filter.memory socket
      let after := pipeline.remember reply.memory
      let socket := socket.learn reply.findings
      if !socket.isOpen then (after.enter .terminated, socket)
      else match reply.status with
        | .hold => (after.enter .suspended, socket)
        | .proceed => after.advance.iterate socket
termination_by pipeline.filters.length - pipeline.cursor
decreasing_by
  have inside := (List.getElem?_eq_some_iff.mp _found).1
  simp only [remember, advance, List.length_modify]
  omega

/-- Runs from the first filter. -/
def start (pipeline : Pipeline σ) (socket : Socket) : Pipeline σ × Socket :=
  { pipeline with cursor := 0 }.iterate socket

/-- The filter that holds the pipeline is done, with success or not. Without success the socket is
closed. -/
def resume (pipeline : Pipeline σ) (socket : Socket) (success : Bool) : Pipeline σ × Socket :=
  if pipeline.state ≠ .suspended then (pipeline, socket)
  else if success then pipeline.advance.iterate socket
  else (pipeline.enter .terminated, if socket.isOpen then socket.close else socket)

/-- Hands all readable bytes to the filter that holds the pipeline. -/
def onData (pipeline : Pipeline σ) (socket : Socket) (data : List UInt8) : Pipeline σ × Socket :=
  if pipeline.state ≠ .suspended then (pipeline, socket)
  else match pipeline.filters[pipeline.cursor]? with
    | none =>
        if socket.isOpen then pipeline.advance.iterate socket
        else (pipeline.enter .terminated, socket)
    | some filter =>
        let reply := filter.onData filter.memory socket data
        let after := pipeline.remember reply.memory
        let socket := socket.learn reply.findings
        if !socket.isOpen then (after.enter .terminated, socket)
        else match reply.status with
          | .hold => (after, socket)
          | .proceed => after.advance.iterate socket

/-- The filter that holds the pipeline ran out of time: it is passed over, or the socket is
closed. -/
def onTimeout (pipeline : Pipeline σ) (socket : Socket) (continues : Bool) :
    Pipeline σ × Socket :=
  pipeline.resume socket continues

/-- The name of a state as diagnostic texts write it. -/
def stateText : PipelineState → String
  | .running => "Running"
  | .suspended => "Suspended"
  | .completed => "Completed"
  | .terminated => "Terminated"

def debug (pipeline : Pipeline σ) : String :=
  let names := String.intercalate ", " (pipeline.filters.map fun f => Text.quoted f.name)
  s!"ListenerFilterPipeline \x7b filters: [{names}], cursor: {pipeline.cursor}, state: " ++
    stateText pipeline.state ++ " \x7d"

end Pipeline

end Admission.Listener
