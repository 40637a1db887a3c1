import Admission.Listener.State

/-!
Contract: runs of a listener.

Owns: `Operation`, all that can be done to a listener; `ListenerState.step` and `ListenerState.run`,
the state after operations in whatever order, with `collect`, what they bring about; the batches that
a run submits and the activations that an operation brings about.
-/

namespace Admission.Listener

open Admission.Chain

/-- Something that is done to a listener. -/
inductive Operation where
  | apply (descriptors : List FilterChainDescriptor) (builder : ChainBuilder)
  /-- A warm-up target becomes ready. -/
  | ready (target : InitTarget)
  /-- Queued warm-up notifications are dispatched. -/
  | dispatch
  | accept (socket : Socket) (now : Nat)
  | data (id : SocketId) (bytes : List UInt8)
  /-- The filter that holds a socket is done, with success or not. -/
  | resume (id : SocketId) (success : Bool)
  | poll (now : Nat)
  /-- Something outside the listener closes or reopens a socket. -/
  | setOpen (id : SocketId) (isOpen : Bool)
  | report (handle : ConnectionHandle) (event : ConnectionEvent)
  | remove (handle : ConnectionHandle)
  | drain (chains : List FilterChainId)
  | shutdown
  | clear

/-- The batch that an operation submits. -/
def Operation.batch? : Operation → Option (List FilterChainDescriptor)
  | apply descriptors _ => some descriptors
  | _ => none

/-- The batches that a run submits, in order, also those that are rejected. -/
def submitted (operations : List Operation) : List (List FilterChainDescriptor) :=
  operations.filterMap (·.batch?)

theorem submitted_concat (operations : List Operation) (operation : Operation) :
    submitted (operations ++ [operation]) =
      submitted operations ++ operation.batch?.toList := by
  unfold submitted
  rw [List.filterMap_append]
  cases shape : operation.batch? <;> simp [shape]

namespace ListenerState

variable {σ : Type}

/-- The listener after an operation. -/
def step (state : ListenerState σ) : Operation → ListenerState σ
  | .apply descriptors builder => (state.applyChains descriptors builder).2
  | .ready target => state.targetReady target
  | .dispatch => state.dispatchWarmed.2
  | .accept socket now => (state.accept socket now).2
  | .data id bytes => (state.onSocketData id bytes).2
  | .resume id success => (state.continueSocket id success).2
  | .poll now => (state.pollTimeouts now).2
  | .setOpen id isOpen => state.setOpen id isOpen
  | .report handle event => state.onConnectionEvent handle event
  | .remove handle => (state.removeConnection handle).2
  | .drain chains => state.drain chains
  | .shutdown => state.shutdown
  | .clear => state.clearParked.2

/-- The listener after a run. -/
def run (state : ListenerState σ) (operations : List Operation) : ListenerState σ :=
  operations.foldl step state

/-- A listener after a run from its beginning. -/
def ran (config : ListenerConfig σ) (carrier : Carrier) (operations : List Operation) :
    ListenerState σ :=
  (ListenerState.new config carrier).run operations

/-- Some run from a beginning comes to the state. -/
def Reachable (state : ListenerState σ) : Prop :=
  ∃ config carrier operations, ran config carrier operations = state

/-- What the operations of a run bring about, one after another. -/
def collect {α : Type} (produce : ListenerState σ → Operation → List α) (state : ListenerState σ) :
    List Operation → List α
  | [] => []
  | operation :: rest => produce state operation ++ (state.step operation).collect produce rest

theorem collect_concat {α : Type} (produce : ListenerState σ → Operation → List α)
    (state : ListenerState σ) (operations : List Operation) (operation : Operation) :
    state.collect produce (operations ++ [operation]) =
      state.collect produce operations ++ produce (state.run operations) operation := by
  induction operations generalizing state with
  | nil => exact List.append_nil _
  | cons first rest inductionHypothesis =>
      rw [List.cons_append]
      unfold collect
      rw [inductionHypothesis, List.append_assoc]
      rfl

/-- The activations that an operation brings about. -/
def activations (state : ListenerState σ) : Operation → List Activation
  | .apply descriptors builder =>
      match (state.applyChains descriptors builder).1.outcome with
      | .ok (.activated activation) => [activation]
      | _ => []
  | .dispatch => state.dispatchWarmed.1
  | _ => []

theorem ran_append (config : ListenerConfig σ) (carrier : Carrier)
    (operations more : List Operation) :
    ran config carrier (operations ++ more) = (ran config carrier operations).run more :=
  List.foldl_append

theorem ran_concat (config : ListenerConfig σ) (carrier : Carrier) (operations : List Operation)
    (operation : Operation) :
    ran config carrier (operations ++ [operation]) =
      (ran config carrier operations).step operation :=
  ran_append config carrier operations [operation]

theorem Reachable.step {state : ListenerState σ} (reachable : state.Reachable)
    (operation : Operation) : (state.step operation).Reachable := by
  obtain ⟨config, carrier, operations, rfl⟩ := reachable
  exact ⟨config, carrier, operations ++ [operation], ran_concat config carrier operations operation⟩

end ListenerState

end Admission.Listener
