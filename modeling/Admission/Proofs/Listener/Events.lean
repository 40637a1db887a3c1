import Admission.Proofs.Chain.History
import Admission.Proofs.Listener.Run

/-!
Contract: what the operations of a listener do to its registry.

Owns:
- `Operation.event?`, what an operation does to the registry, and `events`, the same for a run;
- `registry_step` and `registry_ran`: the registry of a listener has gone through exactly these
  events, whatever happened to sockets and connections in between;
- `ListenerState.activated`, the activations of a run, which are those of the registry.
-/

namespace Admission.Listener

open Admission.Chain

/-- What an operation does to the registry; most do nothing. -/
def Operation.event? : Operation → Option Event
  | apply descriptors builder => some (.update descriptors builder)
  | ready target => some (.ready target)
  | dispatch => some .dispatch
  | _ => none

/-- What a run does to the registry, in order. -/
def events (operations : List Operation) : List Event :=
  operations.filterMap (·.event?)

theorem events_append (operations more : List Operation) :
    events (operations ++ more) = events operations ++ events more :=
  List.filterMap_append

theorem events_cons (operation : Operation) (rest : List Operation) :
    events (operation :: rest) = operation.event?.toList ++ events rest := by
  unfold events
  rw [List.filterMap_eq_flatMap_toList, List.filterMap_eq_flatMap_toList, List.flatMap_cons]

namespace ListenerState

variable {σ : Type}

/-! ## Operations on sockets and connections -/

/-- Steps that keep the registry keep it when they are repeated. -/
theorem registry_foldl {α : Type} {step : ListenerState σ → α → ListenerState σ}
    (keeps : ∀ state item, (step state item).registry = state.registry) (state : ListenerState σ)
    (items : List α) : (items.foldl step state).registry = state.registry := by
  induction items generalizing state with
  | nil => rfl
  | cons item rest inductionHypothesis =>
      rw [List.foldl_cons, inductionHypothesis, keeps]

variable (state : ListenerState σ)

@[simp]
theorem registry_removeConnection (handle : ConnectionHandle) :
    (state.removeConnection handle).2.registry = state.registry := by
  unfold removeConnection
  split
  · rfl
  · split
    · rfl
    · dsimp only
      split
      · rfl
      · rfl

@[simp]
theorem registry_dropConnection (handle : ConnectionHandle) :
    (state.dropConnection handle).registry = state.registry := by
  unfold dropConnection
  split
  · rfl
  · apply registry_removeConnection

@[simp]
theorem registry_drainChain (chain : FilterChainId) :
    (state.drainChain chain).registry = state.registry := by
  unfold drainChain
  split
  · rfl
  · have dropped := registry_foldl registry_dropConnection state
    dsimp only
    split
    · apply dropped
    · apply dropped

@[simp]
theorem registry_drain (chains : List FilterChainId) :
    (state.drain chains).registry = state.registry :=
  registry_foldl registry_drainChain { state with draining := true } chains

@[simp]
theorem registry_route (pending : PendingSocket σ) :
    (state.route pending).2.registry = state.registry := by
  unfold route
  split
  · rfl
  · dsimp only
    split
    · rfl
    · rfl

@[simp]
theorem registry_finish (pending : PendingSocket σ) :
    (state.finish pending).2.registry = state.registry := by
  unfold finish
  split
  · apply registry_route
  · rfl

@[simp]
theorem registry_accept (socket : Socket) (now : Nat) :
    (state.accept socket now).2.registry = state.registry := by
  unfold accept
  dsimp only
  split
  · rfl
  · apply registry_finish

@[simp]
theorem registry_stepPending (id : SocketId)
    (step : Pipeline σ → Socket → Pipeline σ × Socket) :
    (state.stepPending id step).2.registry = state.registry := by
  unfold stepPending
  split
  · rfl
  · dsimp only
    split
    · rfl
    · apply registry_finish

@[simp]
theorem registry_timeOutAll (ids : List SocketId) :
    (state.timeOutAll ids).2.registry = state.registry := by
  induction ids generalizing state with
  | nil => rfl
  | cons id rest inductionHypothesis =>
      unfold timeOutAll
      dsimp only
      rw [inductionHypothesis]
      apply registry_stepPending

@[simp]
theorem registry_shutdown : state.shutdown.registry = state.registry := by
  unfold shutdown
  dsimp only
  rw [registry_drain]
  apply registry_foldl
  intro state pending
  rfl

@[simp]
theorem registry_clearParked : state.clearParked.2.registry = state.registry := by
  apply registry_foldl
  intro state object
  unfold dropParked
  split
  · rfl
  · rfl
  · rfl
  · rfl

/-! ## Operations on filter chains -/

/-- A batch that becomes active at once drains the chains that it removes. -/
theorem applyChains_eq (descriptors : List FilterChainDescriptor) (builder : ChainBuilder) :
    state.applyChains descriptors builder =
      ((state.registry.beginUpdate descriptors builder).2,
        (state.registry.activations (.update descriptors builder)).foldl
          (fun state activation => state.drain activation.removed)
          { state with registry := (state.registry.beginUpdate descriptors builder).1 }) := by
  unfold applyChains Registry.activations
  dsimp only
  cases (state.registry.beginUpdate descriptors builder).2.outcome with
  | error error => rfl
  | ok outcome =>
      cases outcome with
      | activated activation => rfl
      | warming generation outstanding => rfl

/-- Whatever an event activates drains the chains that it removes. -/
theorem step_of_event {operation : Operation} {event : Event}
    (does : operation.event? = some event) :
    state.step operation =
      (state.registry.activations event).foldl
        (fun state activation => state.drain activation.removed)
        { state with registry := state.registry.step event } := by
  cases operation with
  | apply descriptors builder =>
      rw [← Option.some.inj does]
      exact congrArg (·.2) (state.applyChains_eq descriptors builder)
  | ready target =>
      rw [← Option.some.inj does]
      rfl
  | dispatch =>
      rw [← Option.some.inj does]
      rfl
  | _ => exact absurd does (by simp [Operation.event?])

/-- A batch that activates nothing changes nothing but the registry. -/
theorem apply_of_inactive {descriptors : List FilterChainDescriptor} {builder : ChainBuilder}
    (inactive : state.registry.activations (.update descriptors builder) = []) :
    state.step (.apply descriptors builder) =
      { state with registry := state.registry.step (.update descriptors builder) } := by
  have does : (Operation.apply descriptors builder).event? = some (.update descriptors builder) := rfl
  rw [state.step_of_event does, inactive]
  rfl

theorem registry_step_of_quiet {operation : Operation} (quiet : operation.event? = none) :
    (state.step operation).registry = state.registry := by
  cases operation with
  | accept socket now => apply registry_accept
  | data id bytes => apply registry_stepPending
  | resume id success => apply registry_stepPending
  | poll now => apply registry_timeOutAll
  | setOpen id isOpen =>
      unfold step setOpen
      dsimp only
      split
      · rfl
      · rfl
  | report handle event =>
      unfold step onConnectionEvent
      dsimp only
      split
      · apply registry_removeConnection
      · rfl
  | remove handle => apply registry_removeConnection
  | drain chains => apply registry_drain
  | shutdown => apply registry_shutdown
  | clear => apply registry_clearParked
  | _ => exact absurd quiet (by simp [Operation.event?])

theorem registry_step (operation : Operation) :
    (state.step operation).registry = state.registry.run operation.event?.toList := by
  cases does : operation.event? with
  | none =>
      rw [registry_step_of_quiet state does]
      rfl
  | some event =>
      have keeps : ∀ (state : ListenerState σ) (activation : Activation),
          (state.drain activation.removed).registry = state.registry :=
        fun state activation => state.registry_drain activation.removed
      rw [state.step_of_event does, registry_foldl keeps]
      rfl

/-! ## Runs -/

theorem registry_run (operations : List Operation) :
    (state.run operations).registry = state.registry.run (events operations) := by
  induction operations generalizing state with
  | nil => rfl
  | cons operation rest inductionHypothesis =>
      have after : state.run (operation :: rest) = (state.step operation).run rest := rfl
      rw [after, inductionHypothesis, registry_step, events_cons, Registry.run_append]

/-- A listener's registry has gone through the events of the run. -/
theorem registry_ran (config : ListenerConfig σ) (carrier : Carrier)
    (operations : List Operation) :
    (ran config carrier operations).registry = Registry.ran config.name (events operations) :=
  registry_run _ operations

theorem activations_eq (operation : Operation) :
    state.activations operation = state.registry.activated operation.event?.toList := by
  cases operation with
  | apply descriptors builder =>
      unfold activations
      dsimp only
      rw [state.applyChains_eq]
      exact (state.registry.activated_singleton (.update descriptors builder)).symm
  | ready target => rfl
  | dispatch =>
      exact (state.registry.activated_singleton .dispatch).symm
  | _ => rfl

/-- The activations of a run, in order. -/
def activated (state : ListenerState σ) : List Operation → List Activation
  | [] => []
  | operation :: rest => state.activations operation ++ (state.step operation).activated rest

theorem activated_eq (operations : List Operation) :
    state.activated operations = state.registry.activated (events operations) := by
  induction operations generalizing state with
  | nil => rfl
  | cons operation rest inductionHypothesis =>
      unfold activated
      rw [inductionHypothesis, activations_eq, registry_step, events_cons, Registry.activated_append]

end ListenerState

end Admission.Listener
