import Admission.Proofs.Listener.Coherence
import Admission.Proofs.Listener.Records
import Admission.Proofs.Listener.Waiting

/-!
Contract: all that an operation can do to a listener.

Owns:
- `outcomes` and `runOutcomes`, what became of the sockets that an operation or a run has moved;
- `Effect`, what an operation leaves, case by case, and `effect_ran`, that at each point of a run every
  operation has its effect;
- `Housed`, what that needs of the tables in which sockets and connections are kept.
-/

namespace Admission.Listener

open Admission.Chain

/-- An operation on a socket that a filter holds. -/
def Operation.moves : Operation → Bool
  | .data _ _ | .resume _ _ => true
  | _ => false

namespace ListenerState

variable {σ : Type} {state : ListenerState σ}

/-- What became of the sockets that an operation has moved, in order. -/
def outcomes (state : ListenerState σ) : Operation → List SocketOutcome
  | .accept socket now => [(state.accept socket now).1]
  | .data id bytes => [(state.onSocketData id bytes).1]
  | .resume id success => [(state.continueSocket id success).1]
  | .poll now => (state.pollTimeouts now).1.map (·.2)
  | _ => []

/-- What an operation does, what became of the sockets that it has moved, and what it leaves. -/
inductive Effect (before : ListenerState σ) :
    Operation → List SocketOutcome → ListenerState σ → Prop
  | shelved {operation : Operation} {after : ListenerState σ} (shelves : operation.shelves = true)
      (shelved : Shelved before after) : Effect before operation [] after
  | arrived {socket : Socket} {now : Nat} {outcome : SocketOutcome} {after : ListenerState σ}
      (arrived : Arrived before (before.arrival socket now) (outcome, after)) :
      Effect before (.accept socket now) [outcome] after
  | stepped {operation : Operation} (moves : operation.moves = true) {id : SocketId}
      {step : Pipeline σ → Socket → Pipeline σ × Socket}
      (stops : ∀ pipeline socket, pipeline.Stopped → (step pipeline socket).1.Stopped)
      {outcome : SocketOutcome} {after : ListenerState σ}
      (stepped : Stepped before id step (outcome, after)) :
      Effect before operation [outcome] after
  | polled {now : Nat} {ids : List SocketId} {outcomes : List (SocketId × SocketOutcome)}
      {after : ListenerState σ} (polled : Polled before ids (outcomes, after)) :
      Effect before (.poll now) (outcomes.map (·.2)) after
  | opened {id : SocketId} {isOpen : Bool} (change : PendingSocket σ → PendingSocket σ)
      (keeps : ∀ pending, change pending = { pending with socket := (change pending).socket }) :
      Effect before (.setOpen id isOpen) []
        { before with pending := before.pending.modify id.slot change }
  | ended {after : ListenerState σ} (shelved : Shelved before.withdrawn after)
      (gone : ∀ chain, after.groups.get? chain = none) : Effect before .shutdown [] after
  | cleared (connections : List Connection) :
      Effect before .clear [] { before with
        connections := connections
        log := before.log ++ before.parked.filterMap Parked.line?
        stats := before.stats.without before.parked
        parked := [] }

/-- The tables of a listener are in order. -/
structure Housed (state : ListenerState σ) : Prop where
  tracking : state.Tracking
  distinct : state.groups.Distinct
  waiting : state.Waiting

theorem Housed.tidy (housed : state.Housed) : Tidy state.groups :=
  ⟨housed.distinct, housed.tracking.groups⟩

theorem effect_setOpen (state : ListenerState σ) (id : SocketId) (isOpen : Bool) :
    Effect state (.setOpen id isOpen) [] (state.setOpen id isOpen) := by
  unfold setOpen
  split
  · exact .opened _ fun pending => rfl
  · have same : Effect state (.setOpen id isOpen) []
        { state with pending := state.pending.modify id.slot fun pending => pending } :=
      .opened _ fun pending => rfl
    rw [Slab.modify_of_fixed _ _ _ fun _ _ => rfl] at same
    exact same

/-- Nothing is tracked after a shutdown: every group was drained. -/
theorem Housed.effect_shutdown (housed : state.Housed) :
    Effect state .shutdown [] state.shutdown := by
  have tracking : state.withdrawn.Tracking :=
    ⟨housed.tracking.groups, housed.tracking.live, housed.tracking.own⟩
  rw [shutdown_eq]
  refine .ended (tracking.shelved_drain housed.distinct _) ?_
  intro chain
  rw [(tracking.drain_drained state.groups.keys).groups]
  split
  · rfl
  · rename_i unlisted
    exact Table.get?_eq_none_iff.mpr unlisted

theorem Housed.effect (housed : state.Housed) (operation : Operation) :
    Effect state operation (state.outcomes operation) (state.step operation) := by
  have shelved {operation : Operation} (shelves : operation.shelves = true) :
      Effect state operation [] (state.step operation) :=
    .shelved shelves (housed.tracking.shelved_step housed.distinct shelves)
  cases operation with
  | accept socket now => exact .arrived (state.arrived_accept socket now)
  | data id bytes =>
      exact .stepped rfl (fun _ socket stopped => stopped.onData socket bytes)
        (state.stepped_stepPending id _)
  | resume id success =>
      exact .stepped rfl (fun _ socket stopped => stopped.resume socket success)
        (state.stepped_stepPending id _)
  | poll now => exact .polled (housed.waiting.polled_pollTimeouts now)
  | setOpen id isOpen => exact state.effect_setOpen id isOpen
  | shutdown => exact housed.effect_shutdown
  | clear =>
      obtain ⟨connections, cleared⟩ := state.clearParked_frame
      have step : state.step .clear = state.clearParked.2 := rfl
      rw [step, cleared]
      exact .cleared connections
  | _ => exact shelved rfl

/-! ## Runs -/

section Tidy

variable {id : SocketId} {result : SocketOutcome × ListenerState σ}

theorem Settled.tidy {pending : PendingSocket σ} (settled : Settled state pending result)
    (tidy : Tidy state.groups) : Tidy result.2.groups := by
  cases settled with
  | closed => exact tidy
  | @connected connections connection info matched passed found flag =>
      have made : Tidy (state.made connections).groups := tidy
      exact tidy_track made matched.chain connection info matched.index

private theorem Stepped.tidy {step : Pipeline σ → Socket → Pipeline σ × Socket}
    (stepped : Stepped state id step result) (tidy : Tidy state.groups) :
    Tidy result.2.groups := by
  cases stepped with
  | unknown => exact tidy
  | held => exact tidy
  | left _ settled => exact settled.tidy tidy

theorem TimedOut.tidy (timedOut : TimedOut state id result) (tidy : Tidy state.groups) :
    Tidy result.2.groups := by
  cases timedOut with
  | continued _ stepped => exact stepped.tidy tidy
  | closed => exact tidy

private theorem Polled.tidy {ids : List SocketId}
    {result : List (SocketId × SocketOutcome) × ListenerState σ} (polled : Polled state ids result)
    (tidy : Tidy state.groups) : Tidy result.2.groups := by
  induction polled with
  | done => exact tidy
  | next timedOut _ inductionHypothesis => exact inductionHypothesis (timedOut.tidy tidy)

end Tidy

section Effect

variable {operation : Operation} {outcomes : List SocketOutcome} {after : ListenerState σ}
  (effect : Effect state operation outcomes after)

include effect

private theorem Effect.distinct (tidy : Tidy state.groups) : after.groups.Distinct := by
  cases effect with
  | shelved _ shelved => exact shelved.distinct
  | arrived arrived =>
      cases arrived with
      | held => exact tidy.distinct
      | left settled => exact (settled.tidy tidy).distinct
  | stepped _ _ stepped => exact (stepped.tidy tidy).distinct
  | polled polled => exact (polled.tidy tidy).distinct
  | opened => exact tidy.distinct
  | ended shelved => exact shelved.distinct
  | cleared => exact tidy.distinct

private theorem Effect.waiting (waiting : state.Waiting) : after.Waiting := by
  cases effect with
  | shelved _ shelved =>
      refine waiting.of_pending ?_
      rw [shelved.frame]
  | arrived arrived => exact waiting.arrived arrived
  | stepped _ stops stepped => exact waiting.stepped stops stepped
  | polled polled => exact waiting.polled polled
  | opened change keeps =>
      refine waiting.modify ?_
      intro pending found
      have before := waiting.waits _ pending found
      rw [keeps pending]
      exact ⟨before.placed, before.held, before.inside, before.unmarked⟩
  | ended shelved =>
      have withdrawn : state.withdrawn.Waiting :=
        ⟨Slab.sound_empty, fun _ _ none => absurd none (by simp [ListenerState.withdrawn])⟩
      refine withdrawn.of_pending ?_
      rw [shelved.frame]
  | cleared => exact waiting.of_pending rfl

end Effect

theorem housed_ran (config : ListenerConfig σ) (carrier : Carrier)
    (operations : List Operation) : (ran config carrier operations).Housed := by
  induction operations using List.reverseRecOn with
  | nil => exact ⟨tracking_new config carrier, Table.distinct_empty, waiting_new config carrier⟩
  | append_singleton operations operation inductionHypothesis =>
      have effect := inductionHypothesis.effect operation
      have coherent := coherent_ran config carrier (operations ++ [operation])
      rw [ran_concat] at coherent ⊢
      exact ⟨coherent.tracking, effect.distinct inductionHypothesis.tidy,
        effect.waiting inductionHypothesis.waiting⟩

theorem Reachable.housed (reachable : state.Reachable) : state.Housed := by
  obtain ⟨config, carrier, operations, rfl⟩ := reachable
  exact housed_ran config carrier operations

/-- What became of the sockets that a run has moved, in order. -/
def runOutcomes (state : ListenerState σ) : List Operation → List SocketOutcome
  | [] => []
  | operation :: rest => state.outcomes operation ++ (state.step operation).runOutcomes rest

theorem runOutcomes_concat (state : ListenerState σ) (operations : List Operation)
    (operation : Operation) :
    state.runOutcomes (operations ++ [operation]) =
      state.runOutcomes operations ++ (state.run operations).outcomes operation := by
  induction operations generalizing state with
  | nil => exact List.append_nil _
  | cons first rest inductionHypothesis =>
      rw [List.cons_append]
      unfold runOutcomes
      rw [inductionHypothesis, List.append_assoc]
      rfl

theorem effect_ran (config : ListenerConfig σ) (carrier : Carrier) (operations : List Operation)
    (operation : Operation) :
    Effect (ran config carrier operations) operation
      ((ran config carrier operations).outcomes operation)
      (ran config carrier (operations ++ [operation])) := by
  rw [ran_concat]
  exact (housed_ran config carrier operations).effect operation

end ListenerState

end Admission.Listener
