import Admission.Proofs.Chain.Enclosure

/-!
Contract: a generation that is superseded before it becomes active leaves no trace.

Two registries go through a run, the second without the update that the generation comes from. While
the generation is warming, they differ in their warming slots. The next accepted update replaces
both, and from then on nothing but the warm-up of the generation is left of it.

Owns:
- `Registry.Stalls`, what is warming does not become active in a run;
- `Registry.Holding` and `Registry.Outlived`, the two phases, and what an event does in each;
- `Holding.mirrors`: throughout such a run both registries activate the same.
-/

namespace Admission.Chain.Registry

/-- A registry with an empty warming slot. -/
def vacate (registry : Registry) : Registry := { registry with warming := none }

/-- What is warming at the beginning of a run does not become active in it. -/
def Stalls (registry : Registry) (events : List Event) : Prop :=
  ∀ activation ∈ registry.activated events,
    registry.warming.map (·.generation) ≠ some activation.generation

section Stalls

variable {registry : Registry} {events more : List Event}

private theorem Stalls.first (stalls : registry.Stalls (events ++ more)) :
    registry.Stalls events := by
  intro activation listed
  apply stalls
  rw [activated_append]
  exact List.mem_append_left _ listed

private theorem Stalls.rest (stalls : registry.Stalls (events ++ more))
    (kept : (registry.run events).warming = registry.warming) :
    (registry.run events).Stalls more := by
  intro activation listed
  rw [kept]
  apply stalls
  rw [activated_append]
  exact List.mem_append_right _ listed

private theorem Stalls.dispatchWarmed (stalls : registry.Stalls [.dispatch]) :
    registry.dispatchWarmed = ({ registry with warmed := [] }, []) := by
  apply dispatchWarmed_of_not_mem
  intro index waiting queued
  have activates : registry.activated [.dispatch] = [registry.activationOf index] := by
    rw [activated_singleton]
    unfold activations
    dsimp only
    rw [dispatchWarmed_of_mem waiting queued]
  apply stalls (registry.activationOf index)
  · rw [activates]
    exact List.mem_cons_self
  · rw [waiting]
    rfl

end Stalls

/-! ## Empty warming slots -/

section Vacate

variable {registry : Registry} {descriptors : List FilterChainDescriptor} {builder : ChainBuilder}

/-- An accepted update does not look at the warming slot. -/
theorem vacate_update_of_accepted {index : MatchIndex}
    (accepted : (registry.buildOf descriptors builder).outcome = .ok index) :
    registry.vacate.step (.update descriptors builder) =
        registry.step (.update descriptors builder) ∧
      registry.vacate.activations (.update descriptors builder) =
        registry.activations (.update descriptors builder) := by
  have settled : registry.vacate.settle (registry.buildOf descriptors builder) =
      registry.settle (registry.buildOf descriptors builder) := by
    unfold settle
    rw [accepted]
    rfl
  have vacated : (registry.vacate.step (.update descriptors builder),
      registry.vacate.activations (.update descriptors builder)) =
        registry.vacate.settle (registry.buildOf descriptors builder) := update_eq_settle
  rw [settled, ← update_eq_settle] at vacated
  exact Prod.mk.inj vacated

private theorem forget_warm (registry : Registry) (index : MatchIndex) (targets : List InitTarget) :
    (registry.warm index targets).vacate.forget index.generation =
      registry.vacate.forget index.generation := by
  have own : [Warmup.mk index.generation targets].filter (·.generation ≠ index.generation) = [] := by
    simp
  unfold warm vacate forget
  dsimp only
  rw [List.filter_append, own, List.append_nil]

private theorem step_of_refused {error : ConfigError}
    (refused : (registry.buildOf descriptors builder).outcome = .error error) :
    registry.step (.update descriptors builder) =
      registry.drawn (registry.buildOf descriptors builder) :=
  (beginUpdate_of_refused refused).1

end Vacate

/-! ## After the generation -/

/-- The first registry is the second under other numbers but for the warm-up of a generation that is
none in the second. -/
structure Outlived (moves : Renumbering) (left right : Registry) (generation : GenerationId) :
    Prop where
  gap : moves.generations.back? generation.value = none
  drawn : generation.value < left.nextGeneration
  reached : right.Reached moves
  same : left.forget generation = right.renumber moves

namespace Outlived

variable {moves : Renumbering} {left right : Registry} {generation : GenerationId}

private theorem active (outlived : left.Outlived moves right generation) :
    left.active = right.active.map (MatchIndex.renumber moves) :=
  congrArg Registry.active outlived.same

theorem step (outlived : left.Outlived moves right generation) (event : Event) :
    (left.step event).Outlived moves (right.run (event.withdraw moves).toList) generation ∧
      left.activations event =
        (right.activated (event.withdraw moves).toList).map (Activation.renumber moves) := by
  obtain ⟨gap, drawn, reached, same⟩ := outlived
  have stale : ∀ index, left.warming = some index → index.generation ≠ generation := by
    intro index waiting equal
    have renumbered : right.warming.map (MatchIndex.renumber moves) = some index :=
      (congrArg Registry.warming same).symm.trans waiting
    obtain ⟨before, _, rfl⟩ := Option.map_eq_some_iff.mp renumbered
    exact moves.generations.apply_ne_of_back? gap before.generation.value
      (congrArg GenerationId.value equal)
  have forgets := forget_step drawn fun _ : event = .dispatch => stale
  obtain ⟨after, activates⟩ := step_renumber reached event
  rw [same] at forgets
  exact ⟨⟨gap, drawn.trans_le (left.nextGeneration_le_step event), reached.run _,
    forgets.1.symm.trans after⟩, forgets.2.symm.trans activates⟩

theorem run (outlived : left.Outlived moves right generation) (events : List Event) :
    (left.run events).Outlived moves (right.run (events.filterMap (Event.withdraw moves)))
      generation := by
  induction events generalizing left right with
  | nil => exact outlived
  | cons event rest inductionHypothesis =>
      rw [Event.filterMap_withdraw_cons, run_append]
      exact inductionHypothesis (outlived.step event).1

theorem mirrors (outlived : left.Outlived moves right generation) (events : List Event) :
    left.Mirrors moves right events := by
  induction events generalizing left right with
  | nil => exact outlived.active
  | cons event rest inductionHypothesis =>
      obtain ⟨after, activates⟩ := outlived.step event
      exact ⟨outlived.active, activates, inductionHypothesis after⟩

end Outlived

/-! ## While the generation is warming -/

/-- The generation of an index is warming in the first registry, which is the second under other
numbers but for this. -/
structure Holding (moves : Renumbering) (left right : Registry) (index : MatchIndex) : Prop where
  warming : left.warming = some index
  gap : moves.generations.back? index.generation.value = none
  drawn : index.generation.value < left.nextGeneration
  reached : right.Reached moves
  same : left.vacate.forget index.generation = (right.renumber moves).vacate

/-- An update that is left warming begins it. -/
theorem holding_of_waiting {registry : Registry} (inStep : registry.InStep)
    (enclosed : registry.Enclosed) {descriptors : List FilterChainDescriptor}
    {builder : ChainBuilder} {index : MatchIndex}
    (accepted : (registry.buildOf descriptors builder).outcome = .ok index)
    (waits : (registry.buildOf descriptors builder).handedOut index.generation ≠ []) :
    (registry.step (.update descriptors builder)).Holding (registry.gap descriptors builder)
      registry index := by
  have generation : index.generation = ⟨registry.nextGeneration⟩ :=
    MatchIndex.generation_of_accepted accepted
  have after : registry.step (.update descriptors builder) =
      (registry.drawn (registry.buildOf descriptors builder)).warm index
        ((registry.buildOf descriptors builder).handedOut index.generation) :=
    (beginUpdate_of_waiting accepted waits).1
  have undrawn : registry.nextGeneration ≤ index.generation.value := by
    rw [generation]
  have forgotten : ((registry.forget index.generation).drawn
        (registry.buildOf descriptors builder)).vacate =
      (registry.drawn (registry.buildOf descriptors builder)).vacate := by
    rw [inStep.forget_of_undrawn undrawn]
  rw [after]
  refine ⟨rfl, ?_, ?_, reached_gap descriptors builder, ?_⟩
  · rw [generation]
    unfold Shift.back? gap
    dsimp only
    rw [if_neg (Nat.lt_irrefl _), if_pos (Nat.lt_succ_self _)]
  · rw [generation]
    exact Nat.lt_succ_self _
  · rw [renumber_gap descriptors builder inStep enclosed, forget_warm]
    exact forgotten

namespace Holding

variable {moves : Renumbering} {left right : Registry} {index : MatchIndex}
  {descriptors : List FilterChainDescriptor} {builder : ChainBuilder}

private theorem active (holding : left.Holding moves right index) :
    left.active = right.active.map (MatchIndex.renumber moves) :=
  congrArg Registry.active holding.same

private theorem buildOf_eq (holding : left.Holding moves right index)
    (descriptors : List FilterChainDescriptor) (builder : ChainBuilder) :
    left.buildOf descriptors builder = (right.renumber moves).buildOf descriptors builder := by
  have same : (left.vacate.forget index.generation).buildOf descriptors builder =
      (right.renumber moves).vacate.buildOf descriptors builder := by
    rw [holding.same]
  exact same

private theorem update_of_accepted (holding : left.Holding moves right index) {other : MatchIndex}
    (accepted : (left.buildOf descriptors builder).outcome = .ok other) :
    (left.step (.update descriptors builder)).Outlived moves
        (right.step (.update descriptors builder)) index.generation ∧
      left.activations (.update descriptors builder) =
        (right.activations (.update descriptors builder)).map (Activation.renumber moves) := by
  have renumberedAccepted := accepted
  rw [holding.buildOf_eq] at renumberedAccepted
  obtain ⟨leftAfter, leftActivates⟩ := vacate_update_of_accepted accepted
  obtain ⟨rightAfter, rightActivates⟩ := vacate_update_of_accepted renumberedAccepted
  obtain ⟨renumbered, activates⟩ := step_renumber holding.reached (.update descriptors builder)
  have fresh : index.generation.value ≠ left.vacate.nextGeneration := Nat.ne_of_lt holding.drawn
  obtain ⟨forgotten, forgottenActivates⟩ := forget_update fresh descriptors builder
  rw [holding.same, rightAfter, leftAfter] at forgotten
  rw [holding.same, rightActivates, leftActivates] at forgottenActivates
  constructor
  · exact ⟨holding.gap, holding.drawn.trans_le (left.nextGeneration_le_step _),
      holding.reached.step _, forgotten.symm.trans renumbered⟩
  · rw [← right.activated_singleton]
    exact forgottenActivates.symm.trans activates

private theorem update_of_refused (holding : left.Holding moves right index) {error : ConfigError}
    (refused : (left.buildOf descriptors builder).outcome = .error error) :
    (left.step (.update descriptors builder)).Holding moves
        (right.step (.update descriptors builder)) index ∧
      (right.step (.update descriptors builder)).warming = right.warming ∧
      left.activations (.update descriptors builder) =
        (right.activations (.update descriptors builder)).map (Activation.renumber moves) := by
  have renumberedRefused := refused
  rw [holding.buildOf_eq] at renumberedRefused
  have rightRefused : ∃ cause, (right.buildOf descriptors builder).outcome = .error cause := by
    have outcome := renumberedRefused
    rw [buildOf_renumber holding.reached] at outcome
    cases built : (right.buildOf descriptors builder).outcome with
    | error cause => exact ⟨cause, rfl⟩
    | ok other =>
        unfold Build.renumber at outcome
        rw [built] at outcome
        exact absurd outcome (by simp [Except.map])
  obtain ⟨cause, rightRefused⟩ := rightRefused
  have rightAfter : (right.step (.update descriptors builder)).renumber moves =
      (right.renumber moves).drawn (left.buildOf descriptors builder) := by
    have renumbered := (step_renumber holding.reached (.update descriptors builder)).1
    rw [step_of_refused renumberedRefused, ← holding.buildOf_eq] at renumbered
    exact renumbered.symm
  have same : (left.vacate.forget index.generation).drawn (left.buildOf descriptors builder) =
      (right.renumber moves).vacate.drawn (left.buildOf descriptors builder) := by
    rw [holding.same]
  have kept : (right.step (.update descriptors builder)).warming = right.warming := by
    rw [step_of_refused rightRefused]
    rfl
  refine ⟨⟨?_, holding.gap, holding.drawn.trans_le (left.nextGeneration_le_step _),
    holding.reached.step _, ?_⟩, kept, ?_⟩
  · rw [step_of_refused refused]
    exact holding.warming
  · rw [rightAfter, step_of_refused refused]
    exact same
  · rw [activated_of_refused refused, activated_of_refused rightRefused]
    rfl

private theorem targetReady (holding : left.Holding moves right index) (target : InitTarget) :
    (left.step (.ready target)).Holding moves
        (right.run (Event.withdraw moves (.ready target)).toList) index ∧
      (right.run (Event.withdraw moves (.ready target)).toList).warming = right.warming := by
  have kept : (right.run (Event.withdraw moves (.ready target)).toList).warming =
      right.warming := by
    unfold Event.withdraw
    dsimp only
    cases target.back? moves with
    | none => rfl
    | some before => rfl
  have renumbered : (right.renumber moves).targetReady target =
      (right.run (Event.withdraw moves (.ready target)).toList).renumber moves :=
    (step_renumber holding.reached (.ready target)).1
  have same : (left.vacate.forget index.generation).targetReady target =
      (right.renumber moves).vacate.targetReady target := by
    rw [holding.same]
  rw [forget_targetReady] at same
  refine ⟨⟨holding.warming, holding.gap, holding.drawn, holding.reached.run _, ?_⟩, kept⟩
  rw [← renumbered]
  exact same

private theorem dispatch (holding : left.Holding moves right index)
    (leftStalls : left.Stalls [.dispatch]) (rightStalls : right.Stalls [.dispatch]) :
    (left.step .dispatch).Holding moves (right.step .dispatch) index ∧
      (right.step .dispatch).warming = right.warming ∧
      left.activations .dispatch =
        (right.activations .dispatch).map (Activation.renumber moves) := by
  have same : { left.vacate.forget index.generation with warmed := [] } =
      { (right.renumber moves).vacate with warmed := [] } := by
    rw [holding.same]
  unfold Registry.step activations
  dsimp only
  rw [leftStalls.dispatchWarmed, rightStalls.dispatchWarmed]
  exact ⟨⟨holding.warming, holding.gap, holding.drawn,
    ⟨holding.reached.generations, holding.reached.chains⟩, same⟩, rfl, rfl⟩

/-- An event does the same to both, and either everything stays as it is, or the generation is
superseded. -/
theorem step (holding : left.Holding moves right index) {event : Event}
    (leftStalls : left.Stalls [event]) (rightStalls : right.Stalls (event.withdraw moves).toList) :
    left.activations event =
        (right.activated (event.withdraw moves).toList).map (Activation.renumber moves) ∧
      ((left.step event).Holding moves (right.run (event.withdraw moves).toList) index ∧
          (right.run (event.withdraw moves).toList).warming = right.warming ∨
        (left.step event).Outlived moves (right.run (event.withdraw moves).toList)
          index.generation) := by
  cases event with
  | update descriptors builder =>
      unfold Event.withdraw
      rw [Option.toList_some, activated_singleton]
      cases outcome : (left.buildOf descriptors builder).outcome with
      | error error =>
          obtain ⟨after, kept, activates⟩ := holding.update_of_refused outcome
          exact ⟨activates, .inl ⟨after, kept⟩⟩
      | ok other =>
          obtain ⟨after, activates⟩ := holding.update_of_accepted outcome
          exact ⟨activates, .inr after⟩
  | ready target =>
      have nothing : right.activated (Event.withdraw moves (.ready target)).toList = [] := by
        unfold Event.withdraw
        dsimp only
        cases target.back? moves with
        | none => rfl
        | some before => rfl
      rw [nothing]
      exact ⟨rfl, .inl (holding.targetReady target)⟩
  | dispatch =>
      unfold Event.withdraw at rightStalls ⊢
      rw [Option.toList_some, activated_singleton]
      obtain ⟨after, kept, activates⟩ := holding.dispatch leftStalls rightStalls
      exact ⟨activates, .inl ⟨after, kept⟩⟩

/-- Both activate the same, if the generation is superseded before it becomes active and if without
it nothing becomes active that was warming when it came. In the end nothing is left of it but its
warm-up. -/
theorem mirrors (holding : left.Holding moves right index) {between : List Event}
    (leftStalls : left.Stalls between)
    (rightStalls : right.Stalls (between.filterMap (Event.withdraw moves))) {other : MatchIndex}
    (accepted : ((left.run between).buildOf descriptors builder).outcome = .ok other)
    (later : List Event) :
    left.Mirrors moves right (between ++ .update descriptors builder :: later) ∧
      (left.run (between ++ [.update descriptors builder])).Outlived moves
        (right.run
          ((between ++ [Event.update descriptors builder]).filterMap (Event.withdraw moves)))
        index.generation := by
  induction between generalizing left right with
  | nil =>
      obtain ⟨after, activates⟩ := holding.update_of_accepted accepted
      rw [← right.activated_singleton] at activates
      exact ⟨⟨holding.active, activates, after.mirrors later⟩, after⟩
  | cons event rest inductionHypothesis =>
      rw [Event.filterMap_withdraw_cons] at rightStalls
      have leftFirst : left.Stalls [event] := Stalls.first leftStalls
      obtain ⟨activates, after⟩ := holding.step leftFirst rightStalls.first
      rw [List.cons_append, List.cons_append, Event.filterMap_withdraw_cons, run_append]
      rcases after with ⟨still, kept⟩ | outlived
      · have leftKept : (left.step event).warming = left.warming :=
          still.warming.trans holding.warming.symm
        have leftRest : (left.step event).Stalls rest := @Stalls.rest left [event] rest leftStalls leftKept
        obtain ⟨mirrors, outlived⟩ :=
          inductionHypothesis still leftRest (rightStalls.rest kept) accepted
        exact ⟨⟨holding.active, activates, mirrors⟩, outlived⟩
      · exact ⟨⟨holding.active, activates, outlived.mirrors _⟩, outlived.run _⟩

end Holding

end Admission.Chain.Registry
