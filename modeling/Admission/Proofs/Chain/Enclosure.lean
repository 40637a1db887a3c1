import Admission.Proofs.Chain.Renumbering

/-!
Contract: a registry holds no number that is not drawn yet.

Owns:
- `Enclosed`, for a building, an index and a registry, and `renumber_of_beyond`: a renumbering of
  what comes next leaves a registry as it is;
- `Registry.gap`, the numbers that an update draws, and `renumber_gap`: leaving them out is all that
  a refused batch does.
-/

namespace Admission.Chain

/-- A change of chains that leaves those alone whose numbers are drawn. -/
def Spares (change : FilterChain → FilterChain) (next : Nat) : Prop :=
  ∀ chain, chain.id.value < next → change chain = chain

private theorem Spares.mono {change : FilterChain → FilterChain} {next later : Nat}
    (spares : Spares change later) (order : next ≤ later) : Spares change next :=
  fun chain drawn => spares chain (drawn.trans_le order)

/-- The numbers of all chains in an index are drawn. -/
def MatchIndex.Enclosed (index : MatchIndex) (next : Nat) : Prop :=
  ∀ change, Spares change next → index.relabel change = index

private theorem MatchIndex.Enclosed.mono {index : MatchIndex} {next later : Nat}
    (enclosed : index.Enclosed next) (order : next ≤ later) : index.Enclosed later :=
  fun change spares => enclosed change (spares.mono order)

/-- A chain of an enclosed index is spared. -/
theorem MatchIndex.Enclosed.of_mem {index : MatchIndex} {next : Nat}
    (enclosed : index.Enclosed next) {key : ReuseKey} {chain : FilterChain}
    (listed : (key, chain) ∈ index.chains) {change : FilterChain → FilterChain}
    (spares : Spares change next) : change chain = chain := by
  have chains : index.chains.map (Prod.map id change) = index.chains :=
    congrArg MatchIndex.chains (enclosed change spares)
  have each := List.map_inj_left.mp (chains.trans (List.map_id index.chains).symm)
  exact congrArg (·.2) (each (key, chain) listed)

namespace BuildState

/-- The numbers of all chains in a building are drawn. -/
def Enclosed (state : BuildState) : Prop :=
  ∀ change, Spares change state.nextChain →
    Layout.relabel change state.layout = state.layout ∧
      state.chains.map (Prod.map id change) = state.chains

private theorem enclosed_start (next : Nat) : (start next).Enclosed :=
  fun _ _ => ⟨rfl, rfl⟩

private theorem Enclosed.place {state : BuildState} (enclosed : state.Enclosed) (key : ReuseKey)
    (criteria : NormalCriteria) {chain : FilterChain}
    (spared : ∀ change, Spares change state.nextChain → change chain = chain) :
    (state.place key criteria chain).1.Enclosed := by
  intro change spares
  rw [place_nextChain] at spares
  obtain ⟨layout, chains⟩ := enclosed change spares
  have inserted := Layout.insertAll_relabel change state.layout chain criteria.slotKeys
  rw [layout, spared change spares] at inserted
  unfold BuildState.place
  cases taken : state.layout.insertAll chain criteria.slotKeys with
  | none => exact ⟨layout, chains⟩
  | some after =>
      rw [taken] at inserted
      constructor
      · exact (Option.some.inj inserted).symm
      · dsimp only
        rw [List.map_append, chains, List.map_singleton, Prod.map_apply, spared change spares]
        rfl

/-- A building may draw numbers. -/
theorem Enclosed.draw {state : BuildState} (enclosed : state.Enclosed)
    {after : BuildState} (layout : after.layout = state.layout) (chains : after.chains = state.chains)
    (order : state.nextChain ≤ after.nextChain) : after.Enclosed := by
  intro change spares
  rw [layout, chains]
  exact enclosed change (spares.mono order)

private theorem Enclosed.add {state : BuildState} (enclosed : state.Enclosed)
    (builder : ChainBuilder) {previous : Option MatchIndex}
    (before : ∀ index, previous = some index → index.Enclosed state.nextChain)
    (descriptor : FilterChainDescriptor) :
    (state.add builder previous descriptor).1.Enclosed := by
  unfold BuildState.add
  dsimp only
  split
  · exact enclosed
  · cases descriptor.criteria.normalize with
    | error error => exact enclosed
    | ok criteria =>
        dsimp only
        cases found : previous.bind (·.chainOf? descriptor.reuseKey) with
        | some chain =>
            obtain ⟨index, here, kept⟩ := Option.bind_eq_some_iff.mp found
            have counted : ({ state with reused := state.reused + 1 } : BuildState).Enclosed :=
              enclosed.draw rfl rfl (Nat.le_refl _)
            apply counted.place
            intro change spares
            exact (before index here).of_mem (MatchIndex.mem_of_chainOf? kept) spares
        | none =>
            dsimp only
            cases (builder descriptor).result with
            | refused error drawn => exact enclosed.draw rfl rfl (Nat.le_add_right _ _)
            | built blueprint =>
                dsimp only
                apply Enclosed.place
                · exact enclosed.draw rfl rfl (Nat.le_succ _)
                · intro change spares
                  apply spares
                  exact Nat.lt_succ_self _

private theorem Enclosed.addAll {state : BuildState} (enclosed : state.Enclosed)
    (builder : ChainBuilder) {previous : Option MatchIndex}
    (before : ∀ index, previous = some index → index.Enclosed state.nextChain)
    (descriptors : List FilterChainDescriptor) :
    (state.addAll builder previous descriptors).1.Enclosed := by
  induction descriptors generalizing state with
  | nil => exact enclosed
  | cons descriptor rest inductionHypothesis =>
      have added := enclosed.add builder before descriptor
      have order := add_nextChain_le builder previous state descriptor
      unfold BuildState.addAll
      generalize state.add builder previous descriptor = result at added order ⊢
      obtain ⟨after, fault⟩ := result
      cases fault with
      | some error => exact added
      | none =>
          apply inductionHypothesis added
          intro index here
          exact (before index here).mono order

end BuildState

private theorem MatchIndex.enclosed_of_accepted {generation : GenerationId} {listener : String}
    {descriptors : List FilterChainDescriptor} {builder : ChainBuilder}
    {previous : Option MatchIndex} {next : Nat} {index : MatchIndex}
    (before : ∀ old, previous = some old → old.Enclosed next)
    (accepted : (build generation listener descriptors builder previous next).outcome = .ok index) :
    index.Enclosed
      (build generation listener descriptors builder previous next).state.nextChain := by
  have enclosed := (BuildState.enclosed_start next).addAll builder before descriptors
  unfold build at accepted ⊢
  generalize (BuildState.start next).addAll builder previous descriptors = added
    at enclosed accepted ⊢
  obtain ⟨state, fault⟩ := added
  cases fault with
  | some error => exact absurd accepted (by simp)
  | none =>
      dsimp only at enclosed accepted ⊢
      cases compiled : state.layout.compile with
      | error cause =>
          rw [compiled] at accepted
          exact absurd accepted (by simp)
      | ok destinations =>
          rw [compiled] at accepted
          rw [← Except.ok.inj accepted]
          intro change spares
          obtain ⟨layout, chains⟩ := enclosed change spares
          have again := Layout.compile_relabel change state.layout
          rw [layout, compiled] at again
          have destinationsKept := Except.ok.inj again
          unfold relabel
          dsimp only
          rw [chains, ← destinationsKept]

namespace Registry

/-- The numbers of all chains in a registry are drawn. -/
structure Enclosed (registry : Registry) : Prop where
  active : ∀ index, registry.active = some index → index.Enclosed registry.nextChain
  warming : ∀ index, registry.warming = some index → index.Enclosed registry.nextChain

private theorem enclosed_new (listener : String) : (Registry.new listener).Enclosed where
  active := fun _ none => absurd none (by simp [Registry.new])
  warming := fun _ none => absurd none (by simp [Registry.new])

private theorem enclosed_swap {registry : Registry} {index : MatchIndex}
    (waiting : index.Enclosed registry.nextChain) : (registry.swap index).Enclosed where
  active := by
    intro other here
    rw [← Option.some.inj here]
    exact waiting
  warming := fun _ none => absurd none (by simp [Registry.swap])

namespace Enclosed

variable {registry : Registry} (enclosed : registry.Enclosed)

include enclosed

private theorem update (descriptors : List FilterChainDescriptor) (builder : ChainBuilder) :
    (registry.step (.update descriptors builder)).Enclosed := by
  have drawn := registry.nextChain_le_drawn descriptors builder
  have counted : (registry.drawn (registry.buildOf descriptors builder)).Enclosed :=
    ⟨fun index here => (enclosed.active index here).mono drawn,
      fun index here => (enclosed.warming index here).mono drawn⟩
  rw [step_update]
  unfold settle
  cases outcome : (registry.buildOf descriptors builder).outcome with
  | error error => exact counted
  | ok index =>
      have accepted := MatchIndex.enclosed_of_accepted enclosed.active outcome
      have warmed : ∀ targets : List InitTarget,
          ((registry.drawn (registry.buildOf descriptors builder)).warm index targets).Enclosed := by
        intro targets
        refine ⟨counted.active, ?_⟩
        intro other here
        rw [← Option.some.inj here]
        exact accepted
      dsimp only
      split
      · exact enclosed_swap accepted
      · exact warmed _

theorem step (event : Event) : (registry.step event).Enclosed := by
  cases event with
  | update descriptors builder => exact enclosed.update descriptors builder
  | ready target => exact ⟨enclosed.active, enclosed.warming⟩
  | dispatch =>
      have emptied : { registry with warmed := [] }.Enclosed := ⟨enclosed.active, enclosed.warming⟩
      unfold Registry.step dispatchWarmed
      rcases deliver_cases { registry with warmed := [] } registry.warmed with
        ⟨index, waiting, delivered⟩ | delivered
      · rw [delivered]
        exact enclosed_swap (enclosed.warming index waiting)
      · rw [delivered]
        exact emptied

theorem run (events : List Event) : (registry.run events).Enclosed := by
  induction events generalizing registry with
  | nil => exact enclosed
  | cons event rest inductionHypothesis => exact inductionHypothesis (enclosed.step event)

end Enclosed

theorem enclosed_ran (listener : String) (events : List Event) :
    (ran listener events).Enclosed :=
  (enclosed_new listener).run events

end Registry

/-! ## Renumbering what comes next -/

variable {moves : Renumbering}

private theorem spares_renumber {next : Nat} (beyond : next ≤ moves.chains.first) :
    Spares (FilterChain.renumber moves) next := by
  intro chain drawn
  unfold FilterChain.renumber FilterChainId.renumber
  rw [moves.chains.apply_of_lt (drawn.trans_le beyond)]

private theorem GenerationId.renumber_of_lt {id : GenerationId}
    (below : id.value < moves.generations.first) : id.renumber moves = id := by
  unfold renumber
  rw [moves.generations.apply_of_lt below]

private theorem MatchIndex.Enclosed.renumber {index : MatchIndex} {next : Nat}
    (enclosed : index.Enclosed next) (chains : next ≤ moves.chains.first)
    (generation : index.generation.value < moves.generations.first) :
    index.renumber moves = index := by
  unfold MatchIndex.renumber
  rw [enclosed _ (spares_renumber chains), GenerationId.renumber_of_lt generation]

namespace Registry

/-- Only numbers move that are not drawn yet. -/
structure Beyond (moves : Renumbering) (registry : Registry) : Prop where
  generations : registry.nextGeneration ≤ moves.generations.first
  chains : registry.nextChain ≤ moves.chains.first

/-- What comes next after a run comes next before it. -/
theorem Beyond.of_run {registry : Registry} {events : List Event}
    (beyond : (registry.run events).Beyond moves) : registry.Beyond moves := by
  induction events generalizing registry with
  | nil => exact beyond
  | cons event rest inductionHypothesis =>
      have after : (registry.step event).Beyond moves := inductionHypothesis beyond
      exact ⟨(registry.nextGeneration_le_step event).trans after.generations,
        (registry.nextChain_le_step event).trans after.chains⟩

/-- A renumbering of what comes next leaves everything in a registry as it is. -/
theorem renumber_of_beyond {registry : Registry} (inStep : registry.InStep)
    (enclosed : registry.Enclosed) (beyond : registry.Beyond moves) :
    registry.renumber moves = { registry with
      nextGeneration := moves.generations.apply registry.nextGeneration
      nextChain := moves.chains.apply registry.nextChain } := by
  have below : ∀ generation : GenerationId, generation.value < registry.nextGeneration →
      generation.renumber moves = generation :=
    fun generation drawn => GenerationId.renumber_of_lt (drawn.trans_le beyond.generations)
  have slot : ∀ index : Option MatchIndex,
      (∀ here, index = some here →
        here.Enclosed registry.nextChain ∧ here.generation.value < registry.nextGeneration) →
      index.map (MatchIndex.renumber moves) = index := by
    intro index known
    cases index with
    | none => rfl
    | some here =>
        obtain ⟨held, drawn⟩ := known here rfl
        exact congrArg some
          (held.renumber beyond.chains (drawn.trans_le beyond.generations))
  have active : registry.active.map (MatchIndex.renumber moves) = registry.active :=
    slot registry.active fun index here => ⟨enclosed.active index here, inStep.active index here⟩
  have warming : registry.warming.map (MatchIndex.renumber moves) = registry.warming :=
    slot registry.warming fun index here =>
      ⟨enclosed.warming index here, (inStep.warming index here).1⟩
  have warmups : registry.warmups.map (Warmup.renumber moves) = registry.warmups := by
    apply map_eq_self
    intro warmup listed
    have drawn := below warmup.generation (inStep.drawn warmup listed)
    have targets : warmup.outstanding.map (InitTarget.renumber moves) = warmup.outstanding := by
      apply map_eq_self
      intro target held
      unfold InitTarget.renumber
      rw [inStep.own warmup listed target held, drawn, ← inStep.own warmup listed target held]
    unfold Warmup.renumber
    rw [drawn, targets]
  have warmed : registry.warmed.map (GenerationId.renumber moves) = registry.warmed := by
    apply map_eq_self
    intro generation queued
    exact below generation (inStep.queued generation queued).1
  unfold renumber
  rw [active, warming, warmups, warmed]

/-! ## The numbers of one update -/

/-- Leaves out the numbers that an update draws. -/
def gap (registry : Registry) (descriptors : List FilterChainDescriptor) (builder : ChainBuilder) :
    Renumbering where
  generations := ⟨registry.nextGeneration, 1⟩
  chains := ⟨registry.nextChain,
    (registry.buildOf descriptors builder).state.nextChain - registry.nextChain⟩

variable {registry : Registry} (descriptors : List FilterChainDescriptor) (builder : ChainBuilder)

theorem beyond_gap : registry.Beyond (registry.gap descriptors builder) :=
  ⟨Nat.le_refl _, Nat.le_refl _⟩

theorem reached_gap : registry.Reached (registry.gap descriptors builder) :=
  ⟨Nat.le_refl _, Nat.le_refl _⟩

/-- Under the numbers that an update leaves, nothing but what comes next is another. -/
theorem renumber_gap (inStep : registry.InStep) (enclosed : registry.Enclosed) :
    registry.renumber (registry.gap descriptors builder) =
      registry.drawn (registry.buildOf descriptors builder) := by
  have order : registry.nextChain ≤ (registry.buildOf descriptors builder).state.nextChain :=
    registry.nextChain_le_drawn descriptors builder
  have generation : (registry.gap descriptors builder).generations.apply registry.nextGeneration =
      registry.nextGeneration + 1 := Shift.apply_of_le _ (Nat.le_refl _)
  have chain : (registry.gap descriptors builder).chains.apply registry.nextChain =
      registry.nextChain +
        ((registry.buildOf descriptors builder).state.nextChain - registry.nextChain) :=
    Shift.apply_of_le _ (Nat.le_refl _)
  rw [renumber_of_beyond inStep enclosed (beyond_gap descriptors builder), generation, chain,
    Nat.add_sub_cancel' order]
  rfl

end Registry

end Admission.Chain
