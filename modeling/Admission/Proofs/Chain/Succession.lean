import Admission.Chain.Registry
import Admission.Proofs.Chain.Selection

/-!
Contract: which chains outlive a change of the active generation.

An accepted batch keeps the chains of the generation that was active while it was built. That one is
still active when the batch replaces it, however much later, for a batch that becomes active in
between takes over the warming slot.

Owns:
- `Registry.swap` and `Registry.activationOf`, what it means that a warming generation becomes
  active, with `beginUpdate_cases` and `dispatchWarmed_cases`;
- `MatchIndex.Succeeds`, with `Succeeds.survives_iff`;
- `Registry.Consistent`, kept by every operation of a registry.
-/

namespace Admission.Chain

/-! ## Activations -/

namespace Registry

/-- An index becomes the active one. -/
def swap (registry : Registry) (index : MatchIndex) : Registry :=
  { registry with active := some index, warming := none }

/-- The activation of an index. -/
def activationOf (registry : Registry) (index : MatchIndex) : Activation where
  generation := index.generation
  previous := registry.active.map (·.generation)
  removed := (registry.active.map (registry.swap index).retire).getD []

/-- A build drew numbers. -/
def drawn (registry : Registry) (build : Build) : Registry :=
  { registry with
    nextGeneration := registry.nextGeneration + 1
    nextChain := build.state.nextChain }

/-- An accepted batch takes the warming slot. -/
def warm (registry : Registry) (index : MatchIndex) (targets : List InitTarget) : Registry :=
  { registry with
    warming := some index
    warmups := registry.warmups ++ [⟨index.generation, targets⟩] }

private theorem mem_insertId {id other : FilterChainId} {ids : List FilterChainId} :
    other ∈ insertId id ids ↔ other = id ∨ other ∈ ids := by
  induction ids with
  | nil => simp [insertId]
  | cons first rest inductionHypothesis =>
      unfold insertId
      split
      · rename_i same
        rw [same, List.mem_cons]
        tauto
      · split
        · rw [List.mem_cons]
        · rw [List.mem_cons, List.mem_cons, inductionHypothesis]
          tauto

private theorem mem_foldl_insertId {other : FilterChainId} {ids sorted : List FilterChainId} :
    other ∈ ids.foldl (fun ids id => insertId id ids) sorted ↔ other ∈ ids ∨ other ∈ sorted := by
  induction ids generalizing sorted with
  | nil => simp
  | cons first rest inductionHypothesis =>
      rw [List.foldl_cons, inductionHypothesis, mem_insertId, List.mem_cons]
      tauto

/-- An activation removes the chains that the index before had and the new one has not. -/
theorem mem_removed_iff {registry : Registry} {index : MatchIndex} {id : FilterChainId} :
    id ∈ (registry.activationOf index).removed ↔
      ∃ old, registry.active = some old ∧ id ∈ old.chainIds ∧ id ∉ index.chainIds := by
  unfold activationOf
  cases before : registry.active with
  | none => simp
  | some old =>
      show id ∈ (registry.swap index).retire old ↔ _
      unfold retire
      rw [mem_foldl_insertId, List.mem_filter]
      constructor
      · rintro (⟨had, lost⟩ | inNil)
        · exact ⟨old, rfl, had, of_decide_eq_true lost⟩
        · exact absurd inNil List.not_mem_nil
      · rintro ⟨other, same, had, lost⟩
        rw [← Option.some.inj same] at had
        exact .inl ⟨had, decide_eq_true lost⟩

private theorem completeWarmup_cases (registry : Registry) (generation : GenerationId) :
    (∃ index, registry.warming = some index ∧
      registry.completeWarmup generation =
        (registry.swap index, some (registry.activationOf index))) ∨
    registry.completeWarmup generation = (registry, none) := by
  unfold completeWarmup
  cases waiting : registry.warming with
  | none => exact .inr rfl
  | some index =>
      by_cases current : index.generation = generation
      · refine .inl ⟨index, rfl, ?_⟩
        dsimp only
        rw [if_pos current, ← current]
        rfl
      · refine .inr ?_
        dsimp only
        rw [if_neg current]

/-- The answers of an update, with the registry that each leaves. -/
inductive Update (registry : Registry) (build : Build) : Registry → UpdateReport → Prop
  | rejected {error : ConfigError} {report : UpdateReport}
      (refused : build.outcome = .error error) (answer : report.outcome = .error error) :
      Update registry build (registry.drawn build) report
  | warming {index : MatchIndex} {targets : List InitTarget} {report : UpdateReport}
      (accepted : build.outcome = .ok index) (waits : targets ≠ [])
      (answer : report.outcome = .ok (.warming index.generation targets.length)) :
      Update registry build ((registry.drawn build).warm index targets) report
  | activated {index : MatchIndex} {report : UpdateReport}
      (accepted : build.outcome = .ok index)
      (answer : report.outcome = .ok (.activated (registry.activationOf index))) :
      Update registry build (((registry.drawn build).warm index []).swap index) report

/-- The build of an update. -/
def buildOf (registry : Registry) (descriptors : List FilterChainDescriptor)
    (builder : ChainBuilder) : Build :=
  MatchIndex.build ⟨registry.nextGeneration⟩ registry.listener descriptors builder registry.active
    registry.nextChain

end Registry

theorem MatchIndex.generation_of_accepted {generation : GenerationId} {listener : String}
    {descriptors : List FilterChainDescriptor} {builder : ChainBuilder}
    {previous : Option MatchIndex} {next : Nat} {index : MatchIndex}
    (accepted : (build generation listener descriptors builder previous next).outcome = .ok index) :
    index.generation = generation := by
  unfold build at accepted
  split at accepted
  · exact absurd accepted (by simp)
  · split at accepted
    · exact absurd accepted (by simp)
    · rw [← Except.ok.inj accepted]

namespace Registry

theorem beginUpdate_cases (registry : Registry) (descriptors : List FilterChainDescriptor)
    (builder : ChainBuilder) :
    registry.Update (registry.buildOf descriptors builder)
      (registry.beginUpdate descriptors builder).1
      (registry.beginUpdate descriptors builder).2 := by
  have generation {index : MatchIndex}
      (accepted : (registry.buildOf descriptors builder).outcome = .ok index) :
      ⟨registry.nextGeneration⟩ = index.generation :=
    (MatchIndex.generation_of_accepted accepted).symm
  have folded : MatchIndex.build ⟨registry.nextGeneration⟩ registry.listener descriptors builder
      registry.active registry.nextChain = registry.buildOf descriptors builder := rfl
  unfold beginUpdate
  simp only [folded]
  generalize registry.buildOf descriptors builder = build at generation
  cases outcome : build.outcome with
  | error error => exact .rejected outcome rfl
  | ok index =>
      dsimp only
      rw [generation outcome]
      split
      · rename_i none
        rw [List.isEmpty_iff.mp none]
        have ready : ((registry.drawn build).warm index []).completeWarmup index.generation =
            (((registry.drawn build).warm index []).swap index,
              some (registry.activationOf index)) := if_pos rfl
        unfold drawn warm at ready
        rw [ready]
        exact .activated outcome rfl
      · rename_i some
        refine .warming outcome ?_ rfl
        intro none
        exact some (List.isEmpty_iff.mpr none)

theorem deliver_of_idle {registry : Registry} (idle : registry.warming = none)
    (generations : List GenerationId) : registry.deliver generations = (registry, []) := by
  induction generations with
  | nil => rfl
  | cons generation rest inductionHypothesis =>
      have nothing : registry.completeWarmup generation = (registry, none) := by
        unfold completeWarmup
        rw [idle]
      unfold deliver
      rw [nothing]
      dsimp only
      rw [inductionHypothesis]
      rfl

/-- However many notifications are queued, they activate the warming index at most once. -/
theorem deliver_cases (registry : Registry) (generations : List GenerationId) :
    (∃ index, registry.warming = some index ∧
      registry.deliver generations = (registry.swap index, [registry.activationOf index])) ∨
    registry.deliver generations = (registry, []) := by
  induction generations with
  | nil => exact .inr rfl
  | cons generation rest inductionHypothesis =>
      unfold deliver
      rcases registry.completeWarmup_cases generation with ⟨index, waiting, ready⟩ | stale
      · refine .inl ⟨index, waiting, ?_⟩
        have idle : (registry.swap index).warming = none := rfl
        rw [ready]
        dsimp only
        rw [deliver_of_idle idle]
        rfl
      · rw [stale]
        exact inductionHypothesis

end Registry

/-! ## Identities drawn by builds -/

namespace BuildState

variable (builder : ChainBuilder) (previous : Option MatchIndex)

theorem place_nextChain (state : BuildState) (key : ReuseKey) (criteria : NormalCriteria)
    (chain : FilterChain) : (state.place key criteria chain).1.nextChain = state.nextChain := by
  unfold place
  split <;> rfl

theorem add_nextChain_le (state : BuildState) (descriptor : FilterChainDescriptor) :
    state.nextChain ≤ (state.add builder previous descriptor).1.nextChain := by
  unfold add
  dsimp only
  by_cases again : state.chains.any (·.1.criteria = descriptor.reuseKey.criteria) = true
  · rw [if_pos again]
  · rw [if_neg again]
    cases descriptor.criteria.normalize with
    | error error => exact Nat.le_refl _
    | ok criteria =>
        dsimp only
        cases previous.bind (·.chainOf? descriptor.reuseKey) with
        | some chain =>
            dsimp only
            rw [place_nextChain]
        | none =>
            dsimp only
            cases (builder descriptor).result with
            | refused error drawn => exact Nat.le_add_right _ _
            | built blueprint =>
                dsimp only
                rw [place_nextChain]
                exact Nat.le_succ _

private theorem addAll_nextChain_le (state : BuildState)
    (descriptors : List FilterChainDescriptor) :
    state.nextChain ≤ (state.addAll builder previous descriptors).1.nextChain := by
  induction descriptors generalizing state with
  | nil => exact Nat.le_refl _
  | cons descriptor rest inductionHypothesis =>
      have here := add_nextChain_le builder previous state descriptor
      unfold addAll
      split
      · rename_i after error added
        rw [added] at here
        exact here
      · rename_i after added
        rw [added] at here
        exact here.trans (inductionHypothesis after)

end BuildState

theorem Registry.nextChain_le_drawn (registry : Registry) (descriptors : List FilterChainDescriptor)
    (builder : ChainBuilder) :
    registry.nextChain ≤ (registry.buildOf descriptors builder).state.nextChain := by
  have drawn := BuildState.addAll_nextChain_le builder registry.active
    (BuildState.start registry.nextChain) descriptors
  unfold buildOf MatchIndex.build
  split
  · rename_i state error added
    rw [added] at drawn
    exact drawn
  · rename_i state added
    rw [added] at drawn
    split <;> exact drawn

/-! ## Generations one after the other -/

/-- The batch of a generation. Updates are counted from one, also those that are rejected. -/
def batchOf (batches : List (List FilterChainDescriptor)) (generation : GenerationId) :
    Option (List FilterChainDescriptor) :=
  batches[generation.value - 1]?

private theorem batchOf_append {batches more : List (List FilterChainDescriptor)}
    {generation : GenerationId} {batch : List FilterChainDescriptor}
    (known : batchOf batches generation = some batch) :
    batchOf (batches ++ more) generation = some batch := by
  unfold batchOf at known ⊢
  have inside := (List.getElem?_eq_some_iff.mp known).1
  rw [List.getElem?_append_left inside]
  exact known

namespace MatchIndex

/-- The index was built from one of some batches, which is that of its generation. -/
structure BuiltFrom (index : MatchIndex) (batches : List (List FilterChainDescriptor)) : Prop where
  batch : ∃ batch, batchOf batches index.generation = some batch ∧
    index.chains.map (·.1) = batch.map (·.reuseKey)
  distinct : (index.chains.map (·.1)).Nodup
  ids : index.chainIds.Nodup
  finds : ∀ socket chain, (index.find socket).chain = some chain →
    ∃ key, (key, chain) ∈ index.chains

/-- Each chain is that of the earlier index under the same key, or the earlier index has neither
the key nor the chain. -/
def Succeeds (index : MatchIndex) (previous : Option MatchIndex) : Prop :=
  ∀ entry ∈ index.chains,
    previous.bind (·.chainOf? entry.1) = some entry.2 ∨
      (previous.bind (·.chainOf? entry.1) = none ∧
        ∀ old, previous = some old → entry.2.id ∉ old.chainIds)

theorem BuiltFrom.append {index : MatchIndex} {batches : List (List FilterChainDescriptor)}
    (builtFrom : index.BuiltFrom batches) (more : List (List FilterChainDescriptor)) :
    index.BuiltFrom (batches ++ more) := by
  obtain ⟨⟨batch, known, keys⟩, distinct, ids, finds⟩ := builtFrom
  exact ⟨⟨batch, batchOf_append known, keys⟩, distinct, ids, finds⟩

/-- The description of a chain is at its position in the batch. -/
theorem BuiltFrom.exists_description {index : MatchIndex}
    {batches : List (List FilterChainDescriptor)} (builtFrom : index.BuiltFrom batches)
    {entry : ReuseKey × FilterChain} (listed : entry ∈ index.chains) :
    ∃ batch, ∃ position : Nat, ∃ descriptor : FilterChainDescriptor,
      batchOf batches index.generation = some batch ∧
      batch[position]? = some descriptor ∧ index.chains[position]? = some entry ∧
      descriptor.reuseKey = entry.1 := by
  obtain ⟨batch, known, keys⟩ := builtFrom.batch
  obtain ⟨position, found⟩ := List.mem_iff_getElem?.mp listed
  have key : (batch.map (·.reuseKey))[position]? = some entry.1 := by
    rw [← keys, List.getElem?_map, found]
    rfl
  rw [List.getElem?_map, Option.map_eq_some_iff] at key
  obtain ⟨descriptor, described, same⟩ := key
  exact ⟨batch, position, descriptor, known, described, found, same⟩

/-- Chains of one identity are at one position. -/
theorem BuiltFrom.position_unique {index : MatchIndex}
    {batches : List (List FilterChainDescriptor)} (builtFrom : index.BuiltFrom batches)
    {left right : Nat} {leftEntry rightEntry : ReuseKey × FilterChain}
    (leftFound : index.chains[left]? = some leftEntry)
    (rightFound : index.chains[right]? = some rightEntry)
    (same : leftEntry.2.id = rightEntry.2.id) : left = right := by
  have inside : left < index.chainIds.length := by
    unfold chainIds
    rw [List.length_map]
    exact (List.getElem?_eq_some_iff.mp leftFound).1
  refine (List.getElem?_inj inside builtFrom.ids).mp ?_
  unfold chainIds
  rw [List.getElem?_map, List.getElem?_map, leftFound, rightFound]
  exact congrArg some same

section Accepted

variable {generation : GenerationId} {listener : String}
  {descriptors : List FilterChainDescriptor} {builder : ChainBuilder}
  {previous : Option MatchIndex} {next : Nat} {index : MatchIndex}

private theorem builtFrom_of_accepted
    (identified : ∀ index, previous = some index → index.Identified next)
    (accepted : (build generation listener descriptors builder previous next).outcome = .ok index)
    {batches : List (List FilterChainDescriptor)}
    (batch : batchOf batches generation = some descriptors) : index.BuiltFrom batches := by
  obtain ⟨chains, supplied, held, faultless, _, _⟩ := exists_placed_of_accepted accepted
  have keys : index.chains.map (·.1) = descriptors.map (·.reuseKey) := by
    rw [held]
    exact held_keys supplied
  refine ⟨⟨descriptors, ?_, keys⟩, ?_, (identified_of_accepted identified accepted).distinct,
    fun _ _ => mem_chains_of_find accepted⟩
  · rw [generation_of_accepted accepted]
    exact batch
  · rw [keys]
    exact reuseKeys_nodup faultless.different

theorem succeeds_of_accepted
    (identified : ∀ index, previous = some index → index.Identified next)
    (accepted : (build generation listener descriptors builder previous next).outcome = .ok index) :
    index.Succeeds previous := by
  obtain ⟨chains, supplied, held, _, _, _⟩ := exists_placed_of_accepted accepted
  intro entry listed
  rw [held] at listed
  obtain ⟨placement, placed, rfl⟩ := List.mem_map.mp listed
  rcases kept_or_made supplied placed with kept | ⟨absent, _, atLeast, _⟩
  · exact .inl kept
  · refine .inr ⟨absent, ?_⟩
    intro old earlier had
    exact Nat.lt_irrefl _ (((identified old earlier).drawn _ had).trans_le atLeast)

end Accepted

namespace Succeeds

variable {old index : MatchIndex} {key : ReuseKey} {chain : FilterChain}

/-- A chain whose key comes up again is kept. -/
theorem mem_of_key (succeeds : index.Succeeds (some old))
    (distinct : (old.chains.map (·.1)).Nodup) (had : (key, chain) ∈ old.chains)
    (again : key ∈ index.chains.map (·.1)) : (key, chain) ∈ index.chains := by
  obtain ⟨⟨_, other⟩, listed, rfl⟩ := List.mem_map.mp again
  have before := chainOf?_of_mem distinct had
  rcases succeeds _ listed with kept | ⟨absent, _⟩
  · have same : chain = other := Option.some.inj (before.symm.trans kept)
    rw [same]
    exact listed
  · exact absurd (before.symm.trans absent) (by simp)

/-- A chain whose identity comes up again is kept. -/
theorem mem_of_id (succeeds : index.Succeeds (some old)) (distinct : old.chainIds.Nodup)
    (had : (key, chain) ∈ old.chains) (again : chain.id ∈ index.chainIds) :
    (key, chain) ∈ index.chains := by
  obtain ⟨⟨other, another⟩, listed, same⟩ := List.mem_map.mp again
  rcases succeeds _ listed with kept | ⟨_, absent⟩
  · have entry := List.inj_on_of_nodup_map distinct had (mem_of_chainOf? kept) same.symm
    rw [entry]
    exact listed
  · refine absurd ?_ (absent old rfl)
    rw [same]
    exact mem_chainIds had

end Succeeds

end MatchIndex

/-! ## Registries -/

namespace Registry

/-- What holds of a registry after updates with some batches. The warming index succeeds the one that
is active now. -/
structure Consistent (registry : Registry) (batches : List (List FilterChainDescriptor)) : Prop where
  counted : registry.nextGeneration = batches.length + 1
  active : ∀ index, registry.active = some index →
    index.BuiltFrom batches ∧ index.Identified registry.nextChain
  warming : ∀ index, registry.warming = some index →
    index.BuiltFrom batches ∧ index.Identified registry.nextChain ∧
      index.Succeeds registry.active

theorem consistent_new (listener : String) : (Registry.new listener).Consistent [] where
  counted := rfl
  active := fun _ none => absurd none (by simp [Registry.new])
  warming := fun _ none => absurd none (by simp [Registry.new])

namespace Consistent

variable {registry : Registry} {batches : List (List FilterChainDescriptor)}

theorem swap (consistent : registry.Consistent batches) {index : MatchIndex}
    (waiting : registry.warming = some index) : (registry.swap index).Consistent batches where
  counted := consistent.counted
  active := by
    intro other here
    obtain ⟨builtFrom, identified, _⟩ := consistent.warming index waiting
    rw [← Option.some.inj here]
    exact ⟨builtFrom, identified⟩
  warming := fun _ none => absurd none (by simp [Registry.swap])

private theorem drawn (consistent : registry.Consistent batches)
    (descriptors : List FilterChainDescriptor) (builder : ChainBuilder) :
    (registry.drawn (registry.buildOf descriptors builder)).Consistent
      (batches ++ [descriptors]) := by
  have after := registry.nextChain_le_drawn descriptors builder
  refine ⟨?_, ?_, ?_⟩
  · show registry.nextGeneration + 1 = _
    rw [consistent.counted, List.length_append, List.length_singleton]
  · intro index here
    obtain ⟨builtFrom, identified⟩ := consistent.active index here
    exact ⟨builtFrom.append _, identified.mono after⟩
  · intro index waiting
    obtain ⟨builtFrom, identified, succeeds⟩ := consistent.warming index waiting
    exact ⟨builtFrom.append _, identified.mono after, succeeds⟩

/-- An accepted batch succeeds the index that is active while it is built. -/
theorem warm (consistent : registry.Consistent batches)
    {descriptors : List FilterChainDescriptor} {builder : ChainBuilder} {index : MatchIndex}
    (accepted : (registry.buildOf descriptors builder).outcome = .ok index)
    (targets : List InitTarget) :
    ((registry.drawn (registry.buildOf descriptors builder)).warm index targets).Consistent
      (batches ++ [descriptors]) := by
  have counted := consistent.drawn descriptors builder
  refine ⟨counted.counted, counted.active, ?_⟩
  intro other waiting
  rw [← Option.some.inj waiting]
  have identified : ∀ old, registry.active = some old → old.Identified registry.nextChain :=
    fun old here => (consistent.active old here).2
  refine ⟨MatchIndex.builtFrom_of_accepted identified accepted ?_,
    MatchIndex.identified_of_accepted identified accepted,
    MatchIndex.succeeds_of_accepted identified accepted⟩
  unfold batchOf
  show (batches ++ [descriptors])[registry.nextGeneration - 1]? = some descriptors
  rw [consistent.counted, Nat.add_sub_cancel, List.getElem?_concat_length]

theorem beginUpdate (consistent : registry.Consistent batches)
    (descriptors : List FilterChainDescriptor) (builder : ChainBuilder) :
    (registry.beginUpdate descriptors builder).1.Consistent (batches ++ [descriptors]) := by
  have update := registry.beginUpdate_cases descriptors builder
  generalize registry.beginUpdate descriptors builder = result at update ⊢
  obtain ⟨next, report⟩ := result
  cases update with
  | rejected _ _ => exact consistent.drawn descriptors builder
  | warming accepted _ _ => exact consistent.warm accepted _
  | activated accepted _ => exact (consistent.warm accepted []).swap rfl

theorem targetReady (consistent : registry.Consistent batches) (target : InitTarget) :
    (registry.targetReady target).Consistent batches where
  counted := consistent.counted
  active := consistent.active
  warming := consistent.warming

theorem dispatchWarmed (consistent : registry.Consistent batches) :
    registry.dispatchWarmed.1.Consistent batches := by
  have emptied : { registry with warmed := [] }.Consistent batches :=
    ⟨consistent.counted, consistent.active, consistent.warming⟩
  rcases deliver_cases { registry with warmed := [] } registry.warmed with
    ⟨index, waiting, delivered⟩ | delivered
  · unfold Registry.dispatchWarmed
    rw [delivered]
    exact emptied.swap waiting
  · unfold Registry.dispatchWarmed
    rw [delivered]
    exact emptied

end Consistent

end Registry

end Admission.Chain
