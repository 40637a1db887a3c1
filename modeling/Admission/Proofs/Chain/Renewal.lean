import Admission.Proofs.Chain.Readiness
import Admission.Proofs.Chain.Reordering

/-!
Contract: a batch whose descriptions all come from the index before it.

Owns:
- `BuildState.asked`, what a build has had from the builder, and that a description with a chain in
  the previous index adds nothing to it;
- `MatchIndex.Renews`, what the index of such a batch has in common with the previous one;
- `Registry.beginUpdate_of_renewed`, by which the batch of the active index comes in again at once.
-/

namespace Admission.Chain

open Admission.Listener
open BuildState (SuppliedAll)

/-- Every description has a chain in an index. -/
def AllKept (previous : Option MatchIndex) (descriptors : List FilterChainDescriptor) : Prop :=
  ∀ descriptor ∈ descriptors, ∃ chain,
    previous.bind (·.chainOf? descriptor.reuseKey) = some chain

/-! ## The builder is not asked -/

namespace BuildState

/-- What a build has had from the builder so far: warm-up targets, identities, chains. -/
def asked (state : BuildState) : List TargetRequest × Nat × Nat :=
  (state.targets, state.nextChain, state.built)

theorem place_asked (state : BuildState) (key : ReuseKey) (criteria : NormalCriteria)
    (chain : FilterChain) : (state.place key criteria chain).1.asked = state.asked := by
  unfold place
  split <;> rfl

variable {previous : Option MatchIndex}

private theorem add_of_kept {descriptor : FilterChainDescriptor} {chain : FilterChain}
    (kept : previous.bind (·.chainOf? descriptor.reuseKey) = some chain) (state : BuildState)
    (builder other : ChainBuilder) :
    state.add builder previous descriptor = state.add other previous descriptor ∧
      (state.add builder previous descriptor).1.asked = state.asked := by
  unfold add
  dsimp only
  split
  · exact ⟨rfl, rfl⟩
  · split
    · exact ⟨rfl, rfl⟩
    · rw [kept]
      exact ⟨rfl, place_asked _ _ _ _⟩

private theorem addAll_of_kept {descriptors : List FilterChainDescriptor}
    (kept : AllKept previous descriptors) (state : BuildState) (builder other : ChainBuilder) :
    state.addAll builder previous descriptors = state.addAll other previous descriptors ∧
      (state.addAll builder previous descriptors).1.asked = state.asked := by
  induction descriptors generalizing state with
  | nil => exact ⟨rfl, rfl⟩
  | cons descriptor rest inductionHypothesis =>
      obtain ⟨chain, found⟩ := kept descriptor List.mem_cons_self
      obtain ⟨same, asked⟩ := add_of_kept found state builder other
      have later : AllKept previous rest := by
        intro another listed
        exact kept another (List.mem_cons_of_mem _ listed)
      unfold addAll
      rw [same] at asked ⊢
      split
      · rename_i after error added
        rw [added] at asked
        exact ⟨rfl, asked⟩
      · rename_i after added
        rw [added] at asked
        obtain ⟨rest, restAsked⟩ := inductionHypothesis later after
        exact ⟨rest, restAsked.trans asked⟩

end BuildState

namespace MatchIndex

section Kept

variable {previous : Option MatchIndex} {descriptors : List FilterChainDescriptor}

/-- A build in which every chain is kept does not depend on the builder and has nothing from it. -/
theorem build_of_kept (kept : AllKept previous descriptors) (generation : GenerationId)
    (listener : String) (builder other : ChainBuilder) (next : Nat) :
    build generation listener descriptors builder previous next =
        build generation listener descriptors other previous next ∧
      (build generation listener descriptors builder previous next).state.asked =
        ([], next, 0) := by
  obtain ⟨same, asked⟩ := BuildState.addAll_of_kept kept (.start next) builder other
  unfold build
  rw [same] at asked ⊢
  refine ⟨rfl, ?_⟩
  split
  · rename_i state error added
    rw [added] at asked
    exact asked
  · rename_i state added
    rw [added] at asked
    split <;> exact asked

end Kept

/-! ## What is kept -/

/-- The chains of placed descriptions are found by key. -/
theorem chains_eq_filterMap {index : MatchIndex} {placed : List Placement}
    (held : index.chains = placed.map fun placement => (placement.1.reuseKey, placement.2))
    {chainOf : ReuseKey → Option FilterChain}
    (own : ∀ placement ∈ placed, chainOf placement.1.reuseKey = some placement.2) :
    index.chains = (placed.map (·.1)).filterMap fun descriptor =>
      (chainOf descriptor.reuseKey).map (descriptor.reuseKey, ·) := by
  rw [held]
  clear held
  induction placed with
  | nil => rfl
  | cons placement rest inductionHypothesis =>
      have here := own placement List.mem_cons_self
      have others := inductionHypothesis fun other listed => own other (List.mem_cons_of_mem _ listed)
      simp [here, others]

/-- An index has the same chains under the same keys as another, and look-ups find the same. -/
structure Renews (index previous : MatchIndex) : Prop where
  chains : index.chains.Perm previous.chains
  finds : ∀ socket, (index.find socket).chain = (previous.find socket).chain

section Renewed

variable {generation : GenerationId} {listener : String}
  {descriptors : List FilterChainDescriptor} {builder : ChainBuilder}
  {previous : Option MatchIndex} {next : Nat} {index : MatchIndex}

theorem allKept_of_accepted
    (accepted : (build generation listener descriptors builder previous next).outcome = .ok index) :
    AllKept (some index) descriptors := by
  obtain ⟨chains, supplied, held, faultless, _, _⟩ := exists_placed_of_accepted accepted
  intro descriptor listed
  rw [← List.map_fst_zip (Nat.le_of_eq supplied.length_eq)] at listed
  obtain ⟨placement, placed, rfl⟩ := List.mem_map.mp listed
  exact ⟨placement.2, chainOf?_of_placed supplied held faultless.different placed⟩

/-- An accepted batch is accepted again after its own index, in any order, with the same chains. -/
theorem exists_renewed
    (accepted : (build generation listener descriptors builder previous next).outcome = .ok index)
    {again : List FilterChainDescriptor} (permuted : descriptors.Perm again)
    (later : GenerationId) (another : String) (other : ChainBuilder) (first : Nat) :
    ∃ renewed, (build later another again other (some index) first).outcome = .ok renewed ∧
      renewed.Renews index := by
  have kept : AllKept (some index) again := by
    intro descriptor listed
    exact allKept_of_accepted accepted descriptor (permuted.mem_iff.mpr listed)
  obtain ⟨faultless, apart⟩ := (accepts_iff_faultless _ _ _ _ _ _).mp ⟨index, accepted⟩
  have suppliedAgain : ∀ descriptor ∈ again,
      (∃ chain, (some index).bind (·.chainOf? descriptor.reuseKey) = some chain) ∨
        ∃ blueprint, (other descriptor).result = .built blueprint :=
    fun descriptor listed => .inl (kept descriptor listed)
  obtain ⟨renewed, renewedAccepted⟩ := (accepts_iff_faultless later another again other
    (some index) first).mpr ⟨faultless.perm permuted suppliedAgain, apart.perm permuted⟩
  refine ⟨renewed, renewedAccepted, ?_⟩
  obtain ⟨chains, supplied, held, _, _, _⟩ := exists_placed_of_accepted accepted
  obtain ⟨others, alsoSupplied, alsoHeld, _, _, _⟩ := exists_placed_of_accepted renewedAccepted
  have ofOld : ∀ placement ∈ descriptors.zip chains,
      index.chainOf? placement.1.reuseKey = some placement.2 := by
    intro placement placed
    exact chainOf?_of_placed supplied held faultless.different placed
  have ofNew : ∀ placement ∈ again.zip others,
      index.chainOf? placement.1.reuseKey = some placement.2 := by
    intro placement placed
    obtain ⟨chain, found⟩ := kept placement.1 (List.of_mem_zip placed).1
    rcases kept_or_made alsoSupplied placed with same | ⟨absent, _⟩
    · exact same
    · exact absurd (found.symm.trans absent) (by simp)
  constructor
  · rw [chains_eq_filterMap held ofOld, chains_eq_filterMap alsoHeld ofNew,
      List.map_fst_zip (Nat.le_of_eq supplied.length_eq),
      List.map_fst_zip (Nat.le_of_eq alsoSupplied.length_eq)]
    exact permuted.symm.filterMap _
  · intro socket
    obtain ⟨selects, alsoSelects⟩ := selects_of_perm accepted renewedAccepted permuted socket
    cases outcome : selected descriptors socket with
    | none =>
        rw [outcome] at selects alsoSelects
        exact Eq.trans alsoSelects (Eq.symm selects)
    | some descriptor =>
        rw [outcome] at selects alsoSelects
        obtain ⟨_, chain, old, found⟩ := selects
        obtain ⟨listed, another, new, alsoFound⟩ := alsoSelects
        -- The new index has the chain of the old one under the description's key.
        have entry := mem_of_chainOf? new
        rw [alsoHeld] at entry
        obtain ⟨placement, placed, same⟩ := List.mem_map.mp entry
        have kept := ofNew placement placed
        rw [Prod.mk.injEq] at same
        rw [same.1, same.2] at kept
        rw [found, alsoFound]
        exact kept.symm.trans old

end Renewed

end MatchIndex

/-! ## Registries -/

namespace Registry

variable (registry : Registry) (descriptors : List FilterChainDescriptor)

/-- An update asks its builder in the build only. -/
theorem beginUpdate_congr {builder other : ChainBuilder}
    (same : registry.buildOf descriptors builder = registry.buildOf descriptors other) :
    registry.beginUpdate descriptors builder = registry.beginUpdate descriptors other := by
  have folded (builder : ChainBuilder) :
      MatchIndex.build ⟨registry.nextGeneration⟩ registry.listener descriptors builder
        registry.active registry.nextChain = registry.buildOf descriptors builder := rfl
  unfold beginUpdate
  simp only [folded, same]

variable {registry} {descriptors}

/-- A batch that renews the active index becomes active at once and removes no chain. -/
theorem beginUpdate_of_renewed {builder : ChainBuilder} {index renewed : MatchIndex}
    (here : registry.active = some index) (kept : AllKept registry.active descriptors)
    (accepted : (registry.buildOf descriptors builder).outcome = .ok renewed)
    (renews : renewed.Renews index) :
    (registry.beginUpdate descriptors builder).1.active = some renewed ∧
      ∃ activation, activation.removed = [] ∧
        (registry.beginUpdate descriptors builder).2.outcome = .ok (.activated activation) := by
  have asked : (registry.buildOf descriptors builder).state.asked = ([], registry.nextChain, 0) :=
    (MatchIndex.build_of_kept kept _ _ builder builder _).2
  have nothing : (registry.buildOf descriptors builder).handedOut renewed.generation = [] := by
    have targets : (registry.buildOf descriptors builder).state.targets = [] :=
      congrArg (·.1) asked
    unfold Build.handedOut
    rw [targets]
    rfl
  obtain ⟨after, answer⟩ := beginUpdate_of_ready accepted nothing
  refine ⟨by rw [after]; rfl, _, ?_, answer⟩
  rw [List.eq_nil_iff_forall_not_mem]
  intro id removed
  obtain ⟨old, active, had, lost⟩ := mem_removed_iff.mp removed
  obtain rfl : index = old := Option.some.inj (here.symm.trans active)
  exact lost ((renews.chains.map (·.2.id)).mem_iff.mpr had)

end Registry

end Admission.Chain
