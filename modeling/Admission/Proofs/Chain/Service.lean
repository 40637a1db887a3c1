import Admission.Chain.Builtin
import Admission.Proofs.Chain.Renewal
import Admission.Proofs.Chain.Reuse

/-!
Contract: whose chains an index has, when batches come in one after another.

A chain may come from an earlier batch, which may have it from one before. However far back it was
made, it was made for a description that is alike.

Owns:
- `MatchIndex.Serves`, that the chains of an index are those of a batch, kept by every build
  (`serves_of_accepted`);
- `Prompt`, a builder without warm-up targets, whose batches become active at once
  (`activated_of_accepted`);
- `Registry.removed_eq_nil`, by which a batch that has the descriptions of the active one removes no
  chain.
-/

namespace Admission.Chain

open Admission.Listener
open BuildState (SuppliedAll)

namespace FilterChainDescriptor

private theorem Alike.trans {first second third : FilterChainDescriptor}
    (before : first.Alike second) (after : second.Alike third) : first.Alike third := by
  obtain ⟨criteria, content⟩ := alike_iff.mp before
  obtain ⟨otherCriteria, otherContent⟩ := alike_iff.mp after
  exact alike_iff.mpr ⟨criteria.trans otherCriteria, content.trans otherContent⟩

private theorem Alike.reuseKey_eq {left right : FilterChainDescriptor} (alike : left.Alike right) :
    left.reuseKey = right.reuseKey := by
  obtain ⟨criteria, content⟩ := alike_iff.mp alike
  exact congrArg₂ ReuseKey.mk criteria (congrArg Digest.sha256Hex content)

end FilterChainDescriptor

namespace MatchIndex

/-- The chains of an index are those of a batch: there is one for each description, in order, made for
a description that is alike, and a look-up finds the chain of the description that the flat rules
leave. -/
structure Serves (index : MatchIndex) (builder : ChainBuilder) (batch : List FilterChainDescriptor) :
    Prop where
  keys : index.chains.map (·.1) = batch.map (·.reuseKey)
  distinct : (index.chains.map (·.1)).Nodup
  made : ∀ descriptor ∈ batch, ∃ chain, index.chainOf? descriptor.reuseKey = some chain ∧
    ∃ earlier : FilterChainDescriptor, earlier.Alike descriptor ∧
      (builder earlier).result = .built chain.toBlueprint
  selects : ∀ socket, index.Selects batch socket (selected batch socket)

variable {generation : GenerationId} {listener : String}
  {batch former : List FilterChainDescriptor} {builder : ChainBuilder}
  {previous : Option MatchIndex} {next : Nat} {old index : MatchIndex}

/-- Where the chain of a description was taken over, it was made for one that is alike. -/
theorem Serves.made_of_kept {texts : Set (List UInt8)} (collisionFree : CollisionFree texts)
    (serves : old.Serves builder former)
    (formerTexts : ∀ descriptor ∈ former, descriptor.contentBytes ∈ texts)
    {descriptor : FilterChainDescriptor} (text : descriptor.contentBytes ∈ texts)
    {chain : FilterChain} (kept : old.chainOf? descriptor.reuseKey = some chain) :
    ∃ earlier : FilterChainDescriptor, earlier.Alike descriptor ∧
      (builder earlier).result = .built chain.toBlueprint := by
  have known : descriptor.reuseKey ∈ former.map (·.reuseKey) := by
    rw [← serves.keys]
    exact List.mem_map_of_mem (mem_of_chainOf? kept)
  obtain ⟨other, listed, same⟩ := List.mem_map.mp known
  have alike := (FilterChainDescriptor.reuseKey_eq_iff collisionFree (formerTexts other listed)
    text).mp same
  obtain ⟨own, held, earlier, earlierAlike, built⟩ := serves.made other listed
  rw [same, kept] at held
  obtain rfl : chain = own := Option.some.inj held
  exact ⟨earlier, earlierAlike.trans alike, built⟩

/-- The chains of the index of an accepted batch are those of the batch, if those of the previous
index are those of its batch. -/
theorem serves_of_accepted {texts : Set (List UInt8)} (collisionFree : CollisionFree texts)
    (batchTexts : ∀ descriptor ∈ batch, descriptor.contentBytes ∈ texts)
    (before : ∀ old, previous = some old → ∃ former, old.Serves builder former ∧
      ∀ descriptor ∈ former, descriptor.contentBytes ∈ texts)
    (accepted : (build generation listener batch builder previous next).outcome = .ok index) :
    index.Serves builder batch := by
  obtain ⟨chains, supplied, held, faultless, _, _⟩ := exists_placed_of_accepted accepted
  have keys : index.chains.map (·.1) = batch.map (·.reuseKey) := by
    rw [held]
    exact held_keys supplied
  refine ⟨keys, ?_, ?_, selects_selected accepted⟩
  · rw [keys]
    exact reuseKeys_nodup faultless.different
  · intro descriptor listed
    have text := batchTexts descriptor listed
    rw [← List.map_fst_zip (Nat.le_of_eq supplied.length_eq)] at listed
    obtain ⟨placement, placed, rfl⟩ := List.mem_map.mp listed
    refine ⟨placement.2, chainOf?_of_placed supplied held faultless.different placed, ?_⟩
    rcases kept_or_made supplied placed with kept | ⟨_, built, _⟩
    · obtain ⟨old, here, found⟩ := Option.bind_eq_some_iff.mp kept
      obtain ⟨former, serves, formerTexts⟩ := before old here
      exact serves.made_of_kept collisionFree formerTexts text found
    · exact ⟨placement.1, FilterChainDescriptor.alike_iff.mpr ⟨rfl, rfl⟩, built⟩

/-- Whether a batch is accepted depends on the previous index, and not on numbers and names. -/
theorem accepts_congr {later : GenerationId} {another : String} {first : Nat} :
    (∃ index, (build generation listener batch builder previous next).outcome = .ok index) ↔
      ∃ index, (build later another batch builder previous first).outcome = .ok index := by
  rw [accepts_iff_faultless, accepts_iff_faultless]

/-- An accepted batch keeps the chains whose descriptions it has. -/
theorem Serves.mem_of_alike (serves : old.Serves builder former)
    (again : ∀ earlier ∈ former, ∃ descriptor ∈ batch, descriptor.Alike earlier)
    (accepted : (build generation listener batch builder (some old) next).outcome = .ok index)
    {entry : ReuseKey × FilterChain} (had : entry ∈ old.chains) : entry ∈ index.chains := by
  obtain ⟨chains, supplied, held, _, _, _⟩ := exists_placed_of_accepted accepted
  have known : entry.1 ∈ former.map (·.reuseKey) := by
    rw [← serves.keys]
    exact List.mem_map_of_mem had
  obtain ⟨earlier, earlierListed, key⟩ := List.mem_map.mp known
  obtain ⟨descriptor, listed, alike⟩ := again earlier earlierListed
  have same : descriptor.reuseKey = entry.1 := alike.reuseKey_eq.trans key
  have own : old.chainOf? descriptor.reuseKey = some entry.2 := by
    rw [same]
    exact chainOf?_of_mem serves.distinct had
  rw [← List.map_fst_zip (Nat.le_of_eq supplied.length_eq)] at listed
  obtain ⟨placement, placed, rfl⟩ := List.mem_map.mp listed
  rw [held]
  refine List.mem_map.mpr ⟨placement, placed, ?_⟩
  rcases kept_or_made supplied placed with kept | ⟨absent, _⟩
  · rw [Option.bind_some, own] at kept
    rw [same, ← Option.some.inj kept]
  · rw [Option.bind_some, own] at absent
    exact absurd absent (Option.some_ne_none _)

end MatchIndex

/-! ## Builders without warm-up targets -/

/-- The builder registers no warm-up targets. -/
def Prompt (builder : ChainBuilder) : Prop :=
  ∀ descriptor, (builder descriptor).targets = []

theorem prompt_builtin : Prompt Builtin.builder :=
  fun _ => rfl

namespace BuildState

variable {builder : ChainBuilder} {previous : Option MatchIndex}

private theorem place_targets (state : BuildState) (key : ReuseKey) (criteria : NormalCriteria)
    (chain : FilterChain) : (state.place key criteria chain).1.targets = state.targets :=
  congrArg (·.1) (state.place_asked key criteria chain)

private theorem add_targets (prompt : Prompt builder) (state : BuildState)
    (descriptor : FilterChainDescriptor) :
    (state.add builder previous descriptor).1.targets = state.targets := by
  have none : state.targets ++ (builder descriptor).targets = state.targets := by
    rw [prompt descriptor, List.append_nil]
  unfold add
  dsimp only
  split
  · rfl
  · split
    · rfl
    · split
      · exact place_targets _ _ _ _
      · split
        · exact none
        · exact (place_targets _ _ _ _).trans none

private theorem addAll_targets (prompt : Prompt builder) (state : BuildState)
    (batch : List FilterChainDescriptor) :
    (state.addAll builder previous batch).1.targets = state.targets := by
  induction batch generalizing state with
  | nil => rfl
  | cons descriptor rest inductionHypothesis =>
      have here : (state.add builder previous descriptor).1.targets = state.targets :=
        add_targets prompt state descriptor
      unfold addAll
      split
      · rename_i after error added
        rw [added] at here
        exact here
      · rename_i after added
        rw [added] at here
        exact (inductionHypothesis after).trans here

end BuildState

private theorem MatchIndex.build_targets {builder : ChainBuilder} (prompt : Prompt builder)
    (generation : GenerationId) (listener : String) (batch : List FilterChainDescriptor)
    (previous : Option MatchIndex) (next : Nat) :
    (build generation listener batch builder previous next).state.targets = [] := by
  have none : ((BuildState.start next).addAll builder previous batch).1.targets = [] :=
    BuildState.addAll_targets prompt (.start next) batch
  unfold build
  split
  · rename_i state error added
    rw [added] at none
    exact none
  · rename_i state added
    rw [added] at none
    split <;> exact none

/-! ## Registries -/

namespace Registry

variable {registry : Registry} {builder : ChainBuilder} {batch : List FilterChainDescriptor}
  {index : MatchIndex}

/-- An accepted batch of a builder without warm-up targets becomes active at once. -/
theorem activated_of_accepted (prompt : Prompt builder)
    (accepted : (registry.buildOf batch builder).outcome = .ok index) :
    (registry.beginUpdate batch builder).1 =
        ((registry.drawn (registry.buildOf batch builder)).warm index []).swap index ∧
      (registry.beginUpdate batch builder).2.outcome =
        .ok (.activated (registry.activationOf index)) := by
  refine beginUpdate_of_ready accepted ?_
  unfold Build.handedOut buildOf
  rw [MatchIndex.build_targets prompt]
  rfl

/-- Nothing is removed where every description of the active batch comes in again. -/
theorem removed_eq_nil {former : List FilterChainDescriptor}
    (serves : ∀ old, registry.active = some old → old.Serves builder former)
    (again : ∀ earlier ∈ former, ∃ descriptor ∈ batch, descriptor.Alike earlier)
    (accepted : (registry.buildOf batch builder).outcome = .ok index) :
    (registry.activationOf index).removed = [] := by
  rw [List.eq_nil_iff_forall_not_mem]
  intro id removed
  obtain ⟨old, here, had, lost⟩ := mem_removed_iff.mp removed
  obtain ⟨entry, listed, rfl⟩ := List.mem_map.mp had
  unfold buildOf at accepted
  rw [here] at accepted
  exact lost (MatchIndex.mem_chainIds ((serves old here).mem_of_alike again accepted listed))

end Registry

end Admission.Chain
