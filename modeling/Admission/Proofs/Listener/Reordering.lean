import Admission.Proofs.Chain.Renewal
import Admission.Proofs.Listener.Events
import Admission.Proofs.Listener.Survival

/-!
Contract: the order of a batch does not matter, neither to a build nor to a listener that has the
batch already.

Owns: `Reapplied`, what it means that a batch comes in again without effect, and
`order_is_immaterial`.
-/

namespace Admission.Listener

open Admission.Chain

namespace ListenerState

variable {σ : Type}

/-- A batch comes in again: it becomes active at once, its builder is not asked, all chains are kept,
nothing but the registry changes, and look-ups give what they gave. -/
structure Reapplied (state : ListenerState σ) (index : MatchIndex)
    (descriptors : List FilterChainDescriptor) (builder : ChainBuilder) : Prop where
  activated : ∃ activation,
    (state.applyChains descriptors builder).1.outcome = .ok (.activated activation) ∧
      activation.removed = []
  unbuilt : (state.applyChains descriptors builder).1.built = 0 ∧
    (state.applyChains descriptors builder).1.targets = []
  unasked : ∀ other, state.applyChains descriptors other = state.applyChains descriptors builder
  undisturbed : ∃ registry, (state.applyChains descriptors builder).2 = { state with registry }
  chains : ∃ renewed, (state.applyChains descriptors builder).2.registry.active = some renewed ∧
    renewed.chains.Perm index.chains
  lookups : ∀ socket,
    ((state.applyChains descriptors builder).2.registry.lookup socket).1.map (·.chain) =
      (state.registry.lookup socket).1.map (·.chain)

private theorem chain_of_lookup {registry : Registry} {index : MatchIndex}
    (here : registry.active = some index) (socket : Socket) :
    (registry.lookup socket).1.map (·.chain) = (index.find socket).chain := by
  unfold Registry.lookup
  rw [here]
  dsimp only
  rw [Option.map_map]
  exact Option.map_id_apply

/-- A batch that renews the active index comes in again without effect. -/
theorem reapplied_of_renewed {state : ListenerState σ} {index : MatchIndex}
    {descriptors : List FilterChainDescriptor} (here : state.registry.active = some index)
    (kept : AllKept state.registry.active descriptors)
    (renewed : ∀ builder, ∃ renewed,
      (state.registry.buildOf descriptors builder).outcome = .ok renewed ∧ renewed.Renews index)
    (builder : ChainBuilder) : state.Reapplied index descriptors builder := by
  obtain ⟨renewed, accepted, renews⟩ := renewed builder
  obtain ⟨active, activation, nothing, answer⟩ :=
    Registry.beginUpdate_of_renewed here kept accepted renews
  have applied : state.applyChains descriptors builder =
      ((state.registry.beginUpdate descriptors builder).2,
        { state with registry := (state.registry.beginUpdate descriptors builder).1 }) := by
    unfold applyChains
    dsimp only
    rw [answer]
    dsimp only
    rw [nothing]
    rfl
  have unasked (other : ChainBuilder) :
      state.applyChains descriptors other = state.applyChains descriptors builder := by
    have same := Registry.beginUpdate_congr state.registry descriptors
      (MatchIndex.build_of_kept kept _ _ other builder _).1
    unfold applyChains
    rw [same]
  have report := state.registry.report_eq descriptors builder
  have asked : (state.registry.buildOf descriptors builder).state.asked =
      ([], state.registry.nextChain, 0) := (MatchIndex.build_of_kept kept _ _ builder builder _).2
  refine ⟨⟨activation, ?_, nothing⟩, ⟨?_, ?_⟩, unasked, ⟨_, congrArg (·.2) applied⟩,
    ⟨renewed, ?_, renews.chains⟩, ?_⟩
  · rw [applied]
    exact answer
  · rw [applied]
    exact (congrArg (·.built) report).trans (congrArg (·.2.2) asked)
  · have none : (state.registry.buildOf descriptors builder).state.targets = [] :=
      congrArg (·.1) asked
    rw [applied]
    refine (congrArg (·.targets) report).trans ?_
    unfold Build.handedOut
    rw [none]
    rfl
  · rw [applied]
    exact active
  · intro socket
    rw [applied, chain_of_lookup here]
    exact (chain_of_lookup active socket).trans (renews.finds socket)

/-- Two orders of one batch are accepted or not alike, by builders that build it, and look-ups select
the same description in both indices. The batch of the active generation, in any order, comes in
again without effect, whatever the builder. -/
theorem order_is_immaterial :
    (∀ (left right : List FilterChainDescriptor) (builder other : ChainBuilder), left.Perm right →
      Builds builder left → Builds other right →
      ∀ (generation later : GenerationId) (listener another : String)
        (previous earlier : Option MatchIndex) (next first : Nat),
      ((∃ index, (MatchIndex.build generation listener left builder previous next).outcome =
          .ok index) ↔
        ∃ index, (MatchIndex.build later another right other earlier first).outcome = .ok index) ∧
      ∀ index result,
        (MatchIndex.build generation listener left builder previous next).outcome = .ok index →
        (MatchIndex.build later another right other earlier first).outcome = .ok result →
        ∀ socket, ∃ selected, index.Selects left socket selected ∧
          result.Selects right socket selected) ∧
    (∀ (config : ListenerConfig σ) (carrier : Carrier) (operations : List Operation)
      (index : MatchIndex), (ran config carrier operations).registry.active = some index →
      ∃ origin : Origin config.name (events operations) index.generation,
        origin.build.outcome = .ok index ∧
        ∀ descriptors, origin.descriptors.Perm descriptors → ∀ builder,
          (ran config carrier operations).Reapplied index descriptors builder) := by
  constructor
  · intro left right builder other permuted builds otherBuilds generation later listener another
      previous earlier next first
    refine ⟨⟨?_, ?_⟩, ?_⟩
    · rintro ⟨index, accepted⟩
      exact MatchIndex.exists_accepted_of_perm accepted permuted otherBuilds
    · rintro ⟨index, accepted⟩
      exact MatchIndex.exists_accepted_of_perm accepted permuted.symm builds
    · intro index result accepted alsoAccepted socket
      exact ⟨_, MatchIndex.selects_of_perm accepted alsoAccepted permuted socket⟩
  · intro config carrier operations index here
    have active : (Registry.ran config.name (events operations)).active = some index := by
      rw [← registry_ran]
      exact here
    obtain ⟨origin, accepted⟩ := Registry.exists_origin_of_active _ _ active
    refine ⟨origin, accepted, ?_⟩
    intro descriptors permuted builder
    have kept : AllKept (ran config carrier operations).registry.active descriptors := by
      rw [here]
      intro descriptor listed
      exact MatchIndex.allKept_of_accepted accepted descriptor (permuted.mem_iff.mpr listed)
    refine reapplied_of_renewed here kept ?_ builder
    intro other
    unfold Registry.buildOf
    rw [here]
    exact MatchIndex.exists_renewed accepted permuted _ _ other _

/-- The builder of the batch that is put in order both ways. -/
def plainBuilder : ChainBuilder :=
  BuildScript.builder ⟨none, false, []⟩

theorem order_is_immaterial_wildcardBatch :
    (MatchIndex.wildcardBatch.Perm MatchIndex.wildcardBatch.reverse ∧
      Builds plainBuilder MatchIndex.wildcardBatch ∧
      ∃ index result,
        (MatchIndex.build ⟨1⟩ "listener" MatchIndex.wildcardBatch plainBuilder none 1).outcome =
            .ok index ∧
          (MatchIndex.build ⟨1⟩ "listener" MatchIndex.wildcardBatch.reverse plainBuilder none
            1).outcome = .ok result ∧
          ∀ socket, ∃ selected, index.Selects MatchIndex.wildcardBatch socket selected ∧
            result.Selects MatchIndex.wildcardBatch.reverse socket selected) ∧
    ∃ index,
      (ran unfiltered .recorded [.apply MatchIndex.wildcardBatch plainBuilder]).registry.active =
          some index ∧
        (ran unfiltered .recorded [.apply MatchIndex.wildcardBatch plainBuilder]).Reapplied index
          MatchIndex.wildcardBatch.reverse plainBuilder := by
  have permuted : MatchIndex.wildcardBatch.Perm MatchIndex.wildcardBatch.reverse :=
    (List.reverse_perm _).symm
  have builds (batch : List FilterChainDescriptor) : Builds plainBuilder batch :=
    fun descriptor _ => ⟨BuildScript.blueprint descriptor, rfl⟩
  obtain ⟨orders, again⟩ := order_is_immaterial (σ := Unit)
  constructor
  · refine ⟨permuted, builds _, ?_⟩
    obtain ⟨index, accepted⟩ := MatchIndex.wildcardBatch_accepted
    obtain ⟨both, select⟩ := orders _ _ plainBuilder plainBuilder permuted (builds _) (builds _)
      ⟨1⟩ ⟨1⟩ "listener" "listener" none none 1 1
    obtain ⟨result, alsoAccepted⟩ := both.mp ⟨index, accepted⟩
    exact ⟨index, result, accepted, alsoAccepted, select index result accepted alsoAccepted⟩
  · have present : (ran unfiltered .recorded
        [.apply MatchIndex.wildcardBatch plainBuilder]).registry.active.isSome = true := by
      decide +kernel
    obtain ⟨index, here⟩ := Option.isSome_iff_exists.mp present
    obtain ⟨origin, _, reapplied⟩ := again unfiltered .recorded _ index here
    refine ⟨index, here, reapplied _ ?_ plainBuilder⟩
    -- The run has one update.
    have split := origin.split
    match earlier : origin.earlier with
    | [] =>
        rw [earlier, List.nil_append] at split
        injection split with update
        injection update with batch
        rw [← batch]
        exact permuted
    | _ :: _ =>
        rw [earlier] at split
        have lengths := congrArg List.length split
        simp [events, Operation.event?] at lengths

end ListenerState

end Admission.Listener
