import Admission.Proofs.Chain.Selection

/-!
Contract: which description a look-up selects.

Owns:
- `MatchIndex.Selects`, by which the outcome of a look-up is told by a description of the batch and
  not by a chain, so that look-ups in indices with different chains can be compared;
- `selected`, the description that the flat rules of a batch leave for a socket;
- `selects_iff`: a look-up in the index of an accepted batch selects this description and no other.
-/

namespace Admission.Chain

open Admission.Listener
open BuildState (SuppliedAll)

/-- The description whose slot is left when the slots of a batch are narrowed for a socket. -/
def selected (descriptors : List FilterChainDescriptor) (socket : Socket) :
    Option FilterChainDescriptor :=
  ((rulesOf descriptors).narrow socket).head?.map (·.2)

namespace MatchIndex

/-- A look-up selects a description of the batch if it finds the chain that the index has under the
description's key, and none if it finds no chain. -/
def Selects (index : MatchIndex) (descriptors : List FilterChainDescriptor) (socket : Socket) :
    Option FilterChainDescriptor → Prop
  | some descriptor => descriptor ∈ descriptors ∧ ∃ chain,
      index.chainOf? descriptor.reuseKey = some chain ∧ (index.find socket).chain = some chain
  | none => (index.find socket).chain = none

variable {generation : GenerationId} {listener : String}
  {descriptors : List FilterChainDescriptor} {builder : ChainBuilder}
  {previous : Option MatchIndex} {next last : Nat} {index : MatchIndex}

/-- An index has a placed chain under the key of its description. -/
theorem chainOf?_of_placed {chains : List FilterChain}
    (supplied : SuppliedAll builder previous descriptors next chains last)
    (held : index.chains = (descriptors.zip chains).map fun placement =>
      (placement.1.reuseKey, placement.2))
    (different : (descriptors.map (·.criteria)).Nodup) {placement : Placement}
    (placed : placement ∈ descriptors.zip chains) :
    index.chainOf? placement.1.reuseKey = some placement.2 := by
  have keysDistinct : (index.chains.map (·.1)).Nodup := by
    rw [held, held_keys supplied]
    exact reuseKeys_nodup different
  refine chainOf?_of_mem keysDistinct ?_
  rw [held]
  exact List.mem_map.mpr ⟨placement, placed, rfl⟩

/-- A look-up selects the description that the flat rules leave. -/
theorem selects_selected
    (accepted : (build generation listener descriptors builder previous next).outcome = .ok index)
    (socket : Socket) : index.Selects descriptors socket (selected descriptors socket) := by
  obtain ⟨chains, supplied, held, faultless, _, answers⟩ := exists_placed_of_accepted accepted
  have answer := answers socket
  have flat : selected descriptors socket =
      ((rulesOfPlaced (descriptors.zip chains)).narrow socket).head?.map (·.2.1) := by
    rw [selected, ← rulesOfPlaced_descriptors supplied.length_eq, Rules.narrow_withOwners,
      Rules.withOwners, List.head?_map, Option.map_map]
    rfl
  rw [flat]
  cases left : (rulesOfPlaced (descriptors.zip chains)).narrow socket with
  | nil =>
      rw [left] at answer
      cases found : (index.find socket).chain with
      | none => exact found
      | some chain =>
          rw [found] at answer
          exact absurd rfl answer.1
  | cons rule rest =>
      have ofRule : rule ∈ (rulesOfPlaced (descriptors.zip chains)).narrow socket := by
        rw [left]
        exact List.mem_cons_self
      have placed := placed_of_left ofRule
      have held := chainOf?_of_placed supplied held faultless.different placed
      refine ⟨(List.of_mem_zip placed).1, rule.2.2, held, ?_⟩
      rw [left] at answer
      cases found : (index.find socket).chain with
      | none =>
          rw [found] at answer
          exact absurd answer (by simp [Answers, Finds, Rules.withOwners])
      | some chain =>
          rw [found] at answer
          have owner : rule.2.2 = chain := answer.2 (rule.1, rule.2.2) List.mem_cons_self
          rw [owner]

/-- Where the identities of chains differ, a look-up selects one description. -/
theorem Selects.unique
    (accepted : (build generation listener descriptors builder previous next).outcome = .ok index)
    (distinct : index.chainIds.Nodup) {socket : Socket} {left right : Option FilterChainDescriptor}
    (selectsLeft : index.Selects descriptors socket left)
    (selectsRight : index.Selects descriptors socket right) : left = right := by
  obtain ⟨_, _, _, faultless, _, _⟩ := exists_placed_of_accepted accepted
  cases left with
  | none =>
      cases right with
      | none => rfl
      | some descriptor =>
          obtain ⟨_, chain, _, found⟩ := selectsRight
          exact absurd (found.symm.trans selectsLeft) (by simp)
  | some descriptor =>
      obtain ⟨listed, chain, held, found⟩ := selectsLeft
      cases right with
      | none => exact absurd (found.symm.trans selectsRight) (by simp)
      | some other =>
          obtain ⟨otherListed, another, otherHeld, alsoFound⟩ := selectsRight
          obtain rfl : chain = another := Option.some.inj (found.symm.trans alsoFound)
          -- One chain stands under one key, and one key in the batch belongs to one description.
          have entries := List.inj_on_of_nodup_map distinct (mem_of_chainOf? held)
            (mem_of_chainOf? otherHeld) rfl
          have criteria := congrArg (fun entry => entry.1.criteria) entries
          rw [List.inj_on_of_nodup_map faultless.different listed otherListed criteria]

/-- A look-up in the index of an accepted batch selects what the flat rules leave and nothing
else. -/
theorem selects_iff (reached : Reached previous next)
    (accepted : (build generation listener descriptors builder previous next).outcome = .ok index)
    {socket : Socket} {outcome : Option FilterChainDescriptor} :
    index.Selects descriptors socket outcome ↔ outcome = selected descriptors socket := by
  have distinct := (identified_of_accepted reached.identified accepted).distinct
  have selects := selects_selected accepted socket
  constructor
  · intro alsoSelects
    exact alsoSelects.unique accepted distinct selects
  · rintro rfl
    exact selects

end MatchIndex

end Admission.Chain
