import Admission.Proofs.Chain.Meaning
import Admission.Proofs.Chain.Slots

/-!
Contract: what the building of a batch has done after each description, and when it finds a fault.

The invariant names the descriptions that are placed, each with its chain: the layout stands for
their claims, and nothing is claimed twice.

Owns:
- `Supplied`, where the chain of a description comes from;
- `BuildState.Covers`, the invariant, with `add_cases` for one description and `addAll_cases` for a
  batch;
- `build_cases`: an accepted batch is `Faultless` and free of collisions, a refused one is not.
-/

namespace Admission.Chain

open Admission.Net

/-- A description with the chain that it is given. -/
abbrev Placement := FilterChainDescriptor × FilterChain

namespace MatchCriteria

/-- The slot keys of criteria; none if they do not pass validation. -/
def slotKeys (criteria : MatchCriteria) : List SlotKey :=
  match criteria.normalize with
  | .ok normal => normal.slotKeys
  | .error _ => []

theorem slotKeys_of_normalize {criteria : MatchCriteria} {normal : NormalCriteria}
    (ok : criteria.normalize = .ok normal) : criteria.slotKeys = normal.slotKeys := by
  rw [slotKeys, ok]

theorem mem_slots_iff {criteria : MatchCriteria} (valid : criteria.Valid) {slot : Slot} :
    slot ∈ criteria.slots ↔ ∃ key ∈ criteria.slotKeys, slot ∈ key.slots := by
  obtain ⟨normal, ok⟩ := normalize_isOk_iff.mpr valid
  rw [← (slots_perm ok).mem_iff, slotKeys_of_normalize ok, NormalCriteria.slots, List.mem_flatMap]

end MatchCriteria

/-- The claims of placed descriptions. -/
def claimsOf (placed : List Placement) : Set Claim :=
  {claim | ∃ placement ∈ placed, claim.1 ∈ placement.1.criteria.slotKeys ∧ claim.2 = placement.2}

/-! ## Slots taken one after another -/

namespace Layout

/-- Slot keys come in together exactly if they differ from each other and none is taken. -/
theorem insertAll_cases {layout : Layout} {claims : Set Claim} (holds : layout.Holds claims)
    (chain : FilterChain) (keys : List SlotKey) :
    (∃ result, layout.insertAll chain keys = some result ∧ keys.Nodup ∧
      (∀ key ∈ keys, ∀ claim ∈ claims, claim.1 ≠ key) ∧
      result.Holds (claims ∪ {claim | claim.1 ∈ keys ∧ claim.2 = chain})) ∨
    (layout.insertAll chain keys = none ∧
      ¬ (keys.Nodup ∧ ∀ key ∈ keys, ∀ claim ∈ claims, claim.1 ≠ key)) := by
  induction keys generalizing layout claims with
  | nil =>
      refine .inl ⟨layout, rfl, .nil, by simp, ?_⟩
      simpa using holds
  | cons key keys inductionHypothesis =>
      rw [insertAll]
      rcases insert_cases holds key chain with
        ⟨after, inserted, free, afterHolds⟩ | ⟨refused, claim, member, taken⟩
      · rw [inserted, Option.bind_some]
        rcases inductionHypothesis afterHolds with
          ⟨result, all, distinct, apart, resultHolds⟩ | ⟨refused, clash⟩
        · refine .inl ⟨result, all, ?_, ?_, ?_⟩
          · refine List.nodup_cons.mpr ⟨?_, distinct⟩
            intro listed
            exact apart key listed (key, chain) (Set.mem_insert _ _) rfl
          · intro other listed claim member
            rcases List.mem_cons.mp listed with rfl | later
            · exact free claim member
            · exact apart other later claim (Set.mem_insert_of_mem _ member)
          · have same : claims ∪ {claim | claim.1 ∈ key :: keys ∧ claim.2 = chain} =
                Insert.insert (key, chain) claims ∪ {claim | claim.1 ∈ keys ∧ claim.2 = chain} := by
              ext claim
              simp only [Set.mem_union, Set.mem_insert_iff, Set.mem_ofPred_eq, List.mem_cons,
                Prod.ext_iff]
              tauto
            rw [same]
            exact resultHolds
        · refine .inr ⟨refused, ?_⟩
          rintro ⟨distinct, apart⟩
          obtain ⟨fresh, later⟩ := List.nodup_cons.mp distinct
          refine clash ⟨later, ?_⟩
          rintro other listed claim (rfl | member)
          · rintro rfl
            exact fresh listed
          · exact apart other (List.mem_cons_of_mem _ listed) claim member
      · refine .inr ⟨by rw [refused]; rfl, ?_⟩
        rintro ⟨_, apart⟩
        exact apart key List.mem_cons_self claim member taken

end Layout

/-! ## One description -/

/-- Where the chain of a description comes from, and the identity of the next chain to be made. -/
inductive Supplied (builder : ChainBuilder) (previous : Option MatchIndex)
    (descriptor : FilterChainDescriptor) (next : Nat) : FilterChain → Nat → Prop
  /-- From the earlier index. -/
  | kept {chain : FilterChain}
      (found : previous.bind (·.chainOf? descriptor.reuseKey) = some chain) :
      Supplied builder previous descriptor next chain next
  /-- From the builder. -/
  | made {blueprint : Blueprint}
      (absent : previous.bind (·.chainOf? descriptor.reuseKey) = none)
      (built : (builder descriptor).result = .built blueprint) :
      Supplied builder previous descriptor next { blueprint with id := ⟨next⟩ } (next + 1)

/-- Descriptions in which the building of a batch finds no fault. -/
structure Faultless (builder : ChainBuilder) (previous : Option MatchIndex)
    (descriptors : List FilterChainDescriptor) : Prop where
  different : (descriptors.map (·.criteria)).Nodup
  valid : ∀ descriptor ∈ descriptors, descriptor.criteria.Valid
  supplied : ∀ descriptor ∈ descriptors,
    (∃ chain, previous.bind (·.chainOf? descriptor.reuseKey) = some chain) ∨
    ∃ blueprint, (builder descriptor).result = .built blueprint
  keys : (descriptors.flatMap (·.criteria.slotKeys)).Nodup

namespace BuildState

/-- The state of a building after some descriptions were placed. -/
structure Covers (state : BuildState) (placed : List Placement) : Prop where
  chains : state.chains = placed.map fun placement => (placement.1.reuseKey, placement.2)
  different : (placed.map (·.1.criteria)).Nodup
  valid : ∀ placement ∈ placed, placement.1.criteria.Valid
  keys : (placed.flatMap (·.1.criteria.slotKeys)).Nodup
  layout : state.layout.Holds (claimsOf placed)

theorem covers_start (next : Nat) : (start next).Covers [] where
  chains := rfl
  different := .nil
  valid := by simp
  keys := .nil
  layout := by
    have nothing : claimsOf [] = ∅ := by simp [claimsOf]
    rw [nothing]
    exact Layout.holds_empty

theorem Covers.taken_iff {state : BuildState} {placed : List Placement}
    (covers : state.Covers placed) (criteria : MatchCriteria) :
    (state.chains.any (·.1.criteria = criteria)) = true ↔ criteria ∈ placed.map (·.1.criteria) := by
  simp [covers.chains, FilterChainDescriptor.reuseKey]

/-- A new description is placed exactly if its keys differ from each other and from those there. -/
theorem Covers.place_cases {state : BuildState} {placed : List Placement}
    (covers : state.Covers placed) {descriptor : FilterChainDescriptor} {normal : NormalCriteria}
    (fresh : descriptor.criteria ∉ placed.map (·.1.criteria))
    (ok : descriptor.criteria.normalize = .ok normal) (chain : FilterChain) :
    (∃ after, state.place descriptor.reuseKey normal chain = (after, none) ∧
      after.nextChain = state.nextChain ∧ after.Covers (placed ++ [(descriptor, chain)])) ∨
    (∃ after error, state.place descriptor.reuseKey normal chain = (after, some error) ∧
      ¬ (placed.flatMap (·.1.criteria.slotKeys) ++ descriptor.criteria.slotKeys).Nodup) := by
  have keys := MatchCriteria.slotKeys_of_normalize ok
  -- The keys that are taken are those of the claims.
  have apart_iff : (∀ key ∈ normal.slotKeys, ∀ claim ∈ claimsOf placed, claim.1 ≠ key) ↔
      (placed.flatMap (·.1.criteria.slotKeys)).Disjoint descriptor.criteria.slotKeys := by
    rw [keys]
    constructor
    · intro apart key taken listed
      obtain ⟨placement, member, own⟩ := List.mem_flatMap.mp taken
      exact apart key listed (key, placement.2) ⟨placement, member, own, rfl⟩ rfl
    · rintro disjoint key listed claim ⟨placement, member, own, _⟩ rfl
      exact disjoint (List.mem_flatMap.mpr ⟨placement, member, own⟩) listed
  unfold place
  rcases Layout.insertAll_cases covers.layout chain normal.slotKeys with
    ⟨result, inserted, distinct, apart, holds⟩ | ⟨refused, clash⟩
  · rw [inserted]
    refine .inl ⟨_, rfl, rfl, ?_, ?_, ?_, ?_, ?_⟩
    · simp [covers.chains]
    · rw [List.map_append, List.nodup_append]
      refine ⟨covers.different, by simp, ?_⟩
      rintro criteria taken other new rfl
      rw [List.map_singleton, List.mem_singleton] at new
      exact fresh (new ▸ taken)
    · intro placement member
      rcases List.mem_append.mp member with old | new
      · exact covers.valid placement old
      · rw [List.mem_singleton.mp new]
        exact MatchCriteria.normalize_isOk_iff.mp ⟨normal, ok⟩
    · rw [List.flatMap_append, List.flatMap_singleton, List.nodup_append']
      exact ⟨covers.keys, keys ▸ distinct, apart_iff.mp apart⟩
    · have same : claimsOf (placed ++ [(descriptor, chain)]) =
          claimsOf placed ∪ {claim | claim.1 ∈ normal.slotKeys ∧ claim.2 = chain} := by
        ext claim
        simp [claimsOf, keys, or_and_right, exists_or]
      rw [same]
      exact holds
  · rw [refused]
    refine .inr ⟨_, _, rfl, ?_⟩
    intro distinct
    obtain ⟨_, own, disjoint⟩ := List.nodup_append'.mp distinct
    exact clash ⟨keys ▸ own, apart_iff.mpr disjoint⟩

variable {builder : ChainBuilder} {previous : Option MatchIndex}

/-- A key taken twice is a fault whatever comes later. -/
theorem not_faultless_of_clash {placed : List Placement} {descriptor : FilterChainDescriptor}
    (clash : ¬ (placed.flatMap (·.1.criteria.slotKeys) ++ descriptor.criteria.slotKeys).Nodup)
    (rest : List FilterChainDescriptor) :
    ¬ Faultless builder previous (placed.map (·.1) ++ descriptor :: rest) := by
  intro faultless
  have slots : (placed.map (·.1)).flatMap (·.criteria.slotKeys) =
      placed.flatMap (·.1.criteria.slotKeys) := by simp [List.flatMap_map]
  have distinct := faultless.keys
  rw [List.flatMap_append, List.flatMap_cons, slots, ← List.append_assoc] at distinct
  exact clash (List.Nodup.of_append_left distinct)

/-- A description is placed with the chain that it is supplied with, unless a key is taken twice. -/
theorem Covers.supply_cases {state : BuildState} {placed : List Placement}
    (covers : state.Covers placed) {descriptor : FilterChainDescriptor} {normal : NormalCriteria}
    (fresh : descriptor.criteria ∉ placed.map (·.1.criteria))
    (ok : descriptor.criteria.normalize = .ok normal) {chain : FilterChain} {next : Nat}
    (supplied : Supplied builder previous descriptor next chain state.nextChain) :
    (∃ after, state.place descriptor.reuseKey normal chain = (after, none) ∧
      Supplied builder previous descriptor next chain after.nextChain ∧
      after.Covers (placed ++ [(descriptor, chain)])) ∨
    (∃ after error, state.place descriptor.reuseKey normal chain = (after, some error) ∧
      ∀ rest, ¬ Faultless builder previous (placed.map (·.1) ++ descriptor :: rest)) := by
  rcases covers.place_cases fresh ok chain with
    ⟨after, put, same, result⟩ | ⟨after, error, refused, clash⟩
  · refine .inl ⟨after, put, ?_, result⟩
    rw [same]
    exact supplied
  · exact .inr ⟨after, error, refused, not_faultless_of_clash clash⟩

/-- A description is placed with the chain it is supplied with, or it is at fault. -/
theorem Covers.add_cases {state : BuildState} {placed : List Placement}
    (covers : state.Covers placed) (builder : ChainBuilder) (previous : Option MatchIndex)
    (descriptor : FilterChainDescriptor) :
    (∃ chain after, state.add builder previous descriptor = (after, none) ∧
      Supplied builder previous descriptor state.nextChain chain after.nextChain ∧
      after.Covers (placed ++ [(descriptor, chain)])) ∨
    (∃ after error, state.add builder previous descriptor = (after, some error) ∧
      ∀ rest, ¬ Faultless builder previous (placed.map (·.1) ++ descriptor :: rest)) := by
  by_cases taken : descriptor.criteria ∈ placed.map (·.1.criteria)
  · refine .inr ⟨state, .duplicateMatchRule, ?_, ?_⟩
    · have present := (covers.taken_iff descriptor.criteria).mpr taken
      unfold add
      exact if_pos present
    · intro rest faultless
      have names : (placed.map (·.1)).map (·.criteria) = placed.map (·.1.criteria) := by simp
      have different := faultless.different
      rw [List.map_append, List.map_cons, names, List.nodup_append] at different
      exact different.2.2 _ taken _ List.mem_cons_self rfl
  · have fresh : ¬ (state.chains.any (·.1.criteria = descriptor.reuseKey.criteria)) = true := by
      intro present
      exact taken ((covers.taken_iff descriptor.criteria).mp present)
    have steps : state.add builder previous descriptor = _ := if_neg fresh
    rw [steps]
    cases normalized : descriptor.criteria.normalize with
    | error error =>
        refine .inr ⟨state, error, rfl, ?_⟩
        intro rest faultless
        have valid := faultless.valid descriptor (by simp)
        obtain ⟨normal, ok⟩ := MatchCriteria.normalize_isOk_iff.mpr valid
        exact absurd (normalized.symm.trans ok) (by simp)
    | ok normal =>
        dsimp only
        cases found : previous.bind (·.chainOf? descriptor.reuseKey) with
        | some chain =>
            have reusing : BuildState.Covers { state with reused := state.reused + 1 } placed :=
              ⟨covers.chains, covers.different, covers.valid, covers.keys, covers.layout⟩
            rcases reusing.supply_cases taken normalized (.kept found) with
              ⟨after, put, supplied, result⟩ | refused
            · exact .inl ⟨chain, after, put, supplied, result⟩
            · exact .inr refused
        | none =>
            cases reported : (builder descriptor).result with
            | refused error drawn =>
                refine .inr ⟨_, error, rfl, ?_⟩
                intro rest faultless
                rcases faultless.supplied descriptor (by simp) with
                  ⟨chain, kept⟩ | ⟨blueprint, built⟩
                · exact absurd (found.symm.trans kept) (by simp)
                · exact absurd (reported.symm.trans built) (by simp)
            | built blueprint =>
                have making : BuildState.Covers { state with
                    targets := state.targets ++ (builder descriptor).targets
                    nextChain := state.nextChain + 1
                    built := state.built + 1 } placed :=
                  ⟨covers.chains, covers.different, covers.valid, covers.keys, covers.layout⟩
                rcases making.supply_cases taken normalized (.made found reported) with
                  ⟨after, put, supplied, result⟩ | refused
                · exact .inl ⟨_, after, put, supplied, result⟩
                · exact .inr refused

/-! ## A batch -/

/-- Where the chains of a batch come from, in its order. -/
inductive SuppliedAll (builder : ChainBuilder) (previous : Option MatchIndex) :
    List FilterChainDescriptor → Nat → List FilterChain → Nat → Prop
  | nil (next : Nat) : SuppliedAll builder previous [] next [] next
  | cons {descriptor : FilterChainDescriptor} {descriptors : List FilterChainDescriptor}
      {chain : FilterChain} {chains : List FilterChain} {next middle last : Nat}
      (here : Supplied builder previous descriptor next chain middle)
      (others : SuppliedAll builder previous descriptors middle chains last) :
      SuppliedAll builder previous (descriptor :: descriptors) next (chain :: chains) last

theorem SuppliedAll.length_eq {descriptors : List FilterChainDescriptor} {chains : List FilterChain}
    {next last : Nat} (supplied : SuppliedAll builder previous descriptors next chains last) :
    descriptors.length = chains.length := by
  induction supplied with
  | nil => rfl
  | cons _ _ inductionHypothesis => simp [inductionHypothesis]

theorem Covers.faultless {state : BuildState} {descriptors : List FilterChainDescriptor}
    {chains : List FilterChain} {next last : Nat}
    (supplied : SuppliedAll builder previous descriptors next chains last)
    (covers : state.Covers (descriptors.zip chains)) : Faultless builder previous descriptors := by
  have firsts : (descriptors.zip chains).map (·.1) = descriptors :=
    List.map_fst_zip (Nat.le_of_eq supplied.length_eq)
  refine ⟨?_, ?_, ?_, ?_⟩
  · have different : (((descriptors.zip chains).map (·.1)).map (·.criteria)).Nodup := by
      rw [List.map_map]
      exact covers.different
    rw [firsts] at different
    exact different
  · intro descriptor member
    rw [← firsts] at member
    obtain ⟨placement, placed, rfl⟩ := List.mem_map.mp member
    exact covers.valid placement placed
  · clear covers firsts
    induction supplied with
    | nil => simp
    | cons here _ inductionHypothesis =>
        intro descriptor member
        rcases List.mem_cons.mp member with rfl | later
        · cases here with
          | kept found => exact .inl ⟨_, found⟩
          | made _ built => exact .inr ⟨_, built⟩
        · exact inductionHypothesis descriptor later
  · have keys : (((descriptors.zip chains).map (·.1)).flatMap (·.criteria.slotKeys)).Nodup := by
      rw [List.flatMap_map]
      exact covers.keys
    rw [firsts] at keys
    exact keys

/-- A batch is placed with the chains it is supplied with, or there is a fault. -/
theorem Covers.addAll_cases {state : BuildState} {placed : List Placement}
    (covers : state.Covers placed) (builder : ChainBuilder) (previous : Option MatchIndex)
    (descriptors : List FilterChainDescriptor) :
    (∃ chains after, state.addAll builder previous descriptors = (after, none) ∧
      SuppliedAll builder previous descriptors state.nextChain chains after.nextChain ∧
      after.Covers (placed ++ descriptors.zip chains)) ∨
    (∃ after error, state.addAll builder previous descriptors = (after, some error) ∧
      ¬ Faultless builder previous (placed.map (·.1) ++ descriptors)) := by
  induction descriptors generalizing state placed with
  | nil => exact .inl ⟨[], state, rfl, .nil _, by simpa using covers⟩
  | cons descriptor rest inductionHypothesis =>
      rw [addAll]
      rcases covers.add_cases builder previous descriptor with
        ⟨chain, after, added, here, afterCovers⟩ | ⟨after, error, refused, fault⟩
      · rw [added]
        rcases inductionHypothesis afterCovers with
          ⟨chains, result, all, others, resultCovers⟩ | ⟨result, error, refused, fault⟩
        · refine .inl ⟨chain :: chains, result, all, .cons here others, ?_⟩
          simpa using resultCovers
        · refine .inr ⟨result, error, refused, ?_⟩
          simpa using fault
      · rw [refused]
        exact .inr ⟨after, error, rfl, fault rest⟩

end BuildState

/-! ## The index -/

open BuildState (SuppliedAll)

variable {builder : ChainBuilder} {previous : Option MatchIndex}

/-- Collisions are a matter of keys alone. -/
theorem free_collide_iff {descriptors : List FilterChainDescriptor} {chains : List FilterChain}
    {next last : Nat} (supplied : SuppliedAll builder previous descriptors next chains last) :
    Layout.Free Collide (claimsOf (descriptors.zip chains)) ↔
      ∀ left ∈ descriptors.flatMap (·.criteria.slotKeys),
        ∀ right ∈ descriptors.flatMap (·.criteria.slotKeys), ¬ left.Collides right := by
  have claimed (key : SlotKey) : key ∈ descriptors.flatMap (·.criteria.slotKeys) ↔
      ∃ claim ∈ claimsOf (descriptors.zip chains), claim.1 = key := by
    rw [← List.map_fst_zip (Nat.le_of_eq supplied.length_eq), List.flatMap_map, List.mem_flatMap,
      List.map_fst_zip (Nat.le_of_eq supplied.length_eq)]
    constructor
    · rintro ⟨placement, placed, own⟩
      exact ⟨(key, placement.2), ⟨placement, placed, own, rfl⟩, rfl⟩
    · rintro ⟨claim, ⟨placement, placed, own, _⟩, rfl⟩
      exact ⟨placement, placed, own⟩
  constructor
  · intro free left leftListed right rightListed collides
    obtain ⟨first, firstMember, rfl⟩ := (claimed left).mp leftListed
    obtain ⟨second, secondMember, rfl⟩ := (claimed right).mp rightListed
    exact free first firstMember second secondMember collides
  · intro apart left leftMember right rightMember
    exact apart _ ((claimed _).mpr ⟨left, leftMember, rfl⟩) _
      ((claimed _).mpr ⟨right, rightMember, rfl⟩)

namespace MatchIndex

/-- A batch is accepted exactly if it is faultless and no two of its keys collide. The index then
answers for the claims of its descriptions. -/
theorem build_cases (generation : GenerationId) (listener : String)
    (descriptors : List FilterChainDescriptor) (builder : ChainBuilder)
    (previous : Option MatchIndex) (next : Nat) :
    (∃ index chains,
      (build generation listener descriptors builder previous next).outcome = .ok index ∧
      SuppliedAll builder previous descriptors next chains
        (build generation listener descriptors builder previous next).state.nextChain ∧
      index.chains = (descriptors.zip chains).map (fun placement =>
        (placement.1.reuseKey, placement.2)) ∧
      Faultless builder previous descriptors ∧
      Layout.Free Collide (claimsOf (descriptors.zip chains)) ∧
      PortLevelAnswers index.destinations
        (Layout.expansion Layout.Becomes (claimsOf (descriptors.zip chains)))) ∨
    (∃ error,
      (build generation listener descriptors builder previous next).outcome = .error error ∧
      ¬ (Faultless builder previous descriptors ∧
        ∀ left ∈ descriptors.flatMap (·.criteria.slotKeys),
          ∀ right ∈ descriptors.flatMap (·.criteria.slotKeys), ¬ left.Collides right)) := by
  unfold build
  rcases (BuildState.covers_start next).addAll_cases builder previous descriptors with
    ⟨chains, after, all, supplied, covers⟩ | ⟨after, error, refused, fault⟩
  · rw [all]
    rw [List.nil_append] at covers
    have free_iff := Layout.compile_isOk_iff covers.layout
    dsimp only
    cases compiled : after.layout.compile with
    | error cause =>
        refine .inr ⟨_, rfl, ?_⟩
        rintro ⟨_, apart⟩
        obtain ⟨result, ok⟩ := free_iff.mpr ((free_collide_iff supplied).mpr apart)
        exact absurd (compiled.symm.trans ok) (by simp)
    | ok destinations =>
        exact .inl ⟨_, chains, rfl, supplied, covers.chains, covers.faultless supplied,
          free_iff.mp ⟨destinations, compiled⟩, Layout.compile_answers covers.layout compiled⟩
  · rw [refused]
    refine .inr ⟨error, rfl, ?_⟩
    intro ok
    exact fault ok.1

end MatchIndex

end Admission.Chain
