import Admission.Chain.Scripted
import Admission.Proofs.Chain.Building

/-!
Contract: an accepted batch is unambiguous.

Owns:
- `slots_nodup_iff`: slots differ from each other if and only if their keys do, and no two keys have
  a slot in common;
- `MatchIndex.Reached`, the indices that a history of builds can hand on, and that the identities of
  their chains differ;
- `MatchIndex.unambiguous`.
-/

namespace Admission.Chain

open Admission.Net
open BuildState (SuppliedAll)

/-! ## Slots and slot keys -/

private theorem RangeKey.ranges_nodup (key : RangeKey) : key.ranges.Nodup := by
  cases key with
  | everywhere => decide
  | range range => exact List.nodup_singleton range

namespace SlotKey

private theorem at_injective {key : SlotKey} {destination source other another : CidrRange}
    (same : key.at destination source = key.at other another) :
    destination = other ∧ source = another := by
  unfold SlotKey.at at same
  injection same with _ destinations _ _ _ _ sources _
  exact ⟨destinations, sources⟩

private theorem slots_nodup (key : SlotKey) : key.slots.Nodup := by
  unfold slots
  rw [List.nodup_flatMap]
  constructor
  · intro destination _
    refine (RangeKey.ranges_nodup key.source).map ?_
    intro source other same
    exact (at_injective same).2
  · refine (RangeKey.ranges_nodup key.destination).imp ?_
    intro destination other different slot left right
    obtain ⟨source, _, rfl⟩ := List.mem_map.mp left
    obtain ⟨another, _, same⟩ := List.mem_map.mp right
    exact different (at_injective same).1.symm

private theorem exists_mem_slots (key : SlotKey) : ∃ slot, slot ∈ key.slots := by
  obtain ⟨destination, destinationListed⟩ := Layout.ranges_ne_nil key.destination
  obtain ⟨source, sourceListed⟩ := Layout.ranges_ne_nil key.source
  exact ⟨_, mem_slots_iff.mpr ⟨destination, destinationListed, source, sourceListed, rfl⟩⟩

/-- Two keys have a slot in common if they have ranges in common and agree in all else. -/
theorem exists_common_iff {left right : SlotKey} :
    (∃ slot ∈ left.slots, slot ∈ right.slots) ↔
      left.port = right.port ∧ Layout.Meet left.destination right.destination ∧
      left.serverName = right.serverName ∧ left.transport = right.transport ∧
      left.protocol = right.protocol ∧ left.sourceType = right.sourceType ∧
      Layout.Meet left.source right.source ∧ left.sourcePort = right.sourcePort := by
  constructor
  · rintro ⟨slot, inLeft, inRight⟩
    obtain ⟨destination, leftDestination, source, leftSource, rfl⟩ := mem_slots_iff.mp inLeft
    obtain ⟨other, rightDestination, another, rightSource, same⟩ := mem_slots_iff.mp inRight
    unfold SlotKey.at at same
    injection same with port destinations name transport protocol type sources sourcePort
    subst destinations sources
    exact ⟨port, ⟨destination, leftDestination, rightDestination⟩, name, transport, protocol, type,
      ⟨source, leftSource, rightSource⟩, sourcePort⟩
  · rintro ⟨port, ⟨destination, leftDestination, rightDestination⟩, name, transport, protocol, type,
      ⟨source, leftSource, rightSource⟩, sourcePort⟩
    refine ⟨left.at destination source,
      mem_slots_iff.mpr ⟨destination, leftDestination, source, leftSource, rfl⟩,
      mem_slots_iff.mpr ⟨destination, rightDestination, source, rightSource, ?_⟩⟩
    unfold SlotKey.at
    rw [port, name, transport, protocol, type, sourcePort]

/-- Different keys with a slot in common collide. -/
theorem collides_of_common {left right : SlotKey} (different : left ≠ right)
    (common : ∃ slot ∈ left.slots, slot ∈ right.slots) : left.Collides right := by
  obtain ⟨port, destinations, name, transport, protocol, type, sources, sourcePort⟩ :=
    exists_common_iff.mp common
  refine ⟨port, ?_⟩
  by_cases destination : left.destination = right.destination
  · refine .inr ⟨destination, name, transport, protocol, type, ?_, sources⟩
    intro source
    exact different
      (SlotKey.ext port destination name transport protocol type source sourcePort)
  · exact .inl ⟨destination, destinations⟩

end SlotKey

theorem slots_nodup_iff {keys : List SlotKey} :
    (keys.flatMap SlotKey.slots).Nodup ↔
      keys.Nodup ∧ ∀ left ∈ keys, ∀ right ∈ keys, left ≠ right →
        left.slots.Disjoint right.slots := by
  rw [List.nodup_flatMap]
  constructor
  · rintro ⟨_, disjoint⟩
    have distinct : keys.Nodup := by
      refine disjoint.imp ?_
      rintro left right apart rfl
      obtain ⟨slot, member⟩ := SlotKey.exists_mem_slots left
      exact apart member member
    refine ⟨distinct, ?_⟩
    intro left leftListed right rightListed different
    have symmetric : Std.Symm (Function.onFun List.Disjoint SlotKey.slots) :=
      ⟨fun _ _ apart _ inRight inLeft => apart inLeft inRight⟩
    exact disjoint.forall leftListed rightListed different
  · rintro ⟨distinct, disjoint⟩
    exact ⟨fun key _ => key.slots_nodup, distinct.pairwise_of_forall_ne disjoint⟩

/-- The slots of descriptions are those of their slot keys. -/
theorem descriptor_slots_perm {descriptors : List FilterChainDescriptor}
    (valid : ∀ descriptor ∈ descriptors, descriptor.criteria.Valid) :
    ((descriptors.flatMap (·.criteria.slotKeys)).flatMap SlotKey.slots).Perm
      (descriptors.flatMap (·.criteria.slots)) := by
  rw [List.flatMap_assoc]
  refine List.Perm.flatMap_left _ ?_
  intro descriptor member
  obtain ⟨normal, ok⟩ := MatchCriteria.normalize_isOk_iff.mpr (valid descriptor member)
  rw [MatchCriteria.slotKeys_of_normalize ok]
  exact MatchCriteria.slots_perm ok

/-- Without faults and collisions, no slot comes up twice. -/
theorem slots_nodup_of_faultless {builder : ChainBuilder} {previous : Option MatchIndex}
    {descriptors : List FilterChainDescriptor} (faultless : Faultless builder previous descriptors)
    (apart : ∀ left ∈ descriptors.flatMap (·.criteria.slotKeys),
      ∀ right ∈ descriptors.flatMap (·.criteria.slotKeys), ¬ left.Collides right) :
    (descriptors.flatMap (·.criteria.slots)).Nodup := by
  rw [← (descriptor_slots_perm faultless.valid).nodup_iff, slots_nodup_iff]
  refine ⟨faultless.keys, ?_⟩
  intro left leftListed right rightListed different slot inLeft inRight
  exact apart left leftListed right rightListed
    (SlotKey.collides_of_common different ⟨slot, inLeft, inRight⟩)

/-! ## Identities -/

section Identities

variable {builder : ChainBuilder} {previous : Option MatchIndex}
  {descriptors : List FilterChainDescriptor} {chains : List FilterChain} {next last : Nat}

private theorem Supplied.next_le {descriptor : FilterChainDescriptor} {chain : FilterChain}
    (supplied : Supplied builder previous descriptor next chain last) : next ≤ last := by
  cases supplied with
  | kept _ => exact Nat.le_refl _
  | made _ _ => exact Nat.le_succ _

private theorem next_le_of_suppliedAll
    (supplied : SuppliedAll builder previous descriptors next chains last) : next ≤ last := by
  induction supplied with
  | nil => exact Nat.le_refl _
  | cons here _ inductionHypothesis => exact here.next_le.trans inductionHypothesis

/-- A chain of a batch was kept, or made after the blueprint with an identity drawn for the batch. -/
theorem kept_or_made (supplied : SuppliedAll builder previous descriptors next chains last)
    {placement : Placement} (placed : placement ∈ descriptors.zip chains) :
    previous.bind (·.chainOf? placement.1.reuseKey) = some placement.2 ∨
      (previous.bind (·.chainOf? placement.1.reuseKey) = none ∧
        (builder placement.1).result = .built placement.2.toBlueprint ∧
        next ≤ placement.2.id.value ∧ placement.2.id.value < last) := by
  induction supplied with
  | nil => exact absurd placed (by simp)
  | @cons descriptor descriptors chain chains next middle last here others inductionHypothesis =>
      rw [List.zip_cons_cons, List.mem_cons] at placed
      rcases placed with rfl | later
      · cases here with
        | kept found => exact .inl found
        | made absent built =>
            exact .inr ⟨absent, built, Nat.le_refl _, next_le_of_suppliedAll others⟩
      · rcases inductionHypothesis later with kept | ⟨absent, built, atLeast, below⟩
        · exact .inl kept
        · exact .inr ⟨absent, built, here.next_le.trans atLeast, below⟩

namespace MatchIndex

/-- The chains of an index differ in identity, and all identities were drawn before `next`. -/
structure Identified (index : MatchIndex) (next : Nat) : Prop where
  distinct : index.chainIds.Nodup
  drawn : ∀ id ∈ index.chainIds, id.value < next

theorem Identified.mono {index : MatchIndex} {next later : Nat} (identified : index.Identified next)
    (after : next ≤ later) : index.Identified later where
  distinct := identified.distinct
  drawn := fun id member => (identified.drawn id member).trans_le after

theorem mem_of_chainOf? {index : MatchIndex} {key : ReuseKey} {chain : FilterChain}
    (found : index.chainOf? key = some chain) : (key, chain) ∈ index.chains := by
  unfold chainOf? at found
  obtain ⟨entry, first, rfl⟩ := Option.map_eq_some_iff.mp found
  have key := List.find?_some first
  rw [decide_eq_true_eq] at key
  rw [← key]
  exact List.mem_of_find?_eq_some first

theorem chainOf?_of_mem {index : MatchIndex} (distinct : (index.chains.map (·.1)).Nodup)
    {key : ReuseKey} {chain : FilterChain} (member : (key, chain) ∈ index.chains) :
    index.chainOf? key = some chain := by
  cases found : index.chainOf? key with
  | none =>
      unfold chainOf? at found
      rw [Option.map_eq_none_iff, List.find?_eq_none] at found
      exact absurd (decide_eq_true rfl) (found _ member)
  | some other =>
      have otherMember := mem_of_chainOf? found
      have same := List.inj_on_of_nodup_map distinct otherMember member rfl
      exact congrArg some (congrArg Prod.snd same)

theorem mem_chainIds {index : MatchIndex} {entry : ReuseKey × FilterChain}
    (member : entry ∈ index.chains) : entry.2.id ∈ index.chainIds :=
  List.mem_map_of_mem member

/-- The identity of a chain kept from an index was drawn before. -/
theorem drawn_of_kept (identified : ∀ index, previous = some index → index.Identified next)
    {key : ReuseKey} {chain : FilterChain}
    (kept : (previous.bind fun index => index.chainOf? key) = some chain) : chain.id.value < next := by
  obtain ⟨index, earlier, found⟩ := Option.bind_eq_some_iff.mp kept
  exact (identified index earlier).drawn _ (mem_chainIds (mem_of_chainOf? found))

/-- Chains kept from an index under different keys differ in identity. -/
theorem id_ne_of_kept (identified : ∀ index, previous = some index → index.Identified next)
    {key other : ReuseKey} (different : key ≠ other) {chain another : FilterChain}
    (kept : (previous.bind fun index => index.chainOf? key) = some chain)
    (alsoKept : (previous.bind fun index => index.chainOf? other) = some another) :
    chain.id ≠ another.id := by
  intro same
  obtain ⟨index, earlier, found⟩ := Option.bind_eq_some_iff.mp kept
  rw [earlier, Option.bind_some] at alsoKept
  have entries := List.inj_on_of_nodup_map (identified index earlier).distinct (mem_of_chainOf? found)
    (mem_of_chainOf? alsoKept) same
  exact different (congrArg Prod.fst entries)

end MatchIndex

theorem held_keys (supplied : SuppliedAll builder previous descriptors next chains last) :
    ((descriptors.zip chains).map fun placement => (placement.1.reuseKey, placement.2)).map (·.1) =
      descriptors.map (·.reuseKey) := by
  rw [List.map_map]
  calc (descriptors.zip chains).map (fun placement => placement.1.reuseKey)
      = ((descriptors.zip chains).map Prod.fst).map (·.reuseKey) := by rw [List.map_map]; rfl
    _ = descriptors.map (·.reuseKey) := by
        rw [List.map_fst_zip (Nat.le_of_eq supplied.length_eq)]

theorem reuseKeys_nodup (different : (descriptors.map (·.criteria)).Nodup) :
    (descriptors.map (·.reuseKey)).Nodup := by
  refine List.Nodup.of_map (·.criteria) ?_
  rw [List.map_map]
  exact different

/-- The identities of a batch differ, if those of the index that chains were kept from do. -/
theorem ids_nodup (identified : ∀ index, previous = some index → index.Identified next)
    (different : (descriptors.map (·.criteria)).Nodup)
    (supplied : SuppliedAll builder previous descriptors next chains last) :
    (chains.map (·.id)).Nodup := by
  induction supplied with
  | nil => exact .nil
  | @cons descriptor descriptors chain chains next middle last here others inductionHypothesis =>
      rw [List.map_cons, List.nodup_cons] at different
      obtain ⟨fresh, different⟩ := different
      have later : ∀ index, previous = some index → index.Identified middle := by
        intro index earlier
        exact (identified index earlier).mono here.next_le
      rw [List.map_cons, List.nodup_cons]
      refine ⟨?_, inductionHypothesis later different⟩
      intro again
      obtain ⟨other, otherMember, same⟩ := List.mem_map.mp again
      obtain ⟨another, placed⟩ : ∃ another, (another, other) ∈ descriptors.zip chains := by
        have seconds := List.map_snd_zip (Nat.le_of_eq others.length_eq.symm)
        rw [← seconds] at otherMember
        obtain ⟨placement, placed, rfl⟩ := List.mem_map.mp otherMember
        exact ⟨placement.1, placed⟩
      have keys : another.reuseKey ≠ descriptor.reuseKey := by
        intro sameKey
        have criteria := congrArg ReuseKey.criteria sameKey
        exact fresh (List.mem_map.mpr ⟨another, (List.of_mem_zip placed).1, criteria⟩)
      rcases kept_or_made others placed with otherKept | ⟨_, _, atLeast, _⟩
      · cases here with
        | kept found => exact MatchIndex.id_ne_of_kept identified keys otherKept found same
        | made _ _ =>
            have below := MatchIndex.drawn_of_kept identified otherKept
            rw [same] at below
            exact Nat.lt_irrefl _ below
      · cases here with
        | kept found =>
            have below := MatchIndex.drawn_of_kept identified found
            rw [← same] at below
            exact Nat.lt_irrefl _ (below.trans_le atLeast)
        | made _ _ =>
            rw [same] at atLeast
            exact Nat.lt_irrefl _ atLeast

end Identities

/-! ## Accepted batches -/

namespace MatchIndex

/-- What a history of builds can hand to the next build: an index of an earlier build or none, and
the identity of the next chain. Builds of other indices draw identities as well, also those that are
refused in the end. -/
inductive Reached : Option MatchIndex → Nat → Prop
  | start (next : Nat) : Reached none next
  | built {generation : GenerationId} {listener : String}
      {descriptors : List FilterChainDescriptor} {builder : ChainBuilder}
      {previous : Option MatchIndex} {next : Nat} {index : MatchIndex}
      (earlier : Reached previous next)
      (accepted :
        (build generation listener descriptors builder previous next).outcome = .ok index) :
      Reached (some index)
        (build generation listener descriptors builder previous next).state.nextChain
  | drawn {previous : Option MatchIndex} {next later : Nat} (earlier : Reached previous next)
      (after : next ≤ later) : Reached previous later

section Accepted

variable {generation : GenerationId} {listener : String}
  {descriptors : List FilterChainDescriptor} {builder : ChainBuilder}
  {previous : Option MatchIndex} {next : Nat} {index : MatchIndex}

theorem identified_of_accepted
    (identified : ∀ index, previous = some index → index.Identified next)
    (accepted : (build generation listener descriptors builder previous next).outcome = .ok index) :
    index.Identified
      (build generation listener descriptors builder previous next).state.nextChain := by
  rcases build_cases generation listener descriptors builder previous next with
    ⟨result, chains, ok, supplied, held, faultless, _, _⟩ | ⟨error, refused, _⟩
  · obtain rfl : result = index := Except.ok.inj (ok.symm.trans accepted)
    have ids : result.chainIds = chains.map (·.id) := by
      unfold chainIds
      rw [held, List.map_map]
      calc (descriptors.zip chains).map (fun placement => placement.2.id)
          = ((descriptors.zip chains).map Prod.snd).map (·.id) := by rw [List.map_map]; rfl
        _ = chains.map (·.id) := by
            rw [List.map_snd_zip (Nat.le_of_eq supplied.length_eq.symm)]
    refine ⟨?_, ?_⟩
    · rw [ids]
      exact ids_nodup identified faultless.different supplied
    · intro id member
      unfold chainIds at member
      rw [held, List.map_map] at member
      obtain ⟨placement, placed, rfl⟩ := List.mem_map.mp member
      rcases kept_or_made supplied placed with kept | ⟨_, _, _, below⟩
      · exact (drawn_of_kept identified kept).trans_le (next_le_of_suppliedAll supplied)
      · exact below
  · exact absurd (refused.symm.trans accepted) (by simp)

theorem Reached.identified (reached : Reached previous next) :
    ∀ index, previous = some index → index.Identified next := by
  induction reached with
  | start _ =>
      intro index earlier
      exact absurd earlier (by simp)
  | built _ accepted inductionHypothesis =>
      intro index earlier
      rw [← Option.some.inj earlier]
      exact identified_of_accepted inductionHypothesis accepted
  | drawn _ after inductionHypothesis =>
      intro index earlier
      exact (inductionHypothesis index earlier).mono after

/-- One chain for a name, and one for the names below it and peers of one network. -/
def wildcardBatch : List FilterChainDescriptor := [
  { FilterChainDescriptor.blank with
    name := "exact"
    criteria := { MatchCriteria.anything with serverNames := ["a.test"] } },
  { FilterChainDescriptor.blank with
    name := "wildcard"
    criteria := { MatchCriteria.anything with
      serverNames := ["*.a.test"], sourcePrefixRanges := ["10.0.0.0/8"] } }]

theorem wildcardBatch_accepted :
    ∃ index,
      (build ⟨1⟩ "listener" wildcardBatch (BuildScript.builder ⟨none, false, []⟩) none
        1).outcome = .ok index := by
  have accepted : (build ⟨1⟩ "listener" wildcardBatch (BuildScript.builder ⟨none, false, []⟩) none
      1).outcome.isOk = true := by decide +kernel
  cases outcome : (build ⟨1⟩ "listener" wildcardBatch (BuildScript.builder ⟨none, false, []⟩) none
      1).outcome with
  | error error =>
      rw [outcome] at accepted
      exact absurd accepted (by simp [Except.isOk, Except.toBool])
  | ok index => exact ⟨index, rfl⟩

/-- In an accepted batch every listed value is read, no two combinations of values are one slot, and
the index has one chain for each description, all with identities of their own. -/
theorem unambiguous (reached : Reached previous next)
    (accepted : (build generation listener descriptors builder previous next).outcome = .ok index) :
    (∀ descriptor ∈ descriptors, descriptor.criteria.Valid) ∧
    (descriptors.flatMap (·.criteria.slots)).Nodup ∧
    index.chains.map (·.1) = descriptors.map (·.reuseKey) ∧
    (index.chains.map (·.1)).Nodup ∧
    index.chainIds.Nodup := by
  rcases build_cases generation listener descriptors builder previous next with
    ⟨result, chains, ok, supplied, held, faultless, free, _⟩ | ⟨error, refused, _⟩
  · obtain rfl : result = index := Except.ok.inj (ok.symm.trans accepted)
    have keys : result.chains.map (·.1) = descriptors.map (·.reuseKey) := by
      rw [held]
      exact held_keys supplied
    refine ⟨faultless.valid, ?_, keys, ?_, (identified_of_accepted reached.identified ok).distinct⟩
    · exact slots_nodup_of_faultless faultless ((free_collide_iff supplied).mp free)
    · rw [keys]
      exact reuseKeys_nodup faultless.different
  · exact absurd (refused.symm.trans accepted) (by simp)

theorem unambiguous_wildcardBatch :
    ∃ index, Reached none 1 ∧
      (build ⟨1⟩ "listener" wildcardBatch (BuildScript.builder ⟨none, false, []⟩) none
        1).outcome = .ok index ∧
      (wildcardBatch.flatMap (·.criteria.slots)).Nodup ∧ index.chainIds.Nodup := by
  obtain ⟨index, accepted⟩ := wildcardBatch_accepted
  have reached : Reached none 1 := .start 1
  obtain ⟨_, slots, _, _, ids⟩ := unambiguous reached accepted
  exact ⟨index, reached, accepted, slots, ids⟩

end Accepted

end MatchIndex

end Admission.Chain
