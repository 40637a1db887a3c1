import Admission.Proofs.Chain.Unambiguous

/-!
Contract: which batches are accepted, among those whose descriptions are all right one by one.

A batch whose slots all differ is refused if one description leaves a range level open while
another spells out a whole family there. At the destination level it does not matter whether the
two have anything in common below.

Owns: `MatchCriteria.Blends`, and `MatchIndex.accepts_iff`, by which nothing else keeps such a batch
from being accepted.
-/

namespace Admission.Chain

open Admission.Net

/-- A whole family is spelled out. -/
def SpellsOut (texts : List String) : Prop :=
  ∃ text ∈ texts, ∃ range, CidrRange.parse text = .ok range ∧ range.isCatchAll = true

/-- Two slots differ in their source range and source port at most. -/
def Slot.SameUpToSource (left right : Slot) : Prop :=
  { left with source := right.source, sourcePort := right.sourcePort } = right

/-- The first criteria leave a range level open where the second spell out a whole family: at the
destination, or at the source below a common path. -/
def MatchCriteria.Blends (left right : MatchCriteria) : Prop :=
  left.destinationPort = right.destinationPort ∧
    ((left.prefixRanges = [] ∧ SpellsOut right.prefixRanges) ∨
    (left.sourcePrefixRanges = [] ∧ SpellsOut right.sourcePrefixRanges ∧
      ∃ slot ∈ left.slots, ∃ other ∈ right.slots, slot.SameUpToSource other))

/-! ## Keys of a level -/

private theorem isCatchAll_iff {range : CidrRange} :
    range.isCatchAll = true ↔ range ∈ RangeKey.everywhere.ranges := by
  simp [CidrRange.isCatchAll, RangeKey.ranges]

/-- Different keys have a range in common only if one of them stands for both families and the other
is one of the two. -/
theorem meet_cases {left right : RangeKey} (different : left ≠ right)
    (meet : Layout.Meet left right) :
    (left = .everywhere ∧ ∃ range, right = .range range ∧ range.isCatchAll = true) ∨
    (right = .everywhere ∧ ∃ range, left = .range range ∧ range.isCatchAll = true) := by
  obtain ⟨common, inLeft, inRight⟩ := meet
  cases left with
  | everywhere =>
      cases right with
      | everywhere => exact absurd rfl different
      | range range =>
          have same := List.mem_singleton.mp inRight
          exact .inl ⟨rfl, range, rfl, isCatchAll_iff.mpr (same ▸ inLeft)⟩
  | range range =>
      have same := List.mem_singleton.mp inLeft
      cases right with
      | everywhere => exact .inr ⟨rfl, range, rfl, isCatchAll_iff.mpr (same ▸ inRight)⟩
      | range other =>
          have another := List.mem_singleton.mp inRight
          exact absurd (congrArg RangeKey.range (same.symm.trans another)) different

private theorem meet_everywhere {range : CidrRange} (whole : range.isCatchAll = true) :
    Layout.Meet .everywhere (.range range) :=
  ⟨range, isCatchAll_iff.mp whole, List.mem_singleton.mpr rfl⟩

namespace MatchCriteria

private theorem rangeKey_ok_iff {text : String} {key : RangeKey} :
    rangeKey text = .ok key ↔ ∃ range, CidrRange.parse text = .ok range ∧ .range range = key := by
  unfold rangeKey
  cases CidrRange.parse text <;> simp

/-- The keys of a list of ranges. -/
def Lists (texts : List String) : RangeKey → Prop
  | .everywhere => texts = []
  | .range range => ∃ text ∈ texts, CidrRange.parse text = .ok range

private theorem mem_rangeKeys_iff {texts : List String} {keys : List RangeKey}
    (validated : rangeKeys texts = .ok keys) {key : RangeKey} : key ∈ keys ↔ Lists texts key := by
  rw [rangeKeys_eq] at validated
  cases parsed : texts.mapM rangeKey with
  | error error =>
      rw [parsed] at validated
      exact absurd validated (by simp [Except.map])
  | ok results =>
      rw [parsed] at validated
      rw [← Except.ok.inj validated]
      cases mapM_eq_ok_iff.mp parsed with
      | nil => cases key <;> simp [orCatchAll, Lists]
      | cons here others =>
          rw [orCatchAll, mem_mapM_iff parsed]
          · cases key <;> simp [rangeKey_ok_iff, Lists]
          · simp

private theorem exists_lists {texts : List String} (readable : Readable texts) :
    ∃ key, Lists texts key := by
  cases texts with
  | nil => exact ⟨.everywhere, rfl⟩
  | cons text texts =>
      obtain ⟨range, read⟩ := readable text List.mem_cons_self
      exact ⟨.range range, text, List.mem_cons_self, read⟩

private theorem mem_slotKeys_iff {criteria : MatchCriteria} (valid : criteria.Valid)
    {key : SlotKey} :
    key ∈ criteria.slotKeys ↔
      key.port = criteria.destinationPort ∧ Lists criteria.prefixRanges key.destination ∧
      key.serverName ∈ orCatchAll "" (criteria.serverNames.map storedName) ∧
      key.transport = criteria.transportProtocol ∧
      key.protocol ∈ orCatchAll "" criteria.applicationProtocols ∧
      key.sourceType = criteria.sourceType ∧ Lists criteria.sourcePrefixRanges key.source ∧
      key.sourcePort ∈ orCatchAll 0 criteria.sourcePorts := by
  rcases normalize_cases criteria with
    ⟨normal, destinations, sources, ok, _, destinationsOk, sourcesOk, shape⟩ | ⟨error, _, invalid⟩
  · rw [slotKeys_of_normalize ok, shape, NormalCriteria.slotKeys, ← mem_rangeKeys_iff destinationsOk,
      ← mem_rangeKeys_iff sourcesOk]
    simp only [List.mem_flatMap, List.mem_map]
    constructor
    · rintro ⟨destination, inDestinations, name, inNames, protocol, inProtocols, source, inSources,
        port, inPorts, rfl⟩
      exact ⟨rfl, inDestinations, inNames, rfl, inProtocols, rfl, inSources, inPorts⟩
    · rintro ⟨port, inDestinations, inNames, transport, inProtocols, type, inSources, inPorts⟩
      exact ⟨_, inDestinations, _, inNames, _, inProtocols, _, inSources, _, inPorts,
        SlotKey.ext port.symm rfl rfl transport.symm rfl type.symm rfl rfl⟩
  · exact absurd valid invalid

private theorem orCatchAll_ne_nil {α : Type} (catchAll : α) (values : List α) :
    orCatchAll catchAll values ≠ [] := by
  cases values <;> simp [orCatchAll]

/-- Valid criteria have a slot key below each of their destination keys. -/
theorem exists_slotKey {criteria : MatchCriteria} (valid : criteria.Valid)
    {destination : RangeKey} (listed : Lists criteria.prefixRanges destination) :
    ∃ key ∈ criteria.slotKeys, key.destination = destination := by
  obtain ⟨name, inNames⟩ := List.exists_mem_of_ne_nil _
    (orCatchAll_ne_nil "" (criteria.serverNames.map storedName))
  obtain ⟨protocol, inProtocols⟩ := List.exists_mem_of_ne_nil _
    (orCatchAll_ne_nil "" criteria.applicationProtocols)
  obtain ⟨source, inSources⟩ := exists_lists valid.sources
  obtain ⟨port, inPorts⟩ := List.exists_mem_of_ne_nil _ (orCatchAll_ne_nil 0 criteria.sourcePorts)
  refine ⟨⟨criteria.destinationPort, destination, name, criteria.transportProtocol, protocol,
    criteria.sourceType, source, port⟩, ?_, rfl⟩
  rw [mem_slotKeys_iff valid]
  exact ⟨rfl, listed, inNames, rfl, inProtocols, rfl, inSources, inPorts⟩

/-! ## Collisions -/

private theorem exists_collision_at_destination {left right : MatchCriteria}
    (leftValid : left.Valid) (rightValid : right.Valid)
    (ports : left.destinationPort = right.destinationPort)
    (destinationOpen : left.prefixRanges = []) (spelled : SpellsOut right.prefixRanges) :
    ∃ first ∈ left.slotKeys, ∃ second ∈ right.slotKeys, first.Collides second := by
  obtain ⟨text, listed, range, read, whole⟩ := spelled
  have rangeListed : Lists right.prefixRanges (.range range) := ⟨text, listed, read⟩
  have openListed : Lists left.prefixRanges .everywhere := destinationOpen
  obtain ⟨first, firstListed, firstAt⟩ := exists_slotKey leftValid openListed
  obtain ⟨second, secondListed, secondAt⟩ := exists_slotKey rightValid rangeListed
  have firstPort := ((mem_slotKeys_iff leftValid).mp firstListed).1
  have secondPort := ((mem_slotKeys_iff rightValid).mp secondListed).1
  refine ⟨first, firstListed, second, secondListed, ?_, .inl ?_⟩
  · rw [firstPort, secondPort, ports]
  · rw [firstAt, secondAt]
    exact ⟨by simp, meet_everywhere whole⟩

private theorem exists_collision_at_source {left right : MatchCriteria} (leftValid : left.Valid)
    (rightValid : right.Valid) (sourceOpen : left.sourcePrefixRanges = [])
    (spelled : SpellsOut right.sourcePrefixRanges) {slot other : Slot} (inLeft : slot ∈ left.slots)
    (inRight : other ∈ right.slots) (same : slot.SameUpToSource other) :
    ∃ first ∈ left.slotKeys, ∃ second ∈ right.slotKeys, first.Collides second := by
  obtain ⟨text, listed, range, read, whole⟩ := spelled
  obtain ⟨leftKey, leftListed, inLeftKey⟩ := (mem_slots_iff leftValid).mp inLeft
  obtain ⟨rightKey, rightListed, inRightKey⟩ := (mem_slots_iff rightValid).mp inRight
  -- The same keys at the source ranges that meet.
  have first : { leftKey with source := .everywhere } ∈ left.slotKeys := by
    rw [mem_slotKeys_iff leftValid] at leftListed ⊢
    obtain ⟨port, destination, name, transport, protocol, type, _, sourcePort⟩ := leftListed
    exact ⟨port, destination, name, transport, protocol, type, sourceOpen, sourcePort⟩
  have second : { rightKey with source := .range range } ∈ right.slotKeys := by
    rw [mem_slotKeys_iff rightValid] at rightListed ⊢
    obtain ⟨port, destination, name, transport, protocol, type, _, sourcePort⟩ := rightListed
    exact ⟨port, destination, name, transport, protocol, type, ⟨text, listed, read⟩, sourcePort⟩
  refine ⟨_, first, _, second, ?_⟩
  obtain ⟨destination, leftDestination, source, _, rfl⟩ := SlotKey.mem_slots_iff.mp inLeftKey
  obtain ⟨another, rightDestination, anotherSource, _, rfl⟩ := SlotKey.mem_slots_iff.mp inRightKey
  unfold Slot.SameUpToSource SlotKey.at at same
  injection same with port destinations name transport protocol type
  subst destinations
  refine ⟨port, ?_⟩
  by_cases equal : leftKey.destination = rightKey.destination
  · exact .inr ⟨equal, name, transport, protocol, type, by simp, meet_everywhere whole⟩
  · exact .inl ⟨equal, destination, leftDestination, rightDestination⟩

/-- Criteria with keys that collide are blended, one way or the other. -/
theorem blends_of_collides {left right : MatchCriteria} (leftValid : left.Valid)
    (rightValid : right.Valid) {first second : SlotKey} (firstListed : first ∈ left.slotKeys)
    (secondListed : second ∈ right.slotKeys) (collides : first.Collides second) :
    left.Blends right ∨ right.Blends left := by
  obtain ⟨leftPort, leftDestination, _, _, _, _, leftSource, _⟩ :=
    (mem_slotKeys_iff leftValid).mp firstListed
  obtain ⟨rightPort, rightDestination, _, _, _, _, rightSource, _⟩ :=
    (mem_slotKeys_iff rightValid).mp secondListed
  obtain ⟨port, ⟨different, meet⟩ |
    ⟨destinations, name, transport, protocol, type, different, meet⟩⟩ := collides
  · have ports := leftPort.symm.trans (port.trans rightPort)
    rcases meet_cases different meet with ⟨whole, range, one, catchAll⟩ | ⟨whole, range, one, catchAll⟩
    · rw [whole] at leftDestination
      rw [one] at rightDestination
      obtain ⟨text, listed, read⟩ := rightDestination
      exact .inl ⟨ports, .inl ⟨leftDestination, text, listed, range, read, catchAll⟩⟩
    · rw [whole] at rightDestination
      rw [one] at leftDestination
      obtain ⟨text, listed, read⟩ := leftDestination
      exact .inr ⟨ports.symm, .inl ⟨rightDestination, text, listed, range, read, catchAll⟩⟩
  · have ports := leftPort.symm.trans (port.trans rightPort)
    -- Slots of the two keys below one destination range.
    obtain ⟨destination, inFirst⟩ := Layout.ranges_ne_nil first.destination
    have inSecond : destination ∈ second.destination.ranges := destinations ▸ inFirst
    obtain ⟨source, ofFirst⟩ := Layout.ranges_ne_nil first.source
    obtain ⟨other, ofSecond⟩ := Layout.ranges_ne_nil second.source
    have slot : first.at destination source ∈ left.slots := (mem_slots_iff leftValid).mpr
      ⟨first, firstListed, SlotKey.mem_slots_iff.mpr ⟨_, inFirst, _, ofFirst, rfl⟩⟩
    have another : second.at destination other ∈ right.slots := (mem_slots_iff rightValid).mpr
      ⟨second, secondListed, SlotKey.mem_slots_iff.mpr ⟨_, inSecond, _, ofSecond, rfl⟩⟩
    rcases meet_cases different meet with ⟨whole, range, one, catchAll⟩ | ⟨whole, range, one, catchAll⟩
    · rw [whole] at leftSource
      rw [one] at rightSource
      obtain ⟨text, listed, read⟩ := rightSource
      refine .inl ⟨ports, .inr ⟨leftSource, ⟨text, listed, range, read, catchAll⟩,
        _, slot, _, another, ?_⟩⟩
      exact Slot.ext port rfl name transport protocol type rfl rfl
    · rw [whole] at rightSource
      rw [one] at leftSource
      obtain ⟨text, listed, read⟩ := leftSource
      refine .inr ⟨ports.symm, .inr ⟨rightSource, ⟨text, listed, range, read, catchAll⟩,
        _, another, _, slot, ?_⟩⟩
      exact Slot.ext port.symm rfl name.symm transport.symm protocol.symm type.symm rfl rfl

end MatchCriteria

/-- Keys collide exactly if criteria are blended. -/
theorem apart_iff {descriptors : List FilterChainDescriptor}
    (valid : ∀ descriptor ∈ descriptors, descriptor.criteria.Valid) :
    (∀ left ∈ descriptors.flatMap (·.criteria.slotKeys),
      ∀ right ∈ descriptors.flatMap (·.criteria.slotKeys), ¬ left.Collides right) ↔
    ∀ left ∈ descriptors, ∀ right ∈ descriptors, ¬ left.criteria.Blends right.criteria := by
  constructor
  · intro apart left leftListed right rightListed blends
    have collision : ∃ first ∈ left.criteria.slotKeys, ∃ second ∈ right.criteria.slotKeys,
        first.Collides second := by
      have leftValid := valid left leftListed
      have rightValid := valid right rightListed
      obtain ⟨ports, ⟨destinationOpen, spelled⟩ |
        ⟨sourceOpen, spelled, slot, inLeft, other, inRight, same⟩⟩ := blends
      · exact MatchCriteria.exists_collision_at_destination leftValid rightValid ports
          destinationOpen spelled
      · exact MatchCriteria.exists_collision_at_source leftValid rightValid sourceOpen spelled
          inLeft inRight same
    obtain ⟨first, firstListed, second, secondListed, collides⟩ := collision
    exact apart first (List.mem_flatMap.mpr ⟨left, leftListed, firstListed⟩) second
      (List.mem_flatMap.mpr ⟨right, rightListed, secondListed⟩) collides
  · intro none first firstListed second secondListed collides
    obtain ⟨left, leftListed, ofLeft⟩ := List.mem_flatMap.mp firstListed
    obtain ⟨right, rightListed, ofRight⟩ := List.mem_flatMap.mp secondListed
    rcases MatchCriteria.blends_of_collides (valid left leftListed) (valid right rightListed) ofLeft
        ofRight collides with blends | blends
    · exact none left leftListed right rightListed blends
    · exact none right rightListed left leftListed blends

namespace MatchIndex

/-- Where descriptions are all right one by one, their criteria differ and the builder takes them,
the batch is accepted exactly if no slot comes up twice and no criteria are blended. -/
theorem accepts_iff (generation : GenerationId) (listener : String)
    {descriptors : List FilterChainDescriptor} {builder : ChainBuilder}
    (previous : Option MatchIndex) (next : Nat)
    (different : (descriptors.map (·.criteria)).Nodup)
    (valid : ∀ descriptor ∈ descriptors, descriptor.criteria.Valid)
    (builds : ∀ descriptor ∈ descriptors, ∃ blueprint, (builder descriptor).result = .built blueprint) :
    (∃ index,
      (build generation listener descriptors builder previous next).outcome = .ok index) ↔
    (descriptors.flatMap (·.criteria.slots)).Nodup ∧
      ∀ left ∈ descriptors, ∀ right ∈ descriptors, ¬ left.criteria.Blends right.criteria := by
  rw [← apart_iff valid]
  rcases build_cases generation listener descriptors builder previous next with
    ⟨index, chains, ok, supplied, _, faultless, free, _⟩ | ⟨error, refused, fault⟩
  · have apart := (free_collide_iff supplied).mp free
    exact ⟨fun _ => ⟨slots_nodup_of_faultless faultless apart, apart⟩, fun _ => ⟨index, ok⟩⟩
  · constructor
    · rintro ⟨index, ok⟩
      exact absurd (refused.symm.trans ok) (by simp)
    · rintro ⟨slots, apart⟩
      refine absurd ⟨⟨different, valid, ?_, ?_⟩, apart⟩ fault
      · intro descriptor listed
        exact .inr (builds descriptor listed)
      · rw [← (descriptor_slots_perm valid).nodup_iff, slots_nodup_iff] at slots
        exact slots.1

theorem accepts_iff_wildcardBatch :
    (wildcardBatch.map (·.criteria)).Nodup ∧
    (∀ descriptor ∈ wildcardBatch, descriptor.criteria.Valid) ∧
    ((∃ index, (build ⟨1⟩ "listener" wildcardBatch (BuildScript.builder ⟨none, false, []⟩) none
        1).outcome = .ok index) ↔
      (wildcardBatch.flatMap (·.criteria.slots)).Nodup ∧
        ∀ left ∈ wildcardBatch, ∀ right ∈ wildcardBatch,
          ¬ left.criteria.Blends right.criteria) := by
  have different : (wildcardBatch.map (·.criteria)).Nodup := by decide +kernel
  have valid : ∀ descriptor ∈ wildcardBatch, descriptor.criteria.Valid := by
    have normal : wildcardBatch.all (·.criteria.normalize.isOk) = true := by decide +kernel
    intro descriptor listed
    exact MatchCriteria.valid_of_isOk (List.all_eq_true.mp normal descriptor listed)
  have builds : ∀ descriptor ∈ wildcardBatch, ∃ blueprint,
      (BuildScript.builder ⟨none, false, []⟩ descriptor).result = .built blueprint := by
    intro descriptor _
    exact ⟨BuildScript.blueprint descriptor, rfl⟩
  exact ⟨different, valid, accepts_iff ⟨1⟩ "listener" none 1 different valid builds⟩

/-- One chain for a name at any address, and one for another name at the spelled out addresses of
one family. -/
def blendedBatch : List FilterChainDescriptor := [
  { FilterChainDescriptor.blank with
    name := "open"
    criteria := { MatchCriteria.anything with serverNames := ["a"] } },
  { FilterChainDescriptor.blank with
    name := "spelled out"
    criteria := { MatchCriteria.anything with
      prefixRanges := ["0.0.0.0/0"], serverNames := ["b"] } }]

/-- A batch without fault and without a slot that comes up twice is refused. -/
theorem blendedBatch_refused :
    (blendedBatch.map (·.criteria)).Nodup ∧
    (∀ descriptor ∈ blendedBatch, descriptor.criteria.Valid) ∧
    (∀ descriptor ∈ blendedBatch, ∃ blueprint,
      (BuildScript.builder ⟨none, false, []⟩ descriptor).result = .built blueprint) ∧
    (blendedBatch.flatMap (·.criteria.slots)).Nodup ∧
    (build ⟨1⟩ "listener" blendedBatch (BuildScript.builder ⟨none, false, []⟩) none 1).outcome =
      .error .overlappingMatchRule := by
  refine ⟨by decide +kernel, ?_, ?_, by decide +kernel, ?_⟩
  · have normal : blendedBatch.all (·.criteria.normalize.isOk) = true := by decide +kernel
    intro descriptor listed
    exact MatchCriteria.valid_of_isOk (List.all_eq_true.mp normal descriptor listed)
  · intro descriptor _
    exact ⟨BuildScript.blueprint descriptor, rfl⟩
  · rfl

end MatchIndex

end Admission.Chain
