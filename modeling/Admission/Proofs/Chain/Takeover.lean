import Admission.Proofs.Chain.Renewal
import Admission.Proofs.Chain.Reuse
import Admission.Proofs.Json.Reading

/-!
Contract: chains are taken over exactly for unchanged descriptions, and this changes no look-up.

Owns:
- `FilterChainDescriptor.Unchanged`, by which descriptions are compared with their configurations as
  JSON values, and that every description which is read is `Ordered`, so that its key tells
  (`reuseKey_eq_iff_unchanged`);
- `MatchIndex.LeftBy`, an index as a history of builds has left it;
- `MatchIndex.takeover_is_exact`.
-/

namespace Admission.Chain

open Admission.Json Admission.Listener
open BuildState (SuppliedAll)

/-! ## Descriptions -/

/-- One factory, with one configuration as a JSON value. -/
structure FactoryConfig.Unchanged (left right : FactoryConfig) : Prop where
  name : left.name = right.name
  config : left.config.Equals right.config

/-- Equal criteria, and all else the same as JSON. -/
structure FilterChainDescriptor.Unchanged (left right : FilterChainDescriptor) : Prop where
  criteria : left.criteria = right.criteria
  name : left.name = right.name
  transportSocket : left.transportSocket.Unchanged right.transportSocket
  filters : List.Forall₂ FactoryConfig.Unchanged left.filters right.filters
  connectTimeout : left.transportSocketConnectTimeout = right.transportSocketConnectTimeout

/-- The objects of the configuration are sorted. -/
structure FactoryConfig.Ordered (factory : FactoryConfig) : Prop where
  config : factory.config.Ordered

/-- The objects of all configurations are sorted. -/
structure FilterChainDescriptor.Ordered (descriptor : FilterChainDescriptor) : Prop where
  transportSocket : descriptor.transportSocket.Ordered
  filters : ∀ filter ∈ descriptor.filters, filter.Ordered

private theorem FactoryConfig.unchanged_iff_alike {left right : FactoryConfig}
    (leftOrdered : left.Ordered) (rightOrdered : right.Ordered) :
    left.Unchanged right ↔ left.Alike right := by
  have configs := equals_iff_spelling leftOrdered.config rightOrdered.config
  exact ⟨fun same => ⟨same.name, configs.mp same.config⟩,
    fun alike => ⟨alike.name, configs.mpr alike.config⟩⟩

private theorem factories_unchanged_iff_alike {left right : List FactoryConfig}
    (leftOrdered : ∀ factory ∈ left, factory.Ordered)
    (rightOrdered : ∀ factory ∈ right, factory.Ordered) :
    List.Forall₂ FactoryConfig.Unchanged left right ↔
      List.Forall₂ FactoryConfig.Alike left right := by
  induction left generalizing right with
  | nil => rw [List.forall₂_nil_left_iff, List.forall₂_nil_left_iff]
  | cons first left inductionHypothesis =>
      cases right with
      | nil => simp
      | cons second right =>
          rw [List.forall_mem_cons] at leftOrdered rightOrdered
          rw [List.forall₂_cons, List.forall₂_cons,
            FactoryConfig.unchanged_iff_alike leftOrdered.1 rightOrdered.1,
            inductionHypothesis leftOrdered.2 rightOrdered.2]

namespace FilterChainDescriptor

private theorem unchanged_iff_alike {left right : FilterChainDescriptor}
    (leftOrdered : left.Ordered)
    (rightOrdered : right.Ordered) : left.Unchanged right ↔ left.Alike right := by
  have transports := FactoryConfig.unchanged_iff_alike leftOrdered.transportSocket
    rightOrdered.transportSocket
  have filters := factories_unchanged_iff_alike leftOrdered.filters rightOrdered.filters
  constructor
  · intro same
    exact ⟨same.criteria, same.name, transports.mp same.transportSocket, filters.mp same.filters,
      same.connectTimeout⟩
  · intro alike
    exact ⟨alike.criteria, alike.name, transports.mpr alike.transportSocket,
      filters.mpr alike.filters, alike.connectTimeout⟩

/-- Ordered descriptions have one key exactly if one is the other unchanged. -/
theorem reuseKey_eq_iff_unchanged {texts : Set (List UInt8)} (collisionFree : CollisionFree texts)
    {left right : FilterChainDescriptor} (leftOrdered : left.Ordered) (rightOrdered : right.Ordered)
    (leftText : left.contentBytes ∈ texts) (rightText : right.contentBytes ∈ texts) :
    left.reuseKey = right.reuseKey ↔ left.Unchanged right := by
  rw [unchanged_iff_alike leftOrdered rightOrdered]
  exact reuseKey_eq_iff collisionFree leftText rightText

end FilterChainDescriptor

/-! ## Descriptions that are read -/

private theorem FactoryConfig.ordered_of_read {origin : Json.Origin} {draft : Draft}
    {factory : FactoryConfig} (read : FactoryConfig.decoder origin draft = .ok factory) :
    factory.Ordered := by
  refine Decoder.record_keeps ?_ ⟨.null⟩ read
  intro field record origin draft after ordered given
  dsimp only [FactoryConfig.setField] at given
  split at given
  · obtain ⟨name, _, given⟩ := bind_eq_ok_iff.mp given
    rw [← Except.ok.inj given]
    exact ⟨ordered.config⟩
  · obtain ⟨config, value, given⟩ := bind_eq_ok_iff.mp given
    rw [← Except.ok.inj given]
    exact ⟨ordered_anyFrom draft value⟩
  · rw [← Except.ok.inj given]
    exact ordered

private theorem FilterChainDescriptor.ordered_blank : blank.Ordered where
  transportSocket := ⟨.null⟩
  filters := by simp [blank]

/-- Every description that is read is ordered. -/
theorem FilterChainDescriptor.ordered_of_read {origin : Json.Origin} {draft : Draft}
    {descriptor : FilterChainDescriptor}
    (read : FilterChainDescriptor.decoder origin draft = .ok descriptor) : descriptor.Ordered := by
  refine Decoder.record_keeps ?_ ordered_blank read
  intro field record origin draft after ordered given
  dsimp only [setField] at given
  split at given
  · obtain ⟨name, _, given⟩ := bind_eq_ok_iff.mp given
    rw [← Except.ok.inj given]
    exact ⟨ordered.transportSocket, ordered.filters⟩
  · obtain ⟨criteria, _, given⟩ := bind_eq_ok_iff.mp given
    rw [← Except.ok.inj given]
    exact ⟨ordered.transportSocket, ordered.filters⟩
  · obtain ⟨transportSocket, value, given⟩ := bind_eq_ok_iff.mp given
    rw [← Except.ok.inj given]
    exact ⟨FactoryConfig.ordered_of_read value, ordered.filters⟩
  · obtain ⟨filters, value, given⟩ := bind_eq_ok_iff.mp given
    rw [← Except.ok.inj given]
    exact ⟨ordered.transportSocket,
      Decoder.list_keeps (fun _ _ _ => FactoryConfig.ordered_of_read) value⟩
  · obtain ⟨timeout, _, given⟩ := bind_eq_ok_iff.mp given
    rw [← Except.ok.inj given]
    exact ⟨ordered.transportSocket, ordered.filters⟩
  · rw [← Except.ok.inj given]
    exact ordered

/-! ## Chains that are taken over -/

namespace MatchIndex

/-- The index of a batch, as a history of builds has left it with the identity of the next chain. -/
def LeftBy (index : MatchIndex) (batch : List FilterChainDescriptor) (next : Nat) : Prop :=
  ∃ generation listener builder previous first, Reached previous first ∧
    (build generation listener batch builder previous first).outcome = .ok index ∧
    (build generation listener batch builder previous first).state.nextChain ≤ next

private theorem LeftBy.identified {index : MatchIndex} {batch : List FilterChainDescriptor}
    {next : Nat} (left : index.LeftBy batch next) : index.Identified next := by
  obtain ⟨_, _, _, _, _, reached, accepted, drawn⟩ := left
  exact (identified_of_accepted reached.identified accepted).mono drawn

/-- An index has a chain for each description of its batch and for no other key. -/
theorem LeftBy.keys {index : MatchIndex} {batch : List FilterChainDescriptor} {next : Nat}
    (left : index.LeftBy batch next) : index.chains.map (·.1) = batch.map (·.reuseKey) := by
  obtain ⟨_, _, _, _, _, _, accepted, _⟩ := left
  obtain ⟨_, supplied, held, _, _, _⟩ := exists_placed_of_accepted accepted
  rw [held]
  exact held_keys supplied

variable {later : GenerationId} {listener : String} {batch former : List FilterChainDescriptor}
  {builder : ChainBuilder} {next : Nat} {old index : MatchIndex}

/-- The chain of a description is one of the earlier index exactly if a description of the earlier
batch has its key, and then it is that one's chain. -/
theorem taken_over_iff (left : old.LeftBy former next)
    (accepted : (build later listener batch builder (some old) next).outcome = .ok index)
    {descriptor : FilterChainDescriptor} (listed : descriptor ∈ batch) :
    ∃ chain, index.chainOf? descriptor.reuseKey = some chain ∧
      (chain.id ∈ old.chainIds ↔ ∃ earlier ∈ former, descriptor.reuseKey = earlier.reuseKey) ∧
      ∀ earlier ∈ former, descriptor.reuseKey = earlier.reuseKey →
        old.chainOf? earlier.reuseKey = some chain := by
  obtain ⟨chains, supplied, held, faultless, _, _⟩ := exists_placed_of_accepted accepted
  rw [← List.map_fst_zip (Nat.le_of_eq supplied.length_eq)] at listed
  obtain ⟨placement, placed, rfl⟩ := List.mem_map.mp listed
  have own := chainOf?_of_placed supplied held faultless.different placed
  refine ⟨placement.2, own, ?_⟩
  have key_mem_iff : (∃ earlier ∈ former, placement.1.reuseKey = earlier.reuseKey) ↔
      placement.1.reuseKey ∈ old.chains.map (·.1) := by
    rw [left.keys, List.mem_map]
    simp only [eq_comm]
  rw [key_mem_iff]
  rcases kept_or_made supplied placed with kept | ⟨absent, _, fresh, _⟩
  · rw [Option.bind_some] at kept
    have entry := mem_of_chainOf? kept
    refine ⟨⟨fun _ => List.mem_map_of_mem entry, fun _ => mem_chainIds entry⟩, ?_⟩
    intro earlier _ same
    rw [← same]
    exact kept
  · -- A key of the earlier index would have given its chain.
    have unknown : placement.1.reuseKey ∉ old.chains.map (·.1) := by
      intro known
      obtain ⟨entry, entryListed, same⟩ := List.mem_map.mp known
      rw [Option.bind_some, chainOf?, Option.map_eq_none_iff, List.find?_eq_none] at absent
      exact absent entry entryListed (decide_eq_true same)
    refine ⟨⟨?_, fun known => absurd known unknown⟩, ?_⟩
    · intro drawnBefore
      have below := left.identified.drawn _ drawnBefore
      exact absurd below (Nat.not_lt.mpr fresh)
    · intro earlier earlierListed same
      exact absurd (key_mem_iff.mp ⟨earlier, earlierListed, same⟩) unknown

/-- Descriptions, which are read ordered, have one key exactly if they have equal criteria and are the
same as JSON in all else. So, after whatever history of builds, a batch is accepted alike with the
previous index and without it; with it, a description is given a chain of the previous index exactly
if it was in the previous batch unchanged, and then the chain it had there; and look-ups select the
same description in both indices. -/
theorem takeover_is_exact :
    (∀ (origin : Json.Origin) (draft : Draft) (descriptor : FilterChainDescriptor),
      FilterChainDescriptor.decoder origin draft = .ok descriptor → descriptor.Ordered) ∧
    (∀ left right : FilterChainDescriptor, left.Ordered → right.Ordered →
      CollisionFree {left.contentBytes, right.contentBytes} →
      (left.reuseKey = right.reuseKey ↔ left.Unchanged right)) ∧
    (∀ (old : MatchIndex) (former batch : List FilterChainDescriptor) (builder : ChainBuilder)
      (next : Nat), old.LeftBy former next → Builds builder batch →
      (∀ descriptor ∈ former ++ batch, descriptor.Ordered) →
      CollisionFree {text | ∃ descriptor ∈ former ++ batch, descriptor.contentBytes = text} →
      ∀ (generation later : GenerationId) (listener another : String) (first : Nat),
      ((∃ index, (build later listener batch builder (some old) next).outcome = .ok index) ↔
        ∃ fresh, (build generation another batch builder none first).outcome = .ok fresh) ∧
      (∀ index, (build later listener batch builder (some old) next).outcome = .ok index →
        ∀ descriptor ∈ batch, ∃ chain, index.chainOf? descriptor.reuseKey = some chain ∧
          (chain.id ∈ old.chainIds ↔ ∃ earlier ∈ former, descriptor.Unchanged earlier) ∧
          ∀ earlier ∈ former, descriptor.Unchanged earlier →
            old.chainOf? earlier.reuseKey = some chain) ∧
      ∀ index fresh, (build later listener batch builder (some old) next).outcome = .ok index →
        (build generation another batch builder none first).outcome = .ok fresh →
        ∀ socket, ∃ selected, index.Selects batch socket selected ∧
          fresh.Selects batch socket selected) := by
  refine ⟨fun _ _ _ => FilterChainDescriptor.ordered_of_read, ?_, ?_⟩
  · intro left right leftOrdered rightOrdered collisionFree
    exact FilterChainDescriptor.reuseKey_eq_iff_unchanged collisionFree leftOrdered rightOrdered
      (.inl rfl) (.inr rfl)
  · intro old former batch builder next left builds ordered collisionFree generation later listener
      another first
    refine ⟨⟨?_, ?_⟩, ?_, ?_⟩
    · rintro ⟨index, accepted⟩
      exact exists_accepted_of_perm accepted (.refl batch) builds
    · rintro ⟨fresh, accepted⟩
      exact exists_accepted_of_perm accepted (.refl batch) builds
    · intro index accepted descriptor listed
      have unchanged_iff (earlier : FilterChainDescriptor) (earlierListed : earlier ∈ former) :
          descriptor.reuseKey = earlier.reuseKey ↔ descriptor.Unchanged earlier := by
        have here : descriptor ∈ former ++ batch := List.mem_append_right _ listed
        have there : earlier ∈ former ++ batch := List.mem_append_left _ earlierListed
        exact FilterChainDescriptor.reuseKey_eq_iff_unchanged collisionFree (ordered _ here)
          (ordered _ there) ⟨descriptor, here, rfl⟩ ⟨earlier, there, rfl⟩
      obtain ⟨chain, held, taken_iff, own⟩ := taken_over_iff left accepted listed
      refine ⟨chain, held, taken_iff.trans ⟨?_, ?_⟩, ?_⟩
      · rintro ⟨earlier, earlierListed, same⟩
        exact ⟨earlier, earlierListed, (unchanged_iff earlier earlierListed).mp same⟩
      · rintro ⟨earlier, earlierListed, unchanged⟩
        exact ⟨earlier, earlierListed, (unchanged_iff earlier earlierListed).mpr unchanged⟩
      · intro earlier earlierListed unchanged
        exact own earlier earlierListed ((unchanged_iff earlier earlierListed).mpr unchanged)
    · intro index fresh accepted alsoAccepted socket
      exact ⟨_, selects_of_perm accepted alsoAccepted (.refl batch) socket⟩

/-- The chain of one transport. -/
def ofTransport (transport : String) : FilterChainDescriptor :=
  { FilterChainDescriptor.blank with
    criteria := { MatchCriteria.anything with transportProtocol := transport } }

/-- Of two descriptions one is left as it was; it alone keeps its chain. -/
theorem takeover_is_exact_ofTransport :
    ∃ old index : MatchIndex,
      (build ⟨1⟩ "listener" [ofTransport "tls", ofTransport "raw_buffer"]
        (BuildScript.builder ⟨none, false, []⟩) none 1).outcome = .ok old ∧
      (build ⟨2⟩ "listener" [ofTransport "tls", ofTransport "quic"]
        (BuildScript.builder ⟨none, false, []⟩) (some old) 3).outcome = .ok index ∧
      (∃ chain, index.chainOf? (ofTransport "tls").reuseKey = some chain ∧
        old.chainOf? (ofTransport "tls").reuseKey = some chain) ∧
      ∃ chain, index.chainOf? (ofTransport "quic").reuseKey = some chain ∧
        chain.id ∉ old.chainIds := by
  let builder := BuildScript.builder ⟨none, false, []⟩
  let former := [ofTransport "tls", ofTransport "raw_buffer"]
  let batch := [ofTransport "tls", ofTransport "quic"]
  obtain ⟨old, held⟩ : ∃ old, (build ⟨1⟩ "listener" former builder none 1).outcome = .ok old :=
    exists_ok_of_isOk (by decide +kernel)
  have left : old.LeftBy former 3 :=
    ⟨⟨1⟩, "listener", builder, none, 1, .start 1, held, by decide +kernel⟩
  have alone : ∃ fresh, (build ⟨2⟩ "listener" batch builder none 3).outcome = .ok fresh :=
    exists_ok_of_isOk (by decide +kernel)
  have builds : Builds builder batch :=
    fun descriptor _ => ⟨BuildScript.blueprint descriptor, rfl⟩
  -- They differ in the criteria only, which are no part of the content.
  have named (descriptor : FilterChainDescriptor) (listed : descriptor ∈ former ++ batch) :
      ∃ transport, descriptor = ofTransport transport := by
    simp only [former, batch, List.cons_append, List.nil_append, List.mem_cons, List.not_mem_nil,
      or_false] at listed
    rcases listed with rfl | rfl | rfl | rfl <;> exact ⟨_, rfl⟩
  have ordered : ∀ descriptor ∈ former ++ batch, descriptor.Ordered := by
    intro descriptor listed
    obtain ⟨transport, rfl⟩ := named descriptor listed
    exact ⟨⟨.null⟩, FilterChainDescriptor.ordered_blank.filters⟩
  have collisionFree : CollisionFree
      {text | ∃ descriptor ∈ former ++ batch, descriptor.contentBytes = text} := by
    rintro _ ⟨one, oneListed, rfl⟩ _ ⟨other, otherListed, rfl⟩ _
    obtain ⟨_, rfl⟩ := named one oneListed
    obtain ⟨_, rfl⟩ := named other otherListed
    rfl
  obtain ⟨accepts_iff, taken_over_iff, _⟩ := takeover_is_exact.2.2 old former batch builder 3 left
    builds ordered collisionFree ⟨2⟩ ⟨2⟩ "listener" "listener" 3
  obtain ⟨index, accepted⟩ := accepts_iff.mpr alone
  refine ⟨old, index, held, accepted, ?_, ?_⟩
  · obtain ⟨chain, own, _, kept⟩ := taken_over_iff index accepted (ofTransport "tls") (by simp [batch])
    refine ⟨chain, own, kept (ofTransport "tls") (by simp [former]) ?_⟩
    exact ⟨rfl, rfl, ⟨rfl, .null⟩, .nil, rfl⟩
  · obtain ⟨chain, own, taken, _⟩ := taken_over_iff index accepted (ofTransport "quic")
      (by simp [batch])
    refine ⟨chain, own, fun there => ?_⟩
    obtain ⟨earlier, earlierListed, unchanged⟩ := taken.mp there
    have criteria := unchanged.criteria
    simp only [former, List.mem_cons, List.not_mem_nil, or_false] at earlierListed
    rcases earlierListed with rfl | rfl
    · exact absurd criteria (by decide)
    · exact absurd criteria (by decide)

end MatchIndex

end Admission.Chain
