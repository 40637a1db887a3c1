import Admission.Proofs.Chain.Narrowing
import Admission.Proofs.Chain.Unambiguous

/-!
Contract: a look-up in an index selects the description that narrowing the flat list of all slots
leaves.

Owns:
- that narrowing does not look at owners (`narrow_withOwners`), and that what it leaves has one slot
  (`narrow_settles`);
- `rulesOf`, the slots of a batch with the descriptions they belong to;
- `MatchIndex.find_eq_narrow`.
-/

namespace Admission.Chain

open Admission.Net Admission.Listener
open BuildState (SuppliedAll)

namespace Rules

/-! ## Owners -/

section Owners

variable {α β κ : Type} [DecidableEq κ] (owner : α → β) (rules : Rules α)

/-- The rules with other owners. -/
def withOwners : Rules β :=
  rules.map fun rule => (rule.1, owner rule.2)

theorem commit_withOwners (level : Slot → κ) (keys : List κ) :
    commit (withOwners owner rules) level keys = withOwners owner (rules.commit level keys) := by
  unfold commit withOwners
  simp only [List.any_map, Function.comp_def]
  cases keys.find? fun key => rules.any fun rule => decide (level rule.1 = key) with
  | none => rfl
  | some key => simp [List.filter_map, Function.comp_def]

theorem longest_withOwners (fits : Slot → Bool) (size : Slot → Nat) :
    longest (withOwners owner rules) fits size = withOwners owner (rules.longest fits size) := by
  unfold longest withOwners
  simp [List.filter_map, List.all_map, Function.comp_def]

theorem orElse_withOwners (others : Rules α) :
    orElse (withOwners owner rules) (withOwners owner others) =
      withOwners owner (rules.orElse others) := by
  unfold orElse withOwners
  rw [List.isEmpty_map]
  split <;> rfl

/-- Narrowing does not look at owners. -/
theorem narrow_withOwners (socket : Socket) :
    narrow (withOwners owner rules) socket = withOwners owner (rules.narrow socket) := by
  simp only [narrow, byPort, byDestination, byServerName, byTransport, byProtocol, bySourceType,
    bySource, bySourcePort, commit_withOwners, longest_withOwners, orElse_withOwners]

end Owners

/-! ## What is left -/

section Left

variable {α : Type} {rules : Rules α}

/-- A step of narrowing keeps the order of rules, and what it leaves is alike. -/
structure Settles (before after : Rules α) (alike : Slot → Slot → Prop) : Prop where
  sublist : after.Sublist before
  agree : ∀ left ∈ after, ∀ right ∈ after, alike left.1 right.1

private theorem Settles.trans {middle after : Rules α} {first next : Slot → Slot → Prop}
    (earlier : Settles rules middle first) (later : Settles middle after next) :
    Settles rules after fun left right => first left right ∧ next left right where
  sublist := later.sublist.trans earlier.sublist
  agree := by
    intro left leftMember right rightMember
    have kept := later.sublist.subset
    exact ⟨earlier.agree left (kept leftMember) right (kept rightMember),
      later.agree left leftMember right rightMember⟩

private theorem commit_settles {κ : Type} [DecidableEq κ] (rules : Rules α) (level : Slot → κ)
    (keys : List κ) :
    Settles rules (rules.commit level keys) fun left right => level left = level right := by
  unfold commit
  split
  · rename_i key _
    refine ⟨List.filter_sublist, ?_⟩
    intro left leftMember right rightMember
    have leftHas := of_decide_eq_true (List.mem_filter.mp leftMember).2
    have rightHas := of_decide_eq_true (List.mem_filter.mp rightMember).2
    exact leftHas.trans rightHas.symm
  · refine ⟨List.nil_sublist rules, ?_⟩
    intro left leftMember
    exact absurd leftMember List.not_mem_nil

/-- Ranges of one length that hold one address are one range. -/
theorem longest_settles (rules : Rules α) (level : Slot → CidrRange) (address : IpAddress) :
    Settles rules
      (rules.longest (fun slot => (level slot).contains address) fun slot => (level slot).length)
      fun left right => level left = level right := by
  refine ⟨List.filter_sublist, ?_⟩
  intro left leftMember right rightMember
  obtain ⟨leftListed, leftKept⟩ := List.mem_filter.mp leftMember
  obtain ⟨rightListed, rightKept⟩ := List.mem_filter.mp rightMember
  simp only [Bool.and_eq_true, List.all_eq_true, Bool.or_eq_true, Bool.not_eq_true',
    decide_eq_true_eq] at leftKept rightKept
  obtain ⟨leftHolds, leftLongest⟩ := leftKept
  obtain ⟨rightHolds, rightLongest⟩ := rightKept
  apply CidrRange.eq_of_contains leftHolds rightHolds
  have atMost : (level left.1).length ≤ (level right.1).length := by
    simpa [leftHolds] using rightLongest left leftListed
  have atLeast : (level right.1).length ≤ (level left.1).length := by
    simpa [rightHolds] using leftLongest right rightListed
  exact Nat.le_antisymm atMost atLeast

/-- Narrowing keeps the order of rules, and the rules that it leaves have one slot. -/
theorem narrow_settles (rules : Rules α) (socket : Socket) :
    Settles rules (rules.narrow socket) fun left right => left = right := by
  have port := commit_settles rules Slot.port (socket.localAddress.port?.toList ++ [0])
  have destination := longest_settles (rules.byPort socket) Slot.destination
    socket.localAddress.ipOrPlaceholder
  have serverName := commit_settles ((rules.byPort socket).byDestination socket) Slot.serverName
    ([socket.serverName] ++ (wildcardKeys socket.serverName ++ [""]))
  rw [← byServerName_eq] at serverName
  have named := (port.trans destination).trans serverName
  have byProtocols := (named.trans
    (commit_settles _ Slot.transport [socket.transportProtocol, ""])).trans
    (commit_settles _ Slot.protocol (socket.applicationProtocols ++ [""]))
  have bySources := ((byProtocols.trans
    (commit_settles _ Slot.sourceType [if socket.isLocal then .sameHost else .external, .any])).trans
    (longest_settles _ Slot.source socket.remoteAddress.ipOrPlaceholder)).trans
    (commit_settles _ Slot.sourcePort [socket.remoteAddress.port?.getD 0, 0])
  refine ⟨bySources.sublist, ?_⟩
  intro left leftMember right rightMember
  obtain ⟨⟨⟨⟨⟨⟨⟨port, destination⟩, serverName⟩, transport⟩, protocol⟩, type⟩, source⟩, sourcePort⟩ :=
    bySources.agree left leftMember right rightMember
  exact Slot.ext port destination serverName transport protocol type source sourcePort

end Left

end Rules

/-- The slots of a batch with the descriptions they belong to. -/
def rulesOf (descriptors : List FilterChainDescriptor) : Rules FilterChainDescriptor :=
  descriptors.flatMap fun descriptor => descriptor.criteria.slots.map fun slot => (slot, descriptor)

/-! ## The index -/

section Placed

/-- The slots of placed descriptions. -/
def rulesOfPlaced (placed : List Placement) : Rules Placement :=
  placed.flatMap fun placement => placement.1.criteria.slots.map fun slot => (slot, placement)

theorem rulesOfPlaced_descriptors {descriptors : List FilterChainDescriptor}
    {chains : List FilterChain} (lengths : descriptors.length = chains.length) :
    (rulesOfPlaced (descriptors.zip chains)).withOwners (·.1) = rulesOf descriptors := by
  have firsts := List.map_fst_zip (Nat.le_of_eq lengths)
  calc (rulesOfPlaced (descriptors.zip chains)).withOwners (·.1)
      = rulesOf ((descriptors.zip chains).map Prod.fst) := by
        simp [rulesOfPlaced, Rules.withOwners, rulesOf, List.map_flatMap, List.flatMap_map,
          Function.comp_def]
    _ = rulesOf descriptors := by rw [firsts]

/-- The slots of placed descriptions, with their chains, are what their claims become. -/
theorem members_rulesOfPlaced {placed : List Placement}
    (valid : ∀ placement ∈ placed, placement.1.criteria.Valid) :
    members ((rulesOfPlaced placed).withOwners (·.2)) =
      Layout.expansion Layout.Becomes (claimsOf placed) := by
  ext rule
  constructor
  · intro listed
    obtain ⟨owned, ownedListed, rfl⟩ := List.mem_map.mp listed
    obtain ⟨placement, member, inside⟩ := List.mem_flatMap.mp ownedListed
    obtain ⟨slot, own, rfl⟩ := List.mem_map.mp inside
    obtain ⟨key, keyListed, inKey⟩ := (MatchCriteria.mem_slots_iff (valid placement member)).mp own
    obtain ⟨destination, destinationListed, source, sourceListed, same⟩ :=
      SlotKey.mem_slots_iff.mp inKey
    refine ⟨(key, placement.2), ⟨placement, member, keyListed, rfl⟩, destination,
      destinationListed, source, sourceListed, ?_⟩
    rw [same]
    rfl
  · rintro ⟨⟨key, chain⟩, ⟨placement, member, keyListed, rfl⟩, destination, destinationListed,
      source, sourceListed, same⟩
    have inKey : key.at destination source ∈ key.slots :=
      SlotKey.mem_slots_iff.mpr ⟨destination, destinationListed, source, sourceListed, rfl⟩
    have own := (MatchCriteria.mem_slots_iff (valid placement member)).mpr ⟨key, keyListed, inKey⟩
    rw [same]
    refine List.mem_map.mpr ⟨(key.at destination source, placement), ?_, rfl⟩
    exact List.mem_flatMap.mpr ⟨placement, member, List.mem_map.mpr ⟨_, own, rfl⟩⟩

theorem rulesOf_slots (descriptors : List FilterChainDescriptor) :
    (rulesOf descriptors).map (·.1) = descriptors.flatMap (·.criteria.slots) := by
  simp [rulesOf, List.map_flatMap, Function.comp_def]

/-- Where no slot comes up twice, narrowing leaves one rule at most. -/
theorem narrow_length_le {α : Type} {rules : Rules α} (distinct : (rules.map (·.1)).Nodup)
    (socket : Socket) : (rules.narrow socket).length ≤ 1 := by
  obtain ⟨sublist, agree⟩ := Rules.narrow_settles rules socket
  have leftDistinct := distinct.sublist (sublist.map _)
  match shape : rules.narrow socket with
  | [] => exact Nat.zero_le _
  | [_] => exact Nat.le_refl _
  | first :: second :: rest =>
      rw [shape] at agree leftDistinct
      have same := agree first (by simp) second (by simp)
      rw [List.map_cons, List.map_cons, List.nodup_cons] at leftDistinct
      exact absurd (same ▸ List.mem_cons_self) leftDistinct.1

end Placed

namespace MatchIndex

variable {generation : GenerationId} {listener : String}
  {descriptors : List FilterChainDescriptor} {builder : ChainBuilder}
  {previous : Option MatchIndex} {next : Nat} {index : MatchIndex}

/-- A chain belongs to a description if it was taken over under the key of the description, or made
after the blueprint that the builder has for it. -/
def Owns (builder : ChainBuilder) (previous : Option MatchIndex)
    (descriptor : FilterChainDescriptor) (chain : FilterChain) : Prop :=
  previous.bind (·.chainOf? descriptor.reuseKey) = some chain ∨
    (builder descriptor).result = .built chain.toBlueprint

/-- A single rule that is left decides a look-up. -/
theorem outcome_of_single {left : Rules Placement} {outcome : Option FilterChain}
    (single : left.length ≤ 1) (answers : Answers outcome (left.withOwners (·.2)))
    (chainOf : FilterChainDescriptor → Option FilterChain)
    (own : ∀ rule ∈ left, chainOf rule.2.1 = some rule.2.2) :
    (left.withOwners (·.1)).map (fun rule => chainOf rule.2) = outcome.toList.map some := by
  cases outcome with
  | none =>
      have empty : left.withOwners (·.2) = [] := answers
      rw [Rules.withOwners, List.map_eq_nil_iff] at empty
      rw [empty]
      rfl
  | some chain =>
      obtain ⟨nonempty, owned⟩ := answers
      match left with
      | [] => exact absurd rfl nonempty
      | [rule] =>
          have owner : rule.2.2 = chain := owned (rule.1, rule.2.2) List.mem_cons_self
          show [chainOf rule.2.1] = [some chain]
          rw [own rule List.mem_cons_self, owner]
      | _ :: _ :: _ => exact absurd single (by simp)

/-- The chains of an accepted batch, and what a look-up among them answers. -/
theorem exists_placed_of_accepted
    (accepted : (build generation listener descriptors builder previous next).outcome = .ok index) :
    ∃ chains,
      BuildState.SuppliedAll builder previous descriptors next chains
        (build generation listener descriptors builder previous next).state.nextChain ∧
      index.chains = (descriptors.zip chains).map (fun placement =>
        (placement.1.reuseKey, placement.2)) ∧
      Faultless builder previous descriptors ∧
      (descriptors.flatMap (·.criteria.slots)).Nodup ∧
      ∀ socket, Answers (index.find socket).chain
        (((rulesOfPlaced (descriptors.zip chains)).narrow socket).withOwners (·.2)) := by
  rcases build_cases generation listener descriptors builder previous next with
    ⟨result, chains, ok, supplied, held, faultless, free, answers⟩ | ⟨error, refused, _⟩
  · obtain rfl : result = index := Except.ok.inj (ok.symm.trans accepted)
    have valid : ∀ placement ∈ descriptors.zip chains, placement.1.criteria.Valid := by
      intro placement placed
      exact faultless.valid placement.1 (List.of_mem_zip placed).1
    rw [← members_rulesOfPlaced valid] at answers
    refine ⟨chains, supplied, held, faultless, ?_, ?_⟩
    · exact slots_nodup_of_faultless faultless ((free_collide_iff supplied).mp free)
    · intro socket
      rw [← Rules.narrow_withOwners]
      exact find_answers socket answers
  · exact absurd (refused.symm.trans accepted) (by simp)

/-- A rule that is left belongs to one of the placed descriptions. -/
theorem placed_of_left {placed : List Placement} {socket : Socket} {rule : Slot × Placement}
    (left : rule ∈ (rulesOfPlaced placed).narrow socket) : rule.2 ∈ placed := by
  have listed := (Rules.narrow_settles _ socket).sublist.subset left
  obtain ⟨placement, member, own⟩ := List.mem_flatMap.mp listed
  obtain ⟨slot, _, rfl⟩ := List.mem_map.mp own
  exact member

/-- A look-up gives a chain of the index. -/
theorem mem_chains_of_find
    (accepted : (build generation listener descriptors builder previous next).outcome = .ok index)
    {socket : Socket} {chain : FilterChain} (found : (index.find socket).chain = some chain) :
    ∃ key, (key, chain) ∈ index.chains := by
  obtain ⟨chains, _, held, _, _, answers⟩ := exists_placed_of_accepted accepted
  have answer := answers socket
  rw [found] at answer
  obtain ⟨nonempty, owned⟩ := answer
  obtain ⟨rule, left⟩ := List.exists_mem_of_ne_nil _ nonempty
  obtain ⟨inner, innerLeft, same⟩ := List.mem_map.mp left
  have owner : inner.2.2 = chain := by
    rw [← owned rule left, ← same]
  refine ⟨inner.2.1.reuseKey, ?_⟩
  rw [held, ← owner]
  exact List.mem_map.mpr ⟨inner.2, placed_of_left innerLeft, rfl⟩

/-- A look-up in the index of an accepted batch finds the chain of the description whose slot is
left when the slots of the batch are narrowed for the socket, and nothing if none is left. -/
theorem find_eq_narrow
    (accepted : (build generation listener descriptors builder previous next).outcome = .ok index)
    (socket : Socket) :
    ((rulesOf descriptors).narrow socket).map (fun rule => index.chainOf? rule.2.reuseKey) =
        (index.find socket).chain.toList.map some ∧
      ∀ descriptor ∈ descriptors, ∃ chain,
        index.chainOf? descriptor.reuseKey = some chain ∧
        Owns builder previous descriptor chain := by
  obtain ⟨chains, supplied, held, faultless, slotsDistinct, answers⟩ :=
    exists_placed_of_accepted accepted
  have lengths := supplied.length_eq
  have keysDistinct : (index.chains.map (·.1)).Nodup := by
    rw [held, held_keys supplied]
    exact reuseKeys_nodup faultless.different
  have chainOf {placement : Placement} (placed : placement ∈ descriptors.zip chains) :
      index.chainOf? placement.1.reuseKey = some placement.2 := by
    refine chainOf?_of_mem keysDistinct ?_
    rw [held]
    exact List.mem_map.mpr ⟨placement, placed, rfl⟩
  constructor
  · -- One list of rules, with descriptions for the reference and with chains for the index.
    rw [← rulesOf_slots] at slotsDistinct
    have single := narrow_length_le slotsDistinct socket
    rw [← rulesOfPlaced_descriptors lengths, Rules.narrow_withOwners] at single ⊢
    rw [Rules.withOwners, List.length_map] at single
    refine outcome_of_single single (answers socket)
      (fun descriptor => index.chainOf? descriptor.reuseKey) ?_
    intro rule left
    exact chainOf (placed_of_left left)
  · intro descriptor member
    rw [← List.map_fst_zip (Nat.le_of_eq lengths)] at member
    obtain ⟨placement, placed, rfl⟩ := List.mem_map.mp member
    refine ⟨placement.2, chainOf placed, ?_⟩
    rcases kept_or_made supplied placed with kept | ⟨_, built, _, _⟩
    · exact .inl kept
    · exact .inr built

theorem find_eq_narrow_wildcardBatch :
    ∃ index,
      (build ⟨1⟩ "listener" wildcardBatch (BuildScript.builder ⟨none, false, []⟩) none
        1).outcome = .ok index ∧
      ∀ socket,
        ((rulesOf wildcardBatch).narrow socket).map
            (fun rule => index.chainOf? rule.2.reuseKey) =
          (index.find socket).chain.toList.map some := by
  obtain ⟨index, accepted⟩ := wildcardBatch_accepted
  exact ⟨index, accepted, fun socket => (find_eq_narrow accepted socket).1⟩

end MatchIndex

end Admission.Chain
