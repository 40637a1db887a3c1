import Admission.Proofs.Chain.Renewal

/-!
Contract: which descriptions of an accepted batch a socket can hit.

A look-up commits to the most specific key of each level. So a description can be out of reach though
no other one has any of its slots, where longer ranges cover all of a range of its own, or where
both kinds of peers have slots of their own beside one that takes any peer.

Owns:
- `Slot.Unshadowed`, by which a slot is in reach, and `Slot.socketAt`, the socket that asks for it;
- `unshadowed_of_left` and `exists_left_of_unshadowed`, that nothing else keeps narrowing from
  leaving a slot;
- `MatchIndex.hit_iff_unshadowed`.
-/

namespace Admission.Net.SocketAddress

/-- The socket address of an IP and a port, without a scope. -/
def ofIp : IpAddress → UInt16 → SocketAddress
  | .v4 bits, port => .v4 bits port
  | .v6 bits, port => .v6 bits port 0

@[simp]
theorem ip_ofIp (address : IpAddress) (port : UInt16) : (ofIp address port).ip = address := by
  cases address <;> rfl

@[simp]
theorem port_ofIp (address : IpAddress) (port : UInt16) : (ofIp address port).port = port := by
  cases address <;> rfl

end Admission.Net.SocketAddress

namespace Admission.Chain

open Admission.Net Admission.Listener

namespace Slot

/-- Two slots are on one path as far as the application protocol. -/
structure Beside (left right : Slot) : Prop where
  port : left.port = right.port
  destination : left.destination = right.destination
  serverName : left.serverName = right.serverName
  transport : left.transport = right.transport
  protocol : left.protocol = right.protocol

/-- A slot that no others shadow: its destination range has an address that no longer range of its
port has, not both kinds of peers have slots beside it if it takes any peer, and its source range has
an address that no longer range has among those beside it for the same peers. -/
structure Unshadowed (slots : List Slot) (slot : Slot) : Prop where
  destination : ∃ address, slot.destination.contains address = true ∧
    ∀ other ∈ slots, other.port = slot.port → other.destination.contains address = true →
      other.destination.length ≤ slot.destination.length
  sourceType : slot.sourceType = .any →
    ¬ ((∃ other ∈ slots, other.Beside slot ∧ other.sourceType = .sameHost) ∧
      ∃ other ∈ slots, other.Beside slot ∧ other.sourceType = .external)
  source : ∃ address, slot.source.contains address = true ∧
    ∀ other ∈ slots, other.Beside slot → other.sourceType = slot.sourceType →
      other.source.contains address = true → other.source.length ≤ slot.source.length

/-- A socket with the attributes of a slot, between two addresses. -/
def socketAt (slot : Slot) (localAddress peer : IpAddress) (isLocal : Bool) : Socket :=
  { Socket.between (.ip (.ofIp localAddress slot.port)) (.ip (.ofIp peer slot.sourcePort)) with
    transportProtocol := slot.transport
    serverName := slot.serverName
    applicationProtocols := [slot.protocol]
    locality := some isLocal }

/-- A socket has exactly the attributes of a slot, ranges and source type aside. -/
structure AskedBy (slot : Slot) (socket : Socket) : Prop where
  port : socket.localAddress.port? = some slot.port
  serverName : socket.serverName = slot.serverName
  transport : socket.transportProtocol = slot.transport
  protocol : socket.applicationProtocols = [slot.protocol]
  sourcePort : socket.remoteAddress.port? = some slot.sourcePort

private theorem askedBy_socketAt (slot : Slot) (localAddress peer : IpAddress) (isLocal : Bool) :
    slot.AskedBy (slot.socketAt localAddress peer isLocal) where
  port := congrArg some (SocketAddress.port_ofIp _ _)
  serverName := rfl
  transport := rfl
  protocol := rfl
  sourcePort := congrArg some (SocketAddress.port_ofIp _ _)

private theorem localIp_socketAt (slot : Slot) (localAddress peer : IpAddress) (isLocal : Bool) :
    (slot.socketAt localAddress peer isLocal).localAddress.ipOrPlaceholder = localAddress :=
  SocketAddress.ip_ofIp _ _

private theorem peerIp_socketAt (slot : Slot) (localAddress peer : IpAddress) (isLocal : Bool) :
    (slot.socketAt localAddress peer isLocal).remoteAddress.ipOrPlaceholder = peer :=
  SocketAddress.ip_ofIp _ _

end Slot

namespace Rules

section Steps

variable {α κ : Type} [DecidableEq κ] {rules : Rules α} {rule other : Slot × α}

/-! ## What a step leaves -/

theorem mem_commit_iff {level : Slot → κ} {keys : List κ} :
    rule ∈ rules.commit level keys ↔ rule ∈ rules ∧
      (keys.find? fun key => rules.any fun other => level other.1 = key) = some (level rule.1) := by
  unfold commit
  split
  · rename_i key found
    rw [found, List.mem_filter, decide_eq_true_eq, Option.some.injEq, eq_comm]
  · rename_i none
    rw [none]
    simp

private theorem commit_of_mem {level : Slot → κ} {keys : List κ}
    (left : rule ∈ rules.commit level keys) :
    other ∈ rules.commit level keys ↔ other ∈ rules ∧ level other.1 = level rule.1 := by
  have found := (mem_commit_iff.mp left).2
  rw [mem_commit_iff, found, Option.some.injEq, eq_comm (a := level rule.1)]

/-- A rule with the first key is left. -/
theorem mem_commit_of_first {level : Slot → κ} {keys : List κ} (listed : rule ∈ rules) :
    rule ∈ rules.commit level (level rule.1 :: keys) := by
  have present : (rules.any fun other => level other.1 = level rule.1) = true :=
    List.any_eq_true.mpr ⟨rule, listed, decide_eq_true rfl⟩
  refine mem_commit_iff.mpr ⟨listed, ?_⟩
  rw [List.find?_cons, present]

/-- A rule with the second key is left where none has the first. -/
theorem mem_commit_of_second {level : Slot → κ} {first : κ} {keys : List κ} (listed : rule ∈ rules)
    (absent : ∀ other ∈ rules, level other.1 ≠ first) :
    rule ∈ rules.commit level (first :: level rule.1 :: keys) := by
  have nowhere : (rules.any fun other => level other.1 = first) = false := by
    rw [List.any_eq_false]
    intro other member
    simpa using absent other member
  have later : rule ∈ rules.commit level (level rule.1 :: keys) := mem_commit_of_first listed
  refine mem_commit_iff.mpr ⟨listed, ?_⟩
  rw [List.find?_cons, nowhere]
  exact (mem_commit_iff.mp later).2

theorem mem_longest_iff {level : Slot → CidrRange} {address : IpAddress} :
    rule ∈ rules.longest (fun slot => (level slot).contains address)
        (fun slot => (level slot).length) ↔
      rule ∈ rules ∧ (level rule.1).contains address = true ∧
        ∀ other ∈ rules, (level other.1).contains address = true →
          (level other.1).length ≤ (level rule.1).length := by
  unfold longest
  simp only [List.mem_filter, Bool.and_eq_true, List.all_eq_true, Bool.or_eq_true,
    Bool.not_eq_true', decide_eq_true_eq, ← Bool.not_eq_true, ← imp_iff_not_or]

private theorem longest_of_mem {level : Slot → CidrRange} {address : IpAddress}
    (left : rule ∈ rules.longest (fun slot => (level slot).contains address)
      fun slot => (level slot).length) :
    other ∈ rules.longest (fun slot => (level slot).contains address)
        (fun slot => (level slot).length) ↔
      other ∈ rules ∧ level other.1 = level rule.1 := by
  constructor
  · intro alsoLeft
    exact ⟨(mem_longest_iff.mp alsoLeft).1,
      (longest_settles rules level address).agree other alsoLeft rule left⟩
  · rintro ⟨listed, same⟩
    obtain ⟨_, holds, bound⟩ := mem_longest_iff.mp left
    rw [mem_longest_iff, same]
    exact ⟨listed, holds, bound⟩

end Steps

/-! ## What narrowing leaves -/

section Narrowing

variable {α : Type} {rules : Rules α} {rule : Slot × α} {socket : Socket}

/-- A rule that is left is left at the destination and on its path. -/
theorem left_of_path (left : rule ∈ rules.path socket) :
    rule ∈ (rules.byPort socket).byDestination socket ∧
      ∀ other, other ∈ rules.path socket ↔ other ∈ rules ∧ other.1.Beside rule.1 := by
  have byTransport := (mem_commit_iff.mp left).1
  have byName := (mem_commit_iff.mp byTransport).1
  rw [byServerName_eq] at byName
  have byDestination := (mem_commit_iff.mp byName).1
  have byPort := (mem_longest_iff.mp byDestination).1
  refine ⟨byDestination, ?_⟩
  intro other
  have named : other ∈ ((rules.byPort socket).byDestination socket).byServerName socket ↔
      other ∈ (rules.byPort socket).byDestination socket ∧
        other.1.serverName = rule.1.serverName := by
    rw [byServerName_eq]
    exact commit_of_mem byName
  have ported : other ∈ rules.byPort socket ↔ other ∈ rules ∧ other.1.port = rule.1.port :=
    commit_of_mem byPort
  have placed : other ∈ (rules.byPort socket).byDestination socket ↔
      other ∈ rules.byPort socket ∧ other.1.destination = rule.1.destination :=
    longest_of_mem byDestination
  have carried : other ∈ (((rules.byPort socket).byDestination socket).byServerName
      socket).byTransport socket ↔ other ∈ ((rules.byPort socket).byDestination
        socket).byServerName socket ∧ other.1.transport = rule.1.transport :=
    commit_of_mem byTransport
  have spoken : other ∈ rules.path socket ↔ other ∈ (((rules.byPort socket).byDestination
      socket).byServerName socket).byTransport socket ∧ other.1.protocol = rule.1.protocol :=
    commit_of_mem left
  rw [spoken, carried, named, placed, ported]
  constructor
  · rintro ⟨⟨⟨⟨⟨listed, port⟩, destination⟩, name⟩, transport⟩, protocol⟩
    exact ⟨listed, port, destination, name, transport, protocol⟩
  · rintro ⟨listed, port, destination, name, transport, protocol⟩
    exact ⟨⟨⟨⟨⟨listed, port⟩, destination⟩, name⟩, transport⟩, protocol⟩

/-- What narrowing leaves is not shadowed. -/
theorem unshadowed_of_left (left : rule ∈ rules.narrow socket) :
    rule.1.Unshadowed (rules.map (·.1)) := by
  have bySource := (mem_commit_iff.mp left).1
  obtain ⟨byType, holds, bound⟩ := mem_longest_iff.mp bySource
  obtain ⟨onPath, chosen⟩ := mem_commit_iff.mp byType
  obtain ⟨byDestination, beside⟩ := left_of_path onPath
  obtain ⟨byPort, destinationHolds, destinationBound⟩ := mem_longest_iff.mp byDestination
  refine ⟨⟨_, destinationHolds, ?_⟩, ?_, ⟨_, holds, ?_⟩⟩
  · rintro _ member port
    obtain ⟨other, listed, rfl⟩ := List.mem_map.mp member
    exact destinationBound other ((commit_of_mem byPort).mpr ⟨listed, port⟩)
  · rintro any ⟨⟨_, sameHostMember, sameHostBeside, sameHost⟩, _, externalMember, externalBeside,
      external⟩
    obtain ⟨near, nearListed, rfl⟩ := List.mem_map.mp sameHostMember
    obtain ⟨far, farListed, rfl⟩ := List.mem_map.mp externalMember
    have nearLeft := (beside near).mpr ⟨nearListed, sameHostBeside⟩
    have farLeft := (beside far).mpr ⟨farListed, externalBeside⟩
    -- Whichever kind of peer the socket has comes first, and a rule has it.
    have present : ((rules.path socket).any fun other => other.1.sourceType =
        if socket.isLocal then SourceType.sameHost else .external) = true := by
      rw [List.any_eq_true]
      cases socket.isLocal with
      | true => exact ⟨near, nearLeft, by simpa using sameHost⟩
      | false => exact ⟨far, farLeft, by simpa using external⟩
    unfold path at present
    rw [List.find?_cons, present, any, Option.some.injEq] at chosen
    cases here : socket.isLocal <;> simp [here] at chosen
  · rintro _ member onSamePath sameType
    obtain ⟨other, listed, rfl⟩ := List.mem_map.mp member
    have otherOnPath := (beside other).mpr ⟨listed, onSamePath⟩
    exact bound other ((commit_of_mem byType).mpr ⟨otherOnPath, sameType⟩)

/-- An answer of the locality check under which the slot's source type is looked up. -/
theorem exists_locality {slots : List Slot} {slot : Slot} (unshadowed : slot.Unshadowed slots) :
    ∃ isLocal : Bool,
      slot.sourceType = (if isLocal then .sameHost else .external) ∨
        (slot.sourceType = .any ∧ ∀ other ∈ slots, other.Beside slot →
          other.sourceType ≠ if isLocal then .sameHost else .external) := by
  cases type : slot.sourceType with
  | sameHost => exact ⟨true, .inl rfl⟩
  | external => exact ⟨false, .inl rfl⟩
  | any =>
      by_cases near : ∃ other ∈ slots, other.Beside slot ∧ other.sourceType = .sameHost
      · refine ⟨false, .inr ⟨rfl, ?_⟩⟩
        intro other listed beside far
        exact unshadowed.sourceType type ⟨near, other, listed, beside, far⟩
      · refine ⟨true, .inr ⟨rfl, ?_⟩⟩
        intro other listed beside sameHost
        exact near ⟨other, listed, beside, sameHost⟩

/-- A rule is left on its path by a socket with its attributes, if no longer range of its port has the
local address. -/
theorem mem_path (listed : rule ∈ rules) (asked : rule.1.AskedBy socket)
    (holds : rule.1.destination.contains socket.localAddress.ipOrPlaceholder = true)
    (bound : ∀ other ∈ rules, other.1.port = rule.1.port →
      other.1.destination.contains socket.localAddress.ipOrPlaceholder = true →
        other.1.destination.length ≤ rule.1.destination.length) :
    rule ∈ rules.path socket := by
  have byPort : rule ∈ rules.byPort socket := by
    unfold Rules.byPort
    rw [asked.port]
    exact mem_commit_of_first listed
  have byDestination : rule ∈ (rules.byPort socket).byDestination socket := by
    refine mem_longest_iff.mpr ⟨byPort, holds, ?_⟩
    intro other member
    obtain ⟨otherListed, port⟩ := (commit_of_mem byPort).mp member
    exact bound other otherListed port
  have byName : rule ∈ ((rules.byPort socket).byDestination socket).byServerName socket := by
    rw [byServerName_eq, asked.serverName]
    exact mem_commit_of_first byDestination
  have byTransport : rule ∈ (((rules.byPort socket).byDestination socket).byServerName
      socket).byTransport socket := by
    unfold Rules.byTransport
    rw [asked.transport]
    exact mem_commit_of_first byName
  unfold path Rules.byProtocol
  rw [asked.protocol]
  exact mem_commit_of_first byTransport

/-- A slot that is not shadowed is left for a socket with its attributes. -/
theorem exists_left_of_unshadowed (listed : rule ∈ rules)
    (unshadowed : rule.1.Unshadowed (rules.map (·.1))) :
    ∃ socket, rule.1.AskedBy socket ∧ rule ∈ rules.narrow socket := by
  obtain ⟨localAddress, destinationHolds, destinationBound⟩ := unshadowed.destination
  obtain ⟨peer, sourceHolds, sourceBound⟩ := unshadowed.source
  obtain ⟨isLocal, locality⟩ := exists_locality unshadowed
  have asked := rule.1.askedBy_socketAt localAddress peer isLocal
  have localIp := rule.1.localIp_socketAt localAddress peer isLocal
  have peerIp := rule.1.peerIp_socketAt localAddress peer isLocal
  have whereabouts : (rule.1.socketAt localAddress peer isLocal).isLocal = isLocal := rfl
  generalize rule.1.socketAt localAddress peer isLocal = socket at asked localIp peerIp whereabouts
  refine ⟨socket, asked, ?_⟩
  have onPath : rule ∈ rules.path socket := by
    refine mem_path listed asked (localIp ▸ destinationHolds) ?_
    intro other otherListed
    rw [localIp]
    exact destinationBound other.1 (List.mem_map_of_mem otherListed)
  obtain ⟨_, beside⟩ := left_of_path onPath
  have byType : rule ∈ (rules.path socket).bySourceType socket := by
    unfold Rules.bySourceType
    rw [whereabouts]
    rcases locality with own | ⟨any, none⟩
    · rw [← own]
      exact mem_commit_of_first onPath
    · rw [← any]
      refine mem_commit_of_second onPath ?_
      intro other member
      obtain ⟨otherListed, onSamePath⟩ := (beside other).mp member
      exact none other.1 (List.mem_map_of_mem otherListed) onSamePath
  have bySource : rule ∈ ((rules.path socket).bySourceType socket).bySource socket := by
    unfold Rules.bySource
    rw [peerIp]
    refine mem_longest_iff.mpr ⟨byType, sourceHolds, ?_⟩
    intro other member
    obtain ⟨otherOnPath, sameType⟩ := (commit_of_mem byType).mp member
    obtain ⟨otherListed, onSamePath⟩ := (beside other).mp otherOnPath
    exact sourceBound other.1 (List.mem_map_of_mem otherListed) onSamePath sameType
  show rule ∈ (((rules.path socket).bySourceType socket).bySource socket).bySourcePort socket
  unfold Rules.bySourcePort
  rw [asked.sourcePort]
  exact mem_commit_of_first bySource

end Narrowing

end Rules

/-! ## Batches -/

theorem mem_rulesOf_iff {descriptors : List FilterChainDescriptor} {slot : Slot}
    {descriptor : FilterChainDescriptor} :
    (slot, descriptor) ∈ rulesOf descriptors ↔
      descriptor ∈ descriptors ∧ slot ∈ descriptor.criteria.slots := by
  unfold rulesOf
  simp only [List.mem_flatMap, List.mem_map, Prod.mk.injEq]
  constructor
  · rintro ⟨owner, listed, own, member, rfl, rfl⟩
    exact ⟨listed, member⟩
  · rintro ⟨listed, member⟩
    exact ⟨descriptor, listed, slot, member, rfl, rfl⟩

private theorem head?_of_single {α : Type} {items : List α} {item : α} (single : items.length ≤ 1)
    (listed : item ∈ items) : items.head? = some item := by
  cases items with
  | nil => exact absurd listed List.not_mem_nil
  | cons first rest =>
      have none : rest = [] := by simpa using single
      rw [none, List.mem_singleton] at listed
      rw [listed, List.head?_cons]

/-- Where no slot comes up twice, a rule that is left decides which description is selected. -/
theorem selected_of_left {descriptors : List FilterChainDescriptor} {socket : Socket}
    {rule : Slot × FilterChainDescriptor}
    (distinct : (descriptors.flatMap (·.criteria.slots)).Nodup)
    (left : rule ∈ (rulesOf descriptors).narrow socket) :
    selected descriptors socket = some rule.2 := by
  rw [← rulesOf_slots] at distinct
  have single := narrow_length_le distinct socket
  unfold selected
  rw [head?_of_single single left]
  rfl

/-- Some socket has a description selected exactly if one of its slots is not shadowed. -/
theorem exists_selected_iff {descriptors : List FilterChainDescriptor}
    (distinct : (descriptors.flatMap (·.criteria.slots)).Nodup) {descriptor : FilterChainDescriptor}
    (listed : descriptor ∈ descriptors) :
    (∃ socket, selected descriptors socket = some descriptor) ↔
      ∃ slot ∈ descriptor.criteria.slots,
        slot.Unshadowed (descriptors.flatMap (·.criteria.slots)) := by
  constructor
  · rintro ⟨socket, left⟩
    obtain ⟨rule, first, rfl⟩ := Option.map_eq_some_iff.mp left
    have ofRule := List.mem_of_head? first
    have member := (Rules.narrow_settles _ socket).sublist.subset ofRule
    rw [← rulesOf_slots]
    exact ⟨rule.1, (mem_rulesOf_iff.mp member).2, Rules.unshadowed_of_left ofRule⟩
  · rintro ⟨slot, own, unshadowed⟩
    rw [← rulesOf_slots] at unshadowed
    obtain ⟨socket, _, left⟩ :=
      Rules.exists_left_of_unshadowed (mem_rulesOf_iff.mpr ⟨listed, own⟩) unshadowed
    exact ⟨socket, selected_of_left distinct left⟩

namespace MatchIndex

variable {generation : GenerationId} {listener : String}
  {descriptors : List FilterChainDescriptor} {builder : ChainBuilder}
  {previous : Option MatchIndex} {next : Nat} {index : MatchIndex}

/-- Some socket finds the chain of a description of an accepted batch exactly if one of the
description's slots is not shadowed by the slots of the batch. -/
theorem hit_iff_unshadowed (reached : Reached previous next)
    (accepted : (build generation listener descriptors builder previous next).outcome = .ok index) :
    ∀ descriptor ∈ descriptors,
      (∃ socket chain, index.chainOf? descriptor.reuseKey = some chain ∧
          (index.find socket).chain = some chain) ↔
        ∃ slot ∈ descriptor.criteria.slots,
          slot.Unshadowed (descriptors.flatMap (·.criteria.slots)) := by
  intro descriptor listed
  rw [← exists_selected_iff (slots_nodup_of_accepted accepted) listed]
  constructor
  · rintro ⟨socket, chain, held, found⟩
    have selects : index.Selects descriptors socket (some descriptor) := ⟨listed, chain, held, found⟩
    exact ⟨socket, ((selects_iff reached accepted).mp selects).symm⟩
  · rintro ⟨socket, left⟩
    have selects := selects_selected accepted socket
    rw [left] at selects
    obtain ⟨_, chain, held, found⟩ := selects
    exact ⟨socket, chain, held, found⟩

theorem hit_iff_unshadowed_wildcardBatch :
    ∃ index, Reached none 1 ∧
      (build ⟨1⟩ "listener" wildcardBatch (BuildScript.builder ⟨none, false, []⟩) none
        1).outcome = .ok index ∧
      ∀ descriptor ∈ wildcardBatch,
        (∃ socket chain, index.chainOf? descriptor.reuseKey = some chain ∧
            (index.find socket).chain = some chain) ↔
          ∃ slot ∈ descriptor.criteria.slots,
            slot.Unshadowed (wildcardBatch.flatMap (·.criteria.slots)) := by
  obtain ⟨index, accepted⟩ := wildcardBatch_accepted
  have reached : Reached none 1 := .start 1
  exact ⟨index, reached, accepted, hit_iff_unshadowed reached accepted⟩

/-- The chain for any peer. -/
def anyPeer : FilterChainDescriptor :=
  { FilterChainDescriptor.blank with name := "anyone" }

/-- One chain for any peer, one for peers on this host and one for all others. -/
def shadowedBatch : List FilterChainDescriptor := [
  anyPeer,
  { FilterChainDescriptor.blank with
    name := "here"
    criteria := { MatchCriteria.anything with sourceType := .sameHost } },
  { FilterChainDescriptor.blank with
    name := "elsewhere"
    criteria := { MatchCriteria.anything with sourceType := .external } }]

/-- No slot of the chain for any peer is in reach. -/
theorem anyPeer_shadowed {slot : Slot} (own : slot ∈ anyPeer.criteria.slots) :
    ¬ slot.Unshadowed (shadowedBatch.flatMap (·.criteria.slots)) := by
  have others : ∀ slot ∈ anyPeer.criteria.slots, slot.sourceType = .any ∧
      { slot with sourceType := .sameHost } ∈ shadowedBatch.flatMap (·.criteria.slots) ∧
      { slot with sourceType := .external } ∈ shadowedBatch.flatMap (·.criteria.slots) := by
    decide +kernel
  obtain ⟨any, near, far⟩ := others slot own
  intro unshadowed
  exact unshadowed.sourceType any
    ⟨⟨_, near, ⟨rfl, rfl, rfl, rfl, rfl⟩, rfl⟩, ⟨_, far, ⟨rfl, rfl, rfl, rfl, rfl⟩, rfl⟩⟩

/-- The batch is accepted, and no socket finds the chain for any peer. -/
theorem shadowedBatch_unreachable :
    ∃ index chain,
      (build ⟨1⟩ "listener" shadowedBatch (BuildScript.builder ⟨none, false, []⟩) none
        1).outcome = .ok index ∧
      anyPeer ∈ shadowedBatch ∧ index.chainOf? anyPeer.reuseKey = some chain ∧
      ∀ socket, (index.find socket).chain ≠ some chain := by
  have isOk : (build ⟨1⟩ "listener" shadowedBatch (BuildScript.builder ⟨none, false, []⟩) none
      1).outcome.isOk = true := by decide +kernel
  obtain ⟨index, accepted⟩ := exists_ok_of_isOk isOk
  have listed : anyPeer ∈ shadowedBatch := List.mem_cons_self
  obtain ⟨chain, held⟩ := allKept_of_accepted accepted anyPeer listed
  refine ⟨index, chain, accepted, listed, held, ?_⟩
  intro socket found
  have selects : index.Selects shadowedBatch socket (some anyPeer) := ⟨listed, chain, held, found⟩
  have left := (selects_iff (.start 1) accepted).mp selects
  obtain ⟨slot, own, unshadowed⟩ :=
    (exists_selected_iff (slots_nodup_of_accepted accepted) listed).mp ⟨socket, left.symm⟩
  exact anyPeer_shadowed own unshadowed

end MatchIndex

end Admission.Chain
