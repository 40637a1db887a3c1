import Admission.Proofs.Chain.Reachability
import Admission.Proofs.Tls.Acceptance
import Admission.Proofs.Tls.Chunking

/-!
Contract: when a specific application protocol gives way to the catch-all.

The catch-all stands under the empty name, and the names that a client offers are looked up as they
are. So a client that offers the empty name asks for the catch-all like for any other name; a name
after it is not looked at. Without it, a specific name that is offered comes before the catch-all.

Owns:
- `Rules.contenders`, the rules that are left where the application protocol is looked at;
- `Rules.EmptyNameFirst`, by which the catch-all is chosen though a name is offered;
- `MatchIndex.catchAll_found_iff`, with a ClientHello that has the catch-all chosen.
-/

namespace Admission.Chain

open Admission.Listener

namespace Rules

variable {α : Type} {rules : Rules α} {rule : Slot × α} {socket : Socket}

/-- The rules that are left by the levels before the application protocol. -/
def contenders (rules : Rules α) (socket : Socket) : Rules α :=
  (((rules.byPort socket).byDestination socket).byServerName socket).byTransport socket

/-- Some of the rules has a name that the client offered. -/
def IsAsked (rules : Rules α) (offered : List String) : Prop :=
  ∃ rule ∈ rules, rule.1.protocol ≠ "" ∧ rule.1.protocol ∈ offered

instance (rules : Rules α) (offered : List String) : Decidable (rules.IsAsked offered) :=
  inferInstanceAs (Decidable (∃ rule ∈ rules, _))

/-- The client offers the empty name before any that a rule has. -/
def EmptyNameFirst (rules : Rules α) (offered : List String) : Prop :=
  ∃ before after, offered = before ++ "" :: after ∧ ∀ rule ∈ rules, rule.1.protocol ∉ before

private theorem mem_contenders_of_left (left : rule ∈ rules.narrow socket) :
    rule ∈ (rules.contenders socket).byProtocol socket := by
  have bySource := (mem_commit_iff.mp left).1
  have byType := (mem_longest_iff.mp bySource).1
  exact (mem_commit_iff.mp byType).1

/-- Where a name is asked for, the key is chosen among the offered names. -/
theorem find_of_asked (asked : rules.IsAsked socket.applicationProtocols)
    (left : rule ∈ rules.byProtocol socket) :
    (socket.applicationProtocols.find? fun key =>
      rules.any fun other => other.1.protocol = key) = some rule.1.protocol := by
  obtain ⟨_, first⟩ := mem_commit_iff.mp left
  obtain ⟨other, listed, _, offered⟩ := asked
  rw [List.find?_append] at first
  cases found : socket.applicationProtocols.find? fun key =>
      rules.any fun other => other.1.protocol = key with
  | none =>
      have present : (rules.any fun rule => rule.1.protocol = other.1.protocol) = true :=
        List.any_eq_true.mpr ⟨other, listed, decide_eq_true rfl⟩
      exact absurd present (List.find?_eq_none.mp found _ offered)
  | some key =>
      rw [found, Option.some_or] at first
      exact first

/-- Where a name is asked for, the catch-all is chosen exactly if there is one and the client offers the
empty name first. -/
theorem catchAll_left_iff (asked : rules.IsAsked socket.applicationProtocols)
    (left : rule ∈ rules.byProtocol socket) :
    rule.1.protocol = "" ↔
      (∃ other ∈ rules, other.1.protocol = "") ∧
        rules.EmptyNameFirst socket.applicationProtocols := by
  have first := find_of_asked asked left
  constructor
  · intro empty
    rw [empty] at first
    obtain ⟨_, before, after, split, absent⟩ := List.find?_eq_some_iff_append.mp first
    refine ⟨⟨rule, (mem_commit_iff.mp left).1, empty⟩, before, after, split, ?_⟩
    intro other listed early
    have nowhere := absent other.1.protocol early
    rw [Bool.not_eq_true', List.any_eq_false] at nowhere
    exact nowhere other listed (decide_eq_true rfl)
  · rintro ⟨⟨other, listed, empty⟩, before, after, split, absent⟩
    have chosen : (socket.applicationProtocols.find? fun key =>
        rules.any fun other => other.1.protocol = key) = some "" := by
      refine List.find?_eq_some_iff_append.mpr
        ⟨List.any_eq_true.mpr ⟨other, listed, decide_eq_true empty⟩, before, after, split, ?_⟩
      intro key early
      rw [Bool.not_eq_true', List.any_eq_false]
      intro found member same
      exact absent found member (of_decide_eq_true same ▸ early)
    exact Option.some.inj (first.symm.trans chosen)

end Rules

namespace MatchIndex

variable {generation : GenerationId} {listener : String}
  {descriptors : List FilterChainDescriptor} {builder : ChainBuilder}
  {previous : Option MatchIndex} {next : Nat} {index : MatchIndex}

/-- A look-up that finds a chain finds it through one slot of the batch. -/
theorem exists_single_of_found
    (accepted : (build generation listener descriptors builder previous next).outcome = .ok index)
    {socket : Socket} {chain : FilterChain} (found : (index.find socket).chain = some chain) :
    ∃ rule, (rulesOf descriptors).narrow socket = [rule] ∧
      index.chainOf? rule.2.reuseKey = some chain := by
  have selects := selects_selected accepted socket
  have single : ((rulesOf descriptors).narrow socket).length ≤ 1 := by
    refine narrow_length_le ?_ socket
    rw [rulesOf_slots]
    exact slots_nodup_of_accepted accepted
  unfold selected at selects
  cases left : (rulesOf descriptors).narrow socket with
  | nil =>
      rw [left] at selects
      exact absurd (selects.symm.trans found) (by simp)
  | cons rule rest =>
      rw [left] at selects single
      obtain ⟨_, other, held, alsoFound⟩ := selects
      obtain rfl : other = chain := Option.some.inj (alsoFound.symm.trans found)
      have alone : rest = [] := by simpa using single
      exact ⟨rule, by rw [alone], held⟩

/-- A look-up finds a chain if the flat rules leave a description. -/
theorem exists_found_of_selected
    (accepted : (build generation listener descriptors builder previous next).outcome = .ok index)
    {socket : Socket} (left : (selected descriptors socket).isSome = true) :
    ∃ chain, (index.find socket).chain = some chain := by
  have selects := selects_selected accepted socket
  obtain ⟨descriptor, left⟩ := Option.isSome_iff_exists.mp left
  rw [left] at selects
  obtain ⟨_, chain, _, found⟩ := selects
  exact ⟨chain, found⟩

/-- Where a slot that is left for the application protocol has a name that the client offered, a chain
is found through a slot with an offered name; this is the catch-all exactly if one is left and the
client offers the empty name before every name that is left. -/
theorem catchAll_found_iff
    (accepted : (build generation listener descriptors builder previous next).outcome = .ok index)
    {socket : Socket} {chain : FilterChain}
    (asked : ((rulesOf descriptors).contenders socket).IsAsked socket.applicationProtocols)
    (found : (index.find socket).chain = some chain) :
    ∃ rule, (rulesOf descriptors).narrow socket = [rule] ∧
      index.chainOf? rule.2.reuseKey = some chain ∧
      rule.1.protocol ∈ socket.applicationProtocols ∧
      (rule.1.protocol = "" ↔
        (∃ other ∈ (rulesOf descriptors).contenders socket, other.1.protocol = "") ∧
          ((rulesOf descriptors).contenders socket).EmptyNameFirst socket.applicationProtocols) := by
  obtain ⟨rule, left, held⟩ := exists_single_of_found accepted found
  have byProtocol := Rules.mem_contenders_of_left (left ▸ List.mem_singleton_self rule)
  have first := Rules.find_of_asked asked byProtocol
  exact ⟨rule, left, held, List.mem_of_find?_eq_some first,
    Rules.catchAll_left_iff asked byProtocol⟩

/-- One chain for any application protocol and one for HTTP/2. -/
def protocolBatch : List FilterChainDescriptor := [
  { FilterChainDescriptor.blank with name := "any" },
  { FilterChainDescriptor.blank with
    name := "h2"
    criteria := { MatchCriteria.anything with applicationProtocols := ["h2"] } }]

private theorem protocolBatch_accepted :
    ∃ index,
      (build ⟨1⟩ "listener" protocolBatch (BuildScript.builder ⟨none, false, []⟩) none
        1).outcome = .ok index :=
  exists_ok_of_isOk (by decide +kernel)

/-- A socket that offers application protocols. -/
def offering (protocols : List String) : Socket :=
  { Socket.between (.internal "here") (.internal "there") with applicationProtocols := protocols }

theorem catchAll_found_iff_protocolBatch :
    ∃ index chain,
      (build ⟨1⟩ "listener" protocolBatch (BuildScript.builder ⟨none, false, []⟩) none
        1).outcome = .ok index ∧
      (index.find (offering ["h2", ""])).chain = some chain ∧
      ∃ rule, (rulesOf protocolBatch).narrow (offering ["h2", ""]) = [rule] ∧
        index.chainOf? rule.2.reuseKey = some chain ∧
        rule.1.protocol ∈ ["h2", ""] ∧
        (rule.1.protocol = "" ↔
          (∃ other ∈ (rulesOf protocolBatch).contenders (offering ["h2", ""]),
              other.1.protocol = "") ∧
            ((rulesOf protocolBatch).contenders (offering ["h2", ""])).EmptyNameFirst
              ["h2", ""]) := by
  obtain ⟨index, accepted⟩ := protocolBatch_accepted
  have left : (selected protocolBatch (offering ["h2", ""])).isSome = true := by decide +kernel
  obtain ⟨chain, found⟩ := exists_found_of_selected accepted left
  exact ⟨index, chain, accepted, found,
    catchAll_found_iff accepted (by decide +kernel) found⟩

/-- A ClientHello that offers the empty name before HTTP/2, in one record. -/
def emptyFirstStream : List UInt8 :=
  Tls.Record.encoded ⟨1, ⟨Tls.ClientHello.emptyFirstHello.encoded, by decide⟩, by decide⟩

private theorem emptyFirstStream_inspected :
    (Tls.inspected 8192 () (offering []) emptyFirstStream [emptyFirstStream.length]).2 =
      { offering ["", "h2"] with transportProtocol := "tls" } := by
  have parsed : Tls.ClientHello.parse (emptyFirstStream.take 8192) = .found ⟨none, ["", "h2"]⟩ := by
    decide +kernel
  rw [Tls.inspected_of_found 8192 () rfl parsed rfl]
  rfl

/-- The inspector reads the empty name off a ClientHello like any other, and the chain for HTTP/2 is
left and offered, but the chain for any protocol is found. -/
theorem catchAll_found_before_offered_name :
    ∃ index chain rule,
      (build ⟨1⟩ "listener" protocolBatch (BuildScript.builder ⟨none, false, []⟩) none
        1).outcome = .ok index ∧
      let socket := (Tls.inspected 8192 () (offering []) emptyFirstStream
        [emptyFirstStream.length]).2
      ((rulesOf protocolBatch).contenders socket).IsAsked socket.applicationProtocols ∧
        (index.find socket).chain = some chain ∧
        (rulesOf protocolBatch).narrow socket = [rule] ∧
        index.chainOf? rule.2.reuseKey = some chain ∧
        rule.1.protocol = "" := by
  obtain ⟨index, accepted⟩ := protocolBatch_accepted
  have left : (selected protocolBatch
      { offering ["", "h2"] with transportProtocol := "tls" }).isSome = true := by decide +kernel
  obtain ⟨chain, found⟩ := exists_found_of_selected accepted left
  obtain ⟨rule, single, held⟩ := exists_single_of_found accepted found
  have empty : ∀ rule ∈ (rulesOf protocolBatch).narrow
      { offering ["", "h2"] with transportProtocol := "tls" }, rule.1.protocol = "" := by
    decide +kernel
  refine ⟨index, chain, rule, accepted, ?_⟩
  dsimp only
  rw [emptyFirstStream_inspected]
  exact ⟨by decide +kernel, found, single, held, empty rule (single ▸ List.mem_singleton_self rule)⟩

end MatchIndex

end Admission.Chain
