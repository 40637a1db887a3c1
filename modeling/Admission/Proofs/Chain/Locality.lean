import Admission.Proofs.Chain.Reachability

/-!
Contract: a look-up checks whether the peer is on this host only where a chain depends on it.

The check may be expensive. Whether it is made is settled by all slots that are left where the
source type is looked at, and not by the slot that is chosen in the end.

Owns:
- `localityChecks_eq_one_iff`, when a look-up makes the check, and `find_answering`, that it does
  not matter otherwise;
- `MatchIndex.findWith`, the look-up with the check as an action of any monad, and its agreement
  with the look-up that counts (`findWith_eq`);
- `MatchIndex.locality_is_lazy`.
-/

namespace Admission.Listener.Socket

/-- A socket whose locality check gives an answer. -/
def answering (socket : Socket) (answer : Bool) : Socket :=
  { socket with locality := some answer }

end Admission.Listener.Socket

namespace Admission.Chain

open Admission.Net Admission.Listener

/-- Narrowing to the source types does not look at owners. -/
theorem Rules.path_withOwners {α β : Type} (owner : α → β) (rules : Rules α) (socket : Socket) :
    path (withOwners owner rules) socket = withOwners owner (rules.path socket) := by
  simp only [path, byPort, byDestination, byServerName, byTransport, byProtocol,
    commit_withOwners, longest_withOwners, orElse_withOwners]

/-- A rule is for one kind of peers, whoever owns it. -/
theorem Rules.exists_sided_iff {α β : Type} (owner : α → β) (rules : Rules α) :
    (∃ rule ∈ withOwners owner rules,
        rule.1.sourceType = .sameHost ∨ rule.1.sourceType = .external) ↔
      ∃ rule ∈ rules, rule.1.sourceType = .sameHost ∨ rule.1.sourceType = .external := by
  simp [withOwners]

/-! ## When the check is made -/

/-- A source type has ranges exactly if a slot has it. -/
theorem isSome_get_iff {types : SourceLevel} {rules : Rules FilterChain}
    (answer : TypesAnswer types (members rules)) (type : SourceType) :
    (types.get type).isSome = true ↔ ∃ rule ∈ rules, rule.1.sourceType = type := by
  have part := answer type
  unfold SourceTypeAnswers at part
  cases found : types.get type with
  | none =>
      rw [found] at part
      have none : ∀ rule ∈ rules, rule.1.sourceType ≠ type := by
        intro rule listed has
        exact Set.eq_empty_iff_forall_notMem.mp part rule ⟨listed, has⟩
      simpa using none
  | some sources =>
      rw [found] at part
      obtain ⟨rule, listed, has⟩ := part.1
      simpa using ⟨rule.1, ⟨rule.2, listed⟩, has⟩

namespace MatchIndex

private theorem localityChecks_findSourceType (types : SourceLevel) (socket : Socket) :
    (findSourceType types socket).localityChecks =
      if types.sameHost.isSome || types.external.isSome then 1 else 0 := by
  unfold findSourceType
  split
  · split <;> rfl
  · rfl

private theorem localityChecks_le_one (index : MatchIndex) (socket : Socket) :
    (index.find socket).localityChecks ≤ 1 := by
  rw [find_eq]
  cases index.sourceLevel? socket with
  | none => exact Nat.zero_le 1
  | some types =>
      simp only [localityChecks_findSourceType]
      split <;> decide

/-- The check is made exactly if a slot on the path of the socket is for one kind of peers. -/
theorem localityChecks_eq_one_iff {rules : Rules FilterChain} {index : MatchIndex}
    (answer : PortLevelAnswers index.destinations (members rules)) (socket : Socket) :
    (index.find socket).localityChecks = 1 ↔
      ∃ rule ∈ rules.path socket,
        rule.1.sourceType = .sameHost ∨ rule.1.sourceType = .external := by
  have level := finds_sourceLevel socket answer
  rw [find_eq]
  cases found : index.sourceLevel? socket with
  | none =>
      rw [found] at level
      have empty : rules.path socket = [] := level
      simp [empty, Selection.ofChain]
  | some types =>
      rw [found] at level
      have each := isSome_get_iff level.2
      have sameHost := each .sameHost
      have external := each .external
      simp only [BySource.get] at sameHost external
      simp only [localityChecks_findSourceType]
      split
      · rename_i named
        rw [Bool.or_eq_true, sameHost, external] at named
        simpa [and_or_left, exists_or] using named
      · rename_i unnamed
        rw [Bool.or_eq_true, sameHost, external] at unnamed
        simpa [and_or_left, exists_or] using unnamed

/-- A look-up that makes no check does not depend on its answer. -/
theorem find_answering {index : MatchIndex} {socket : Socket}
    (unchecked : (index.find socket).localityChecks = 0) (answer : Bool) :
    index.find (socket.answering answer) = index.find socket := by
  have same : index.sourceLevel? (socket.answering answer) = index.sourceLevel? socket := rfl
  rw [find_eq] at unchecked ⊢
  rw [find_eq, same]
  cases found : index.sourceLevel? socket with
  | none => rfl
  | some types =>
      simp only [found, localityChecks_findSourceType] at unchecked
      cases named : types.sameHost.isSome || types.external.isSome with
      | true => exact absurd unchecked (by simp [named])
      | false =>
          simp only [findSourceType, named]
          rfl

/-! ## The check as an action -/

section Action

variable {m : Type → Type} [Monad m]

/-- The chain for the peer's whereabouts, by an action that finds them out. -/
def findSourceTypeWith (check : m Bool) (types : SourceLevel) (socket : Socket) :
    m (Option FilterChain) :=
  let fromAny := types.any.bind (findSource · socket)
  if types.sameHost.isSome || types.external.isSome then do
    match if ← check then types.sameHost else types.external with
    | some sources => return findSource sources socket
    | none => return fromAny
  else return fromAny

/-- A look-up that runs an action where it needs to know whether the peer is on this host. -/
def findWith (check : m Bool) (index : MatchIndex) (socket : Socket) : m (Option FilterChain) :=
  match index.sourceLevel? socket with
  | some types => findSourceTypeWith check types socket
  | none => return none

/-- A look-up runs the action as often as it counts a check, and then finds what it finds for a
socket with that answer. -/
theorem findWith_eq [LawfulMonad m] (check : m Bool) (index : MatchIndex) (socket : Socket) :
    index.findWith check socket =
      if (index.find socket).localityChecks = 1 then do
        let answer ← check
        return (index.find (socket.answering answer)).chain
      else return (index.find socket).chain := by
  have same (answer : Bool) :
      index.sourceLevel? (socket.answering answer) = index.sourceLevel? socket := rfl
  unfold findWith
  simp only [find_eq, same]
  cases index.sourceLevel? socket with
  | none => rfl
  | some types =>
      simp only [localityChecks_findSourceType, findSourceTypeWith]
      cases named : types.sameHost.isSome || types.external.isSome with
      | false =>
          simp only [findSourceType, named]
          rfl
      | true =>
          simp only [↓reduceIte]
          refine bind_congr fun answer => ?_
          simp only [findSourceType, named, ↓reduceIte]
          have given : (socket.answering answer).isLocal = answer := rfl
          rw [given]
          cases if answer then types.sameHost else types.external <;> rfl

end Action

/-! ## Batches -/

section Batch

variable {generation : GenerationId} {listener : String}
  {descriptors : List FilterChainDescriptor} {builder : ChainBuilder}
  {previous : Option MatchIndex} {next : Nat} {index : MatchIndex}

/-- The slots of an accepted batch decide whether the check is made. -/
theorem localityChecks_eq_one_iff_of_accepted
    (accepted : (build generation listener descriptors builder previous next).outcome = .ok index)
    (socket : Socket) :
    (index.find socket).localityChecks = 1 ↔
      ∃ rule ∈ (rulesOf descriptors).path socket,
        rule.1.sourceType = .sameHost ∨ rule.1.sourceType = .external := by
  rcases build_cases generation listener descriptors builder previous next with
    ⟨result, chains, ok, supplied, _, faultless, _, answers⟩ | ⟨error, refused, _⟩
  · have same : result = index := Except.ok.inj (ok.symm.trans accepted)
    subst same
    have valid : ∀ placement ∈ descriptors.zip chains, placement.1.criteria.Valid := by
      intro placement placed
      exact faultless.valid placement.1 (List.of_mem_zip placed).1
    rw [← members_rulesOfPlaced valid] at answers
    -- One list of rules, with chains for the index and with descriptions for the batch.
    rw [localityChecks_eq_one_iff answers socket, ← rulesOfPlaced_descriptors supplied.length_eq,
      Rules.path_withOwners, Rules.path_withOwners]
    rw [Rules.exists_sided_iff, Rules.exists_sided_iff]
  · exact absurd (refused.symm.trans accepted) (by simp)

/-- A look-up in the index of an accepted batch checks at most once whether the peer is on this
host, and does so exactly if narrowing by port, destination, server name and both protocols leaves a
slot for local or for external peers. Without the check the outcome is the same for both answers. A
look-up that has the check as an action runs it as often. -/
theorem locality_is_lazy
    (accepted : (build generation listener descriptors builder previous next).outcome = .ok index)
    (socket : Socket) :
    (index.find socket).localityChecks ≤ 1 ∧
    ((index.find socket).localityChecks = 1 ↔
      ∃ rule ∈ (rulesOf descriptors).path socket,
        rule.1.sourceType = .sameHost ∨ rule.1.sourceType = .external) ∧
    ((index.find socket).localityChecks = 0 →
      ∀ answer, index.find (socket.answering answer) = index.find socket) ∧
    ∀ (m : Type → Type) [Monad m] [LawfulMonad m] (check : m Bool),
      index.findWith check socket =
        if (index.find socket).localityChecks = 1 then do
          let answer ← check
          return (index.find (socket.answering answer)).chain
        else return (index.find socket).chain := by
  refine ⟨localityChecks_le_one index socket, localityChecks_eq_one_iff_of_accepted accepted socket,
    find_answering, ?_⟩
  intro m _ _ check
  exact findWith_eq check index socket

end Batch

/-- One chain for local peers at one port, and one for any peer elsewhere. -/
def localBatch : List FilterChainDescriptor := [
  { FilterChainDescriptor.blank with
    name := "local"
    criteria := { MatchCriteria.anything with destinationPort := 80, sourceType := .sameHost } },
  { FilterChainDescriptor.blank with name := "any" }]

/-- A socket from an external peer. -/
def arrivingAt (port : UInt16) : Socket :=
  Socket.between (.ip (.v4 0x0A000001#32 port)) (.ip (.v4 0xC0000201#32 40000))

theorem locality_is_lazy_localBatch :
    ∃ index,
      (build ⟨1⟩ "listener" localBatch (BuildScript.builder ⟨none, false, []⟩) none
        1).outcome = .ok index ∧
      (index.find (arrivingAt 80)).localityChecks = 1 ∧
      (index.find (arrivingAt 443)).localityChecks = 0 ∧
      ∀ answer, index.find ((arrivingAt 443).answering answer) = index.find (arrivingAt 443) := by
  obtain ⟨index, accepted⟩ : ∃ index, (build ⟨1⟩ "listener" localBatch
      (BuildScript.builder ⟨none, false, []⟩) none 1).outcome = .ok index :=
    exists_ok_of_isOk (by decide +kernel)
  have atLocal := locality_is_lazy accepted (arrivingAt 80)
  have elsewhere := locality_is_lazy accepted (arrivingAt 443)
  have checked : (index.find (arrivingAt 80)).localityChecks = 1 :=
    atLocal.2.1.mpr (by decide +kernel)
  have unchecked : (index.find (arrivingAt 443)).localityChecks = 0 := by
    have never : (index.find (arrivingAt 443)).localityChecks ≠ 1 := by
      rw [ne_eq, elsewhere.2.1]
      decide +kernel
    have atMost := elsewhere.1
    omega
  exact ⟨index, accepted, checked, unchecked, elsewhere.2.2.1 unchecked⟩

end MatchIndex

end Admission.Chain
