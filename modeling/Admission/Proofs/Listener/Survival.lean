import Admission.Chain.Scripted
import Admission.Proofs.Chain.Reuse
import Admission.Proofs.Listener.Coherence

/-!
Contract: which connections outlive a change of the active generation.

Owns:
- `MatchedUnder`, the description that a tracked connection was matched under;
- `Survives` and `Ends`, what becomes of a connection, and `survives_or_ends`, which of the two.
-/

namespace Admission.Listener

open Admission.Chain

/-- The texts that the digests of a run are taken of. -/
def digested (operations : List Operation) : Set (List UInt8) :=
  {text | ∃ batch ∈ submitted operations, ∃ descriptor ∈ batch, descriptor.contentBytes = text}

/-- The connection of a record was matched under a description: the one that stands in the batch of
its generation where its chain stands among the chains. -/
def MatchedUnder (operations : List Operation) (record : ConnectionRecord)
    (descriptor : FilterChainDescriptor) : Prop :=
  ∃ batch, ∃ position : Nat, ∃ entry,
    batchOf (submitted operations) record.generation.generation = some batch ∧
    batch[position]? = some descriptor ∧
    record.generation.chains[position]? = some entry ∧ entry.2.id = record.handle.chain

namespace ListenerState

variable {σ : Type}

/-- A connection stays as it is, and its handle gives its record. -/
structure Survives (after : ListenerState σ) (handle : ConnectionHandle)
    (record : ConnectionRecord) (connection : Connection) : Prop where
  resolves : after.record? handle = some record
  stays : after.connectionOf? record.connection = some connection

/-- A connection is closed at once, which takes effect exactly once, its handle gives nothing, and its
record is parked. -/
structure Ends (before after : ListenerState σ) (handle : ConnectionHandle)
    (record : ConnectionRecord) (connection : Connection) : Prop where
  vanishes : after.record? handle = none
  closed : after.connectionOf? record.connection = some (connection.close .noFlush) ∧
    (connection.close .noFlush).state = .closed ∧
    (connection.close .noFlush).closes = connection.closes ++ [.noFlush]
  parked : ∃ added, after.parked = before.parked ++ added ∧ .connection record ∈ added

/-- Exactly one description is that of a tracked connection. -/
theorem exists_matchedUnder {operations : List Operation} {record : ConnectionRecord}
    (builtFrom : record.generation.BuiltFrom (submitted operations)) {key : ReuseKey}
    {chain : FilterChain} (had : (key, chain) ∈ record.generation.chains)
    (id : chain.id = record.handle.chain) :
    ∃ batch ∈ submitted operations, ∃ matched ∈ batch, matched.reuseKey = key ∧
      ∀ descriptor, MatchedUnder operations record descriptor ↔ descriptor = matched := by
  obtain ⟨batch, position, matched, known, described, found, sameKey⟩ :=
    builtFrom.exists_description had
  refine ⟨batch, List.mem_of_getElem? known, matched, List.mem_of_getElem? described, sameKey, ?_⟩
  intro descriptor
  constructor
  · rintro ⟨other, place, entry, otherKnown, otherDescribed, entryFound, sameId⟩
    have samePlace := builtFrom.position_unique found entryFound (id.trans sameId.symm)
    have sameBatch : batch = other := Option.some.inj (known.symm.trans otherKnown)
    rw [← sameBatch, ← samePlace] at otherDescribed
    exact Option.some.inj (otherDescribed.symm.trans described)
  · intro same
    rw [same]
    exact ⟨batch, position, (key, chain), known, described, found, id⟩

/-- A key comes up again in a batch exactly if a description there is alike. -/
theorem key_mem_iff {operations : List Operation} {operation : Operation}
    (collisionFree : CollisionFree (digested (operations ++ [operation])))
    {index : MatchIndex} {batch : List FilterChainDescriptor}
    (submittedBatch : batch ∈ submitted (operations ++ [operation]))
    (keys : index.chains.map (·.1) = batch.map (·.reuseKey)) {earlier : List FilterChainDescriptor}
    (submittedEarlier : earlier ∈ submitted operations) {matched : FilterChainDescriptor}
    (member : matched ∈ earlier) :
    matched.reuseKey ∈ index.chains.map (·.1) ↔ ∃ descriptor ∈ batch, descriptor.Alike matched := by
  have matchedText : matched.contentBytes ∈ digested (operations ++ [operation]) := by
    refine ⟨earlier, ?_, matched, member, rfl⟩
    rw [submitted_concat]
    exact List.mem_append_left _ submittedEarlier
  have alike_iff : ∀ descriptor ∈ batch,
      (descriptor.reuseKey = matched.reuseKey ↔ descriptor.Alike matched) := by
    intro descriptor listed
    exact FilterChainDescriptor.reuseKey_eq_iff collisionFree
      ⟨batch, submittedBatch, descriptor, listed, rfl⟩ matchedText
  rw [keys, List.mem_map]
  constructor
  · rintro ⟨descriptor, listed, same⟩
    exact ⟨descriptor, listed, (alike_iff descriptor listed).mp same⟩
  · rintro ⟨descriptor, listed, alike⟩
    exact ⟨descriptor, listed, (alike_iff descriptor listed).mpr alike⟩

/-- At every activation of a run, a connection that is tracked just before stays if the new batch has
a description like the one it was matched under, and otherwise ends before the activating operation
is over. -/
theorem survives_or_ends (config : ListenerConfig σ) (carrier : Carrier)
    (operations : List Operation) (operation : Operation)
    (collisionFree : CollisionFree (digested (operations ++ [operation])))
    {activation : Activation}
    (activates : activation ∈ (ran config carrier operations).activations operation)
    {handle : ConnectionHandle} {record : ConnectionRecord}
    (tracked : (ran config carrier operations).record? handle = some record) :
    ∃ batch matched connection,
      batchOf (submitted (operations ++ [operation])) activation.generation = some batch ∧
      (∀ descriptor, MatchedUnder operations record descriptor ↔ descriptor = matched) ∧
      (ran config carrier operations).connectionOf? record.connection = some connection ∧
      connection.Unclosed ∧
      ((∃ descriptor ∈ batch, descriptor.Alike matched) →
        Survives (ran config carrier (operations ++ [operation])) handle record connection) ∧
      ((∀ descriptor ∈ batch, ¬ descriptor.Alike matched) →
        Ends (ran config carrier operations) (ran config carrier (operations ++ [operation])) handle
          record connection) := by
  have coherent := coherent_ran config carrier operations
  rw [ran_concat]
  generalize ran config carrier operations = before at coherent activates tracked ⊢
  have sameHandle := handle_of_record? tracked
  have found := tracks_of_record? tracked
  obtain ⟨connection, connected, unclosed⟩ := coherent.tracking.live record found
  -- The new index is one of the batch, and its chains are those kept and those made for it.
  obtain ⟨index, _, same, activated⟩ := coherent.activated_of_mem activates
  obtain ⟨registry, consistent, active, drained⟩ := activated.drained coherent.tracking
  rw [← submitted_concat] at consistent
  obtain ⟨batch, known, keys⟩ := (consistent.active index active).1.batch
  -- The chain of the connection is kept if and only if its key comes up again.
  have onActiveChain := coherent.chains record found
  obtain ⟨key, chain, had, id, kept_iff, _⟩ :=
    onActiveChain.kept_iff coherent.registry activated.succeeds
  obtain ⟨earlier, submittedEarlier, matched, member, sameKey, matchedUnder⟩ :=
    exists_matchedUnder onActiveChain.builtFrom had id
  have key_iff := key_mem_iff collisionFree (List.mem_of_getElem? known) keys submittedEarlier member
  rw [← sameKey, key_iff] at kept_iff
  refine ⟨batch, matched, connection, ?_, matchedUnder, connected, unclosed, ?_, ?_⟩
  · rw [same]
    exact known
  · intro alike
    have kept := kept_iff.mpr alike
    constructor
    · rw [drained.record?, ← sameHandle, if_neg kept]
      exact found
    · have stays := drained.connection_of_not_mem (coherent.tracking.withRegistry registry) found kept
      exact stays.trans connected
  · intro unlike
    have gone : record.handle.chain ∈ (before.registry.activationOf index).removed := by
      by_contra kept
      obtain ⟨descriptor, listed, alike⟩ := kept_iff.mp kept
      exact unlike descriptor listed alike
    obtain ⟨added, parked, inAdded⟩ := drained.parked
    refine ⟨?_, ⟨?_, connection.close_noFlush_state, unclosed.close_noFlush⟩, added, parked,
      inAdded record found gone⟩
    · rw [drained.record?, ← sameHandle, if_pos gone]
    · have closed := drained.closed record found gone
      rw [closed]
      show (before.connectionOf? record.connection).map (·.close .noFlush) = _
      rw [connected]
      rfl

/-- A chain that answers its peers. -/
def answering (criteria : MatchCriteria) : FilterChainDescriptor :=
  { FilterChainDescriptor.blank with criteria, filters := [⟨"echo", .null⟩] }

/-- Criteria for one transport protocol. -/
def secured : MatchCriteria :=
  { MatchCriteria.anything with transportProtocol := "tls" }

/-- A batch of two chains, and a connection on each. -/
def twoConnections : List Operation := [
  .apply [answering .anything, answering secured] (BuildScript.builder ⟨none, false, []⟩),
  .accept (Socket.between (.internal "here") (.internal "there")) 0,
  .accept { Socket.between (.internal "here") (.internal "there") with
    transportProtocol := "tls" } 0]

/-- A batch that has only one of the chains. -/
def oneChainLess : Operation :=
  .apply [answering secured] (BuildScript.builder ⟨none, false, []⟩)

/-- A listener without listener filters. -/
def unfiltered : ListenerConfig Unit :=
  .new "listener" (.internal "here")

theorem survives_or_ends_twoConnections :
    CollisionFree (digested (twoConnections ++ [oneChainLess])) ∧
      ∃ activation ∈ (ran unfiltered .recorded twoConnections).activations oneChainLess,
      ∃ record,
        (ran unfiltered .recorded twoConnections).record? ⟨⟨1⟩, 0, 2⟩ = some record ∧
        ∃ matched connection,
          (∀ descriptor, MatchedUnder twoConnections record descriptor ↔ descriptor = matched) ∧
          (ran unfiltered .recorded twoConnections).connectionOf? record.connection =
            some connection ∧
          connection.Unclosed := by
  have texts : ∀ text ∈ digested (twoConnections ++ [oneChainLess]),
      text = (answering .anything).contentBytes := by
    rintro text ⟨batch, batchListed, descriptor, listed, rfl⟩
    have batches : submitted (twoConnections ++ [oneChainLess]) =
        [[answering .anything, answering secured], [answering secured]] := rfl
    rw [batches] at batchListed
    have either : descriptor = answering .anything ∨ descriptor = answering secured := by
      simp only [List.mem_cons, List.not_mem_nil, or_false] at batchListed
      rcases batchListed with rfl | rfl
      · simpa using listed
      · exact .inr (by simpa using listed)
    rcases either with rfl | rfl
    · rfl
    · rfl
  have collisionFree : CollisionFree (digested (twoConnections ++ [oneChainLess])) := by
    intro left leftText right rightText _
    rw [texts left leftText, texts right rightText]
  have active : (ran unfiltered .recorded twoConnections).activations oneChainLess ≠ [] := by
    have some : ((ran unfiltered .recorded twoConnections).activations
        oneChainLess).isEmpty = false := by decide +kernel
    exact List.isEmpty_eq_false_iff.mp some
  obtain ⟨activation, activates⟩ := List.exists_mem_of_ne_nil _ active
  have present : ((ran unfiltered .recorded twoConnections).record? ⟨⟨1⟩, 0, 2⟩).isSome = true := by
    decide +kernel
  obtain ⟨record, tracked⟩ := Option.isSome_iff_exists.mp present
  obtain ⟨_, matched, connection, _, matchedUnder, connected, unclosed, _⟩ :=
    survives_or_ends unfiltered .recorded twoConnections oneChainLess collisionFree activates tracked
  exact ⟨collisionFree, activation, activates, record, tracked, matched, connection, matchedUnder,
    connected, unclosed⟩

end ListenerState

end Admission.Listener
