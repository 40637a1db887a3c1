import Admission.Proofs.Listener.Serials

/-!
Contract: what keeps its name while a listener goes on.

Owns:
- `Inherits`, that whatever has its serial already stays what it is or goes away, kept by every
  effect of an operation and so along a run;
- `Fresh`, that a connection is tracked under a handle that was not drawn before.
-/

namespace Admission.Listener

open Admission.Chain

/-- The same socket, perhaps further on in the listener filters. -/
def PendingSocket.Continues {σ : Type} (earlier later : PendingSocket σ) : Prop :=
  later = { earlier with socket := later.socket, pipeline := later.pipeline }

private theorem PendingSocket.Continues.trans {σ : Type} {first second third : PendingSocket σ}
    (earlier : first.Continues second) (later : second.Continues third) :
    first.Continues third := by
  unfold Continues at earlier later ⊢
  rw [later, earlier]

namespace ListenerState

variable {σ : Type} {state : ListenerState σ}

/-- The records of all groups are those that are found under their handles. -/
theorem Housed.mem_records_iff (housed : state.Housed) {record : ConnectionRecord} :
    record ∈ state.records ↔ state.Tracks record := by
  constructor
  · intro listed
    obtain ⟨group, groupListed, recordListed⟩ := List.mem_flatMap.mp listed
    obtain ⟨⟨chain, _⟩, entry, rfl⟩ := List.mem_map.mp groupListed
    have found := housed.distinct.mem_entries_iff.mp entry
    obtain ⟨slot, held⟩ := Slab.mem_values_iff.mp recordListed
    exact (housed.tracking.tracks_of_group found held).1
  · intro tracked
    obtain ⟨group, found, held, _⟩ := record?_eq_some_iff.mp tracked
    exact mem_recordsOf found held

theorem Housed.mem_of_record? (housed : state.Housed) {handle : ConnectionHandle}
    {record : ConnectionRecord} (found : state.record? handle = some record) :
    record ∈ state.records :=
  housed.mem_records_iff.mpr (tracks_of_record? found)

/-- A handle stands for one record. -/
theorem Housed.eq_of_handle (housed : state.Housed) {left right : ConnectionRecord}
    (leftListed : left ∈ state.records) (rightListed : right ∈ state.records)
    (same : left.handle = right.handle) : left = right := by
  have leftTracked : state.record? left.handle = some left := housed.mem_records_iff.mp leftListed
  have rightTracked : state.record? right.handle = some right :=
    housed.mem_records_iff.mp rightListed
  rw [same, rightTracked] at leftTracked
  exact (Option.some.inj leftTracked).symm

/-- A connection has one record. -/
theorem Housed.eq_of_connection (housed : state.Housed) {left right : ConnectionRecord}
    (leftListed : left ∈ state.records) (rightListed : right ∈ state.records)
    (same : left.connection = right.connection) : left = right :=
  housed.tracking.own left right (housed.mem_records_iff.mp leftListed)
    (housed.mem_records_iff.mp rightListed) same

/-- What has its serial already is as it was, or it is gone. -/
structure Inherits (before after : ListenerState σ) : Prop where
  serials : before.nextSerial ≤ after.nextSerial
  sockets : ∀ slot later, after.pending.get? slot = some later →
    later.id.serial < before.nextSerial →
    ∃ earlier, before.pending.get? slot = some earlier ∧ earlier.Continues later
  records : ∀ record ∈ after.records, record.handle.serial < before.nextSerial →
    record ∈ before.records

namespace Inherits

variable {before middle after : ListenerState σ}

/-- Nothing is added, and what is exchanged is the same socket. -/
theorem of_fewer (serials : before.nextSerial ≤ after.nextSerial)
    (sockets : ∀ slot later, after.pending.get? slot = some later →
      ∃ earlier, before.pending.get? slot = some earlier ∧ earlier.Continues later)
    (records : ∀ record ∈ after.records, record ∈ before.records) : Inherits before after :=
  ⟨serials, fun slot later found _ => sockets slot later found,
    fun record listed _ => records record listed⟩

private theorem refl (state : ListenerState σ) : Inherits state state :=
  of_fewer (Nat.le_refl _) (fun _ later found => ⟨later, found, rfl⟩) fun _ listed => listed

private theorem trans (first : Inherits before middle) (rest : Inherits middle after) :
    Inherits before after where
  serials := Nat.le_trans first.serials rest.serials
  sockets := by
    intro slot later found drawn
    obtain ⟨between, there, goesOn⟩ :=
      rest.sockets slot later found (Nat.lt_of_lt_of_le drawn first.serials)
    have sameId : between.id = later.id := (congrArg (·.id) goesOn).symm
    obtain ⟨earlier, here, wentOn⟩ := first.sockets slot between there (by rw [sameId]; exact drawn)
    exact ⟨earlier, here, wentOn.trans goesOn⟩
  records := fun record listed drawn =>
    first.records record (rest.records record listed (Nat.lt_of_lt_of_le drawn first.serials)) drawn

/-- A name that is used up and stands for no socket never stands for one again. -/
theorem pending?_none (inherits : Inherits before after) {id : SocketId}
    (drawn : id.serial < before.nextSerial) (gone : before.pending? id = none) :
    after.pending? id = none := by
  rw [Option.eq_none_iff_forall_not_mem]
  intro later found
  obtain ⟨there, sameId⟩ := pending?_eq_some_iff.mp found
  obtain ⟨earlier, here, goesOn⟩ := inherits.sockets id.slot later there (by rw [sameId]; exact drawn)
  have earlierId : earlier.id = id := (congrArg (·.id) goesOn).symm.trans sameId
  rw [pending?_eq_some_iff.mpr ⟨here, earlierId⟩] at gone
  exact absurd gone (by simp)

/-- The socket that has a name is the one that had it. -/
theorem continues (inherits : Inherits before after) {id : SocketId} {earlier later : PendingSocket σ}
    (drawn : id.serial < before.nextSerial) (here : before.pending? id = some earlier)
    (there : after.pending? id = some later) : earlier.Continues later := by
  obtain ⟨inSlot, sameId⟩ := pending?_eq_some_iff.mp there
  obtain ⟨found, held, goesOn⟩ :=
    inherits.sockets id.slot later inSlot (by rw [sameId]; exact drawn)
  rw [(pending?_eq_some_iff.mp here).1] at held
  rw [Option.some.inj held]
  exact goesOn

/-- A record that a used-up handle stands for has been there. -/
theorem record? (inherits : Inherits before after) (housedBefore : before.Housed)
    (housedAfter : after.Housed) {handle : ConnectionHandle} {record : ConnectionRecord}
    (drawn : handle.serial < before.nextSerial) (found : after.record? handle = some record) :
    before.record? handle = some record := by
  have sameHandle := handle_of_record? found
  have listed := housedAfter.mem_of_record? found
  have earlier := inherits.records record listed (by rw [sameHandle]; exact drawn)
  rw [← sameHandle]
  exact housedBefore.mem_records_iff.mp earlier

end Inherits

/-! ## Effects -/

section Effects

variable {before : ListenerState σ} {id : SocketId} {result : SocketOutcome × ListenerState σ}

private theorem Inherits.modify (state : ListenerState σ) (slot : Nat)
    (change : PendingSocket σ → PendingSocket σ)
    (same : ∀ pending, state.pending.get? slot = some pending → pending.Continues (change pending)) :
    Inherits state { state with pending := state.pending.modify slot change } := by
  refine .of_fewer (Nat.le_refl _) ?_ fun _ listed => listed
  intro other later found
  dsimp only at found
  rw [Slab.get?_modify] at found
  split at found
  · rename_i here
    obtain ⟨earlier, held, rfl⟩ := Option.map_eq_some_iff.mp found
    rw [here] at held ⊢
    exact ⟨earlier, held, same earlier held⟩
  · exact ⟨later, found, rfl⟩

private theorem Inherits.released (state : ListenerState σ) (slot : Nat) :
    Inherits state (state.released slot) := by
  refine .of_fewer (Nat.le_refl _) ?_ fun _ listed => listed
  intro other later found
  unfold ListenerState.released count at found
  dsimp only at found
  rw [Slab.get?_remove] at found
  split at found
  · exact absurd found (by simp)
  · exact ⟨later, found, rfl⟩

/-- A new connection draws the next serial. -/
theorem Settled.inherits {pending : PendingSocket σ} (settled : Settled before pending result)
    (tidy : Tidy before.groups) : Inherits before result.2 := by
  cases settled with
  | closed =>
      exact .of_fewer (Nat.le_refl _) (fun _ later found => ⟨later, found, rfl⟩)
        fun _ listed => listed
  | @connected connections connection info matched passed found flag =>
      have made : Tidy (before.made connections).groups := tidy
      have records := records_track made matched.chain connection info matched.index
      refine ⟨Nat.le_succ _, fun _ later found _ => ⟨later, found, rfl⟩, ?_⟩
      intro record listed drawn
      rcases List.mem_cons.mp (records.mem_iff.mp listed) with rfl | earlier
      · exact absurd drawn (Nat.lt_irrefl _)
      · exact earlier

/-- A new socket draws the next serial. -/
theorem Arrived.inherits {socket : Socket} {now : Nat}
    (arrived : Arrived before (before.arrival socket now) result) (housed : before.Housed) :
    Inherits before result.2 := by
  cases arrived with
  | held waits =>
      refine ⟨Nat.le_succ _, ?_, fun _ listed _ => listed⟩
      intro slot later found drawn
      unfold count at found
      dsimp only at found
      rw [housed.waiting.slots.get?_insert] at found
      split at found
      · rw [← Option.some.inj found] at drawn
        exact absurd drawn (Nat.lt_irrefl _)
      · exact ⟨later, found, rfl⟩
  | left settled =>
      have taken : Inherits before before.taken :=
        .of_fewer (Nat.le_succ _) (fun _ later found => ⟨later, found, rfl⟩) fun _ listed => listed
      exact taken.trans (settled.inherits housed.tidy)

private theorem Stepped.inherits {step : Pipeline σ → Socket → Pipeline σ × Socket}
    (stepped : Stepped before id step result) (tidy : Tidy before.groups) :
    Inherits before result.2 := by
  cases stepped with
  | unknown => exact .refl before
  | @held pending found waits =>
      refine .modify before id.slot _ ?_
      intro other held
      rw [(pending?_eq_some_iff.mp found).1] at held
      rw [← Option.some.inj held]
      rfl
  | left found settled => exact (Inherits.released before id.slot).trans (settled.inherits tidy)

private theorem TimedOut.inherits (timedOut : TimedOut before id result)
    (tidy : Tidy before.groups) :
    Inherits before result.2 := by
  have timed : Inherits before before.timed :=
    .of_fewer (Nat.le_refl _) (fun _ later found => ⟨later, found, rfl⟩) fun _ listed => listed
  cases timedOut with
  | continued _ stepped => exact timed.trans (stepped.inherits tidy)
  | closed =>
      have released := timed.trans (Inherits.released before.timed id.slot)
      exact ⟨released.serials, released.sockets, released.records⟩

private theorem Polled.inherits {ids : List SocketId}
    {result : List (SocketId × SocketOutcome) × ListenerState σ} (polled : Polled before ids result)
    (tidy : Tidy before.groups) : Inherits before result.2 := by
  induction polled with
  | done => exact .refl _
  | next timedOut _ inductionHypothesis =>
      exact (timedOut.inherits tidy).trans (inductionHypothesis (timedOut.tidy tidy))

private theorem Shelved.inherits {after : ListenerState σ} (shelved : Shelved before after) :
    Inherits before after := by
  obtain ⟨added, _, _, moved⟩ := shelved.moved
  have frame := shelved.frame
  refine .of_fewer ?_ ?_ ?_
  · rw [frame]
  · intro slot later found
    rw [frame] at found
    exact ⟨later, found, rfl⟩
  · exact fun record listed => moved.mem_iff.mpr (List.mem_append_right _ listed)

theorem Effect.inherits {operation : Operation} {outcomes : List SocketOutcome}
    {after : ListenerState σ} (effect : Effect before operation outcomes after)
    (housed : before.Housed) : Inherits before after := by
  cases effect with
  | shelved _ shelved => exact shelved.inherits
  | arrived arrived => exact arrived.inherits housed
  | stepped _ _ stepped => exact stepped.inherits housed.tidy
  | polled polled => exact polled.inherits housed.tidy
  | opened change keeps =>
      refine .modify before _ change ?_
      intro pending _
      unfold PendingSocket.Continues
      rw [keeps pending]
  | ended shelved =>
      have withdrawn : Inherits before before.withdrawn :=
        .of_fewer (Nat.le_refl _) (fun _ _ none => absurd none (by simp [ListenerState.withdrawn]))
          fun _ listed => listed
      exact withdrawn.trans shelved.inherits
  | cleared =>
      exact .of_fewer (Nat.le_refl _) (fun _ later found => ⟨later, found, rfl⟩)
        fun _ listed => listed

end Effects

theorem inherits_ran (config : ListenerConfig σ) (carrier : Carrier)
    (operations rest : List Operation) :
    Inherits (ran config carrier operations) (ran config carrier (operations ++ rest)) := by
  induction rest using List.reverseRecOn with
  | nil =>
      rw [List.append_nil]
      exact .refl _
  | append_singleton rest operation inductionHypothesis =>
      rw [← List.append_assoc]
      exact inductionHypothesis.trans
        ((effect_ran config carrier (operations ++ rest) operation).inherits
          (housed_ran config carrier (operations ++ rest)))

/-! ## New connections -/

section Connected

variable {before : ListenerState σ} {id : SocketId} {result : SocketOutcome × ListenerState σ}

/-- What becomes of sockets takes no record away. -/
theorem Settled.records_subset {pending : PendingSocket σ} (settled : Settled before pending result)
    (tidy : Tidy before.groups) : before.records ⊆ result.2.records := by
  cases settled with
  | closed => exact List.Subset.refl _
  | @connected connections connection info matched passed found flag =>
      have made : Tidy (before.made connections).groups := tidy
      have records := records_track made matched.chain connection info matched.index
      exact fun record listed => records.mem_iff.mpr (List.mem_cons_of_mem _ listed)

theorem Stepped.records_subset {step : Pipeline σ → Socket → Pipeline σ × Socket}
    (stepped : Stepped before id step result) (tidy : Tidy before.groups) :
    before.records ⊆ result.2.records := by
  cases stepped with
  | unknown => exact List.Subset.refl _
  | held => exact List.Subset.refl _
  | left _ settled => exact settled.records_subset tidy

private theorem TimedOut.records_subset (timedOut : TimedOut before id result)
    (tidy : Tidy before.groups) : before.records ⊆ result.2.records := by
  cases timedOut with
  | continued _ stepped => exact stepped.records_subset tidy
  | closed => exact List.Subset.refl _

private theorem Polled.records_subset {ids : List SocketId}
    {result : List (SocketId × SocketOutcome) × ListenerState σ} (polled : Polled before ids result)
    (tidy : Tidy before.groups) : before.records ⊆ result.2.records := by
  induction polled with
  | done => exact List.Subset.refl _
  | next timedOut _ inductionHypothesis =>
      exact List.Subset.trans (timedOut.records_subset tidy)
        (inductionHypothesis (timedOut.tidy tidy))

/-- The record of a new connection is the only new one. -/
theorem Settled.records_cases {pending : PendingSocket σ} (settled : Settled before pending result)
    (tidy : Tidy before.groups) {record : ConnectionRecord} (listed : record ∈ result.2.records) :
    record ∈ before.records ∨ result.1 = .connected record.handle := by
  cases settled with
  | closed => exact .inl listed
  | @connected connections connection info matched passed found flag =>
      have made : Tidy (before.made connections).groups := tidy
      have records := records_track made matched.chain connection info matched.index
      rcases List.mem_cons.mp (records.mem_iff.mp listed) with rfl | earlier
      · exact .inr rfl
      · exact .inl earlier

private theorem Stepped.records_cases {step : Pipeline σ → Socket → Pipeline σ × Socket}
    (stepped : Stepped before id step result) (tidy : Tidy before.groups)
    {record : ConnectionRecord} (listed : record ∈ result.2.records) :
    record ∈ before.records ∨ result.1 = .connected record.handle := by
  cases stepped with
  | unknown => exact .inl listed
  | held => exact .inl listed
  | left _ settled => exact settled.records_cases tidy listed

private theorem TimedOut.records_cases (timedOut : TimedOut before id result)
    (tidy : Tidy before.groups) {record : ConnectionRecord} (listed : record ∈ result.2.records) :
    record ∈ before.records ∨ result.1 = .connected record.handle := by
  cases timedOut with
  | continued _ stepped => exact stepped.records_cases tidy listed
  | closed => exact .inl listed

private theorem Polled.records_cases {ids : List SocketId}
    {result : List (SocketId × SocketOutcome) × ListenerState σ} (polled : Polled before ids result)
    (tidy : Tidy before.groups) {record : ConnectionRecord} (listed : record ∈ result.2.records) :
    record ∈ before.records ∨ .connected record.handle ∈ result.1.map (·.2) := by
  induction polled with
  | done => exact .inl listed
  | next timedOut _ inductionHypothesis =>
      rcases inductionHypothesis (timedOut.tidy tidy) listed with between | later
      · rcases timedOut.records_cases tidy between with earlier | here
        · exact .inl earlier
        · exact .inr (List.mem_cons.mpr (.inl here.symm))
      · exact .inr (List.mem_cons_of_mem _ later)

theorem Shelved.records_subset {after : ListenerState σ} (shelved : Shelved before after) :
    after.records ⊆ before.records := by
  obtain ⟨added, _, _, moved⟩ := shelved.moved
  exact fun record listed => moved.mem_iff.mpr (List.mem_append_right _ listed)

/-- Nothing is tracked but what was tracked before and what an operation has connected. -/
theorem Effect.records_cases {operation : Operation} {outcomes : List SocketOutcome}
    {after : ListenerState σ} (effect : Effect before operation outcomes after)
    (tidy : Tidy before.groups) {record : ConnectionRecord} (listed : record ∈ after.records) :
    record ∈ before.records ∨ .connected record.handle ∈ outcomes := by
  cases effect with
  | shelved _ shelved => exact .inl (shelved.records_subset listed)
  | arrived arrived =>
      cases arrived with
      | held => exact .inl listed
      | left settled =>
          rcases settled.records_cases tidy listed with earlier | here
          · exact .inl earlier
          · exact .inr (List.mem_singleton.mpr here.symm)
  | stepped _ _ stepped =>
      rcases stepped.records_cases tidy listed with earlier | here
      · exact .inl earlier
      · exact .inr (List.mem_singleton.mpr here.symm)
  | polled polled => exact polled.records_cases tidy listed
  | opened => exact .inl listed
  | ended shelved => exact .inl (shelved.records_subset listed)
  | cleared => exact .inl listed

/-- An operation on sockets takes no record away. -/
theorem Effect.records_subset {operation : Operation} {outcomes : List SocketOutcome}
    {after : ListenerState σ} (effect : Effect before operation outcomes after)
    (tidy : Tidy before.groups) (stays : operation.shelves = false)
    (goesOn : operation ≠ .shutdown) : before.records ⊆ after.records := by
  cases effect with
  | shelved shelves => exact absurd (shelves.symm.trans stays) (by decide)
  | arrived arrived =>
      cases arrived with
      | held => exact List.Subset.refl _
      | left settled => exact settled.records_subset tidy
  | stepped _ _ stepped => exact stepped.records_subset tidy
  | polled polled => exact polled.records_subset tidy
  | opened => exact List.Subset.refl _
  | ended => exact absurd rfl goesOn
  | cleared => exact List.Subset.refl _

/-- A handle is new, and a record is found under it. -/
def Fresh (before after : ListenerState σ) (handle : ConnectionHandle) : Prop :=
  before.nextSerial ≤ handle.serial ∧ ∃ record ∈ after.records, record.handle = handle

private theorem Settled.fresh {pending : PendingSocket σ} (settled : Settled before pending result)
    (tidy : Tidy before.groups) {handle : ConnectionHandle} (connected : result.1 = .connected handle) :
    Fresh before result.2 handle := by
  cases settled with
  | closed => exact absurd connected (by simp)
  | @connected connections connection info matched passed found flag =>
      have made : Tidy (before.made connections).groups := tidy
      have records := records_track made matched.chain connection info matched.index
      rw [← SocketOutcome.connected.inj connected]
      exact ⟨Nat.le_refl _, _, records.mem_iff.mpr List.mem_cons_self, rfl⟩

private theorem Stepped.fresh {step : Pipeline σ → Socket → Pipeline σ × Socket}
    (stepped : Stepped before id step result) (tidy : Tidy before.groups)
    {handle : ConnectionHandle} (connected : result.1 = .connected handle) :
    Fresh before result.2 handle := by
  cases stepped with
  | unknown => exact absurd connected (by simp)
  | held => exact absurd connected (by simp)
  | left _ settled => exact settled.fresh tidy connected

private theorem TimedOut.fresh (timedOut : TimedOut before id result) (tidy : Tidy before.groups)
    {handle : ConnectionHandle} (connected : result.1 = .connected handle) :
    Fresh before result.2 handle := by
  cases timedOut with
  | continued _ stepped => exact stepped.fresh tidy connected
  | closed => exact absurd connected (by simp)

private theorem Polled.fresh {ids : List SocketId}
    {result : List (SocketId × SocketOutcome) × ListenerState σ} (polled : Polled before ids result)
    (tidy : Tidy before.groups) {handle : ConnectionHandle}
    (connected : .connected handle ∈ result.1.map (·.2)) : Fresh before result.2 handle := by
  induction polled with
  | done => exact absurd connected List.not_mem_nil
  | @next before middle after id ids outcome outcomes timedOut rest inductionHypothesis =>
      have tidyThen := timedOut.tidy tidy
      rcases List.mem_cons.mp connected with here | later
      · obtain ⟨drawn, record, listed, same⟩ := timedOut.fresh tidy here.symm
        exact ⟨drawn, record, rest.records_subset tidyThen listed, same⟩
      · obtain ⟨drawn, found⟩ := inductionHypothesis tidyThen later
        exact ⟨Nat.le_trans (timedOut.inherits tidy).serials drawn, found⟩

theorem Effect.fresh {operation : Operation} {outcomes : List SocketOutcome}
    {after : ListenerState σ} (effect : Effect before operation outcomes after)
    (tidy : Tidy before.groups) {handle : ConnectionHandle}
    (connected : .connected handle ∈ outcomes) : Fresh before after handle := by
  cases effect with
  | arrived arrived =>
      cases arrived with
      | held => exact absurd connected (by simp)
      | left settled =>
          obtain ⟨drawn, found⟩ := settled.fresh tidy (List.mem_singleton.mp connected).symm
          exact ⟨Nat.le_of_succ_le drawn, found⟩
  | stepped _ _ stepped => exact stepped.fresh tidy (List.mem_singleton.mp connected).symm
  | polled polled => exact polled.fresh tidy connected
  | _ => exact absurd connected List.not_mem_nil

end Connected

end ListenerState

end Admission.Listener
