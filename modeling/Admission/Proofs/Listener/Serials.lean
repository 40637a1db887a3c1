import Admission.Proofs.Listener.Effects

/-!
Contract: a serial belongs to one socket or to one connection.

Owns:
- `Drawn`, numbers that come one by one from a counter;
- `serials`, the serials of all sockets in listener filters, of all tracked connections and of all
  parked sockets, and `numbered_ran`, that they differ throughout a run.
-/

namespace Admission.Listener

/-- Different numbers, each below the next one that the counter gives. -/
structure Drawn (next : Nat) (numbers : List Nat) : Prop where
  distinct : numbers.Nodup
  below : ∀ number ∈ numbers, number < next

section Drawn

variable {next : Nat} {numbers others : List Nat}

theorem Drawn.perm (drawn : Drawn next numbers) (same : others.Perm numbers) :
    Drawn next others where
  distinct := same.nodup_iff.mpr drawn.distinct
  below := fun number listed => drawn.below number (same.mem_iff.mp listed)

theorem Drawn.sublist (drawn : Drawn next numbers) (fewer : others.Sublist numbers) :
    Drawn next others where
  distinct := drawn.distinct.sublist fewer
  below := fun number listed => drawn.below number (fewer.subset listed)

theorem Drawn.mono (drawn : Drawn next numbers) {later : Nat} (after : next ≤ later) :
    Drawn later numbers where
  distinct := drawn.distinct
  below := fun number listed => Nat.lt_of_lt_of_le (drawn.below number listed) after

/-- The counter gives a number that is not in use. -/
theorem Drawn.draw (drawn : Drawn next numbers) : Drawn (next + 1) (next :: numbers) where
  distinct := List.nodup_cons.mpr
    ⟨fun used => absurd (drawn.below next used) (Nat.lt_irrefl next), drawn.distinct⟩
  below := by
    intro number listed
    rcases List.mem_cons.mp listed with rfl | earlier
    · exact Nat.lt_succ_self _
    · exact Nat.lt_succ_of_lt (drawn.below number earlier)

end Drawn

namespace ListenerState

variable {σ : Type} {state : ListenerState σ}

/-- The serials in use. -/
def serials (state : ListenerState σ) : List Nat :=
  state.pending.values.map (·.id.serial) ++ state.records.map (·.handle.serial) ++
    (state.parked.filterMap Parked.socketId?).map (·.serial)

/-- The serials in use differ, and none is still to come. -/
def Numbered (state : ListenerState σ) : Prop :=
  Drawn state.nextSerial state.serials

private theorem numbered_new (config : ListenerConfig σ) (carrier : Carrier) :
    (ListenerState.new config carrier).Numbered :=
  ⟨List.nodup_nil, fun _ none => absurd none List.not_mem_nil⟩

/-! ## Sockets -/

private theorem serials_park (state : ListenerState σ) (id : SocketId) (socket : Socket)
    (info : StreamInfo) (connected : Bool) :
    (state.park (.socket id socket info connected)).serials.Perm (id.serial :: state.serials) := by
  unfold serials park
  dsimp only
  rw [List.filterMap_append, List.map_append, ← List.append_assoc]
  exact List.perm_append_singleton _ _

private theorem serials_released {id : SocketId} {pending : PendingSocket σ}
    (found : state.pending? id = some pending) :
    state.serials.Perm (pending.id.serial :: (state.released id.slot).serials) := by
  have sockets := (Slab.values_remove (pending?_eq_some_iff.mp found).1).map (·.id.serial)
  exact (sockets.append_right _).append_right _

private theorem serials_modify {slot : Nat} {change : PendingSocket σ → PendingSocket σ}
    (same : ∀ pending, state.pending.get? slot = some pending → (change pending).id = pending.id) :
    { state with pending := state.pending.modify slot change }.serials = state.serials := by
  have sockets : (state.pending.modify slot change).values.map (·.id.serial) =
      state.pending.values.map (·.id.serial) :=
    Slab.map_values_modify fun pending found => congrArg (·.serial) (same pending found)
  unfold serials
  dsimp only
  rw [sockets]
  rfl

/-- The serial of a socket that leaves the listener filters is parked with it; its connection draws
one of its own. -/
theorem Settled.numbered {pending : PendingSocket σ} {result : SocketOutcome × ListenerState σ}
    (settled : Settled state pending result) (tidy : Tidy state.groups)
    (drawn : Drawn state.nextSerial (pending.id.serial :: state.serials)) : result.2.Numbered := by
  cases settled with
  | closed connections socket tally => exact drawn.perm (state.serials_park _ socket _ false)
  | @connected connections connection info matched passed found flag =>
      have made : Tidy (state.made connections).groups := tidy
      have records := (records_track made matched.chain connection info matched.index).map
        (·.handle.serial)
      have tracked := ((records.append_left (state.pending.values.map (·.id.serial))).trans
        List.perm_middle).append_right ((state.parked.filterMap Parked.socketId?).map (·.serial))
      refine drawn.draw.perm ((serials_park _ _ _ _ _).trans ?_)
      exact (tracked.cons pending.id.serial).trans (.swap _ _ _)

private theorem Arrived.numbered {socket : Socket} {now : Nat}
    {result : SocketOutcome × ListenerState σ}
    (arrived : Arrived state (state.arrival socket now) result) (housed : state.Housed)
    (numbered : state.Numbered) : result.2.Numbered := by
  have drawn := Drawn.draw numbered
  cases arrived with
  | held waits =>
      have sockets := (housed.waiting.slots.values_insert (state.arrival socket now)).map
        (·.id.serial)
      exact drawn.perm ((sockets.append_right _).append_right _)
  | left settled => exact settled.numbered housed.tidy drawn

private theorem Stepped.numbered {id : SocketId} {step : Pipeline σ → Socket → Pipeline σ × Socket}
    {result : SocketOutcome × ListenerState σ} (stepped : Stepped state id step result)
    (tidy : Tidy state.groups) (numbered : state.Numbered) : result.2.Numbered := by
  cases stepped with
  | unknown => exact numbered
  | @held pending found waits =>
      have same : ∀ other, state.pending.get? id.slot = some other →
          (pending.stepped step).id = other.id := by
        intro other otherFound
        have one := (pending?_eq_some_iff.mp found).1.symm.trans otherFound
        exact congrArg (·.id) (Option.some.inj one)
      refine numbered.perm ?_
      rw [serials_modify same]
  | left found settled =>
      exact settled.numbered tidy (numbered.perm (serials_released found).symm)

private theorem TimedOut.numbered {id : SocketId} {result : SocketOutcome × ListenerState σ}
    (timedOut : TimedOut state id result) (tidy : Tidy state.groups) (numbered : state.Numbered) :
    result.2.Numbered := by
  have timed : state.timed.Numbered := numbered
  cases timedOut with
  | continued _ stepped => exact stepped.numbered tidy timed
  | @closed pending closes found socket =>
      have stillThere : state.timed.pending? id = some pending := found
      exact timed.perm ((serials_park _ _ _ _ _).trans (serials_released stillThere).symm)

private theorem Polled.numbered {ids : List SocketId}
    {result : List (SocketId × SocketOutcome) × ListenerState σ} (polled : Polled state ids result)
    (tidy : Tidy state.groups) (numbered : state.Numbered) : result.2.Numbered := by
  induction polled with
  | done => exact numbered
  | next timedOut _ inductionHypothesis =>
      exact inductionHypothesis (timedOut.tidy tidy) (timedOut.numbered tidy numbered)

/-! ## Operations -/

/-- The serials of sockets that are given up are parked with them. -/
theorem serials_withdrawn (state : ListenerState σ) :
    state.withdrawn.serials.Perm state.serials := by
  have parked : (state.withdrawn.parked.filterMap Parked.socketId?).map (·.serial) =
      (state.parked.filterMap Parked.socketId?).map (·.serial) ++
        state.pending.values.map (·.id.serial) := by
    unfold withdrawn
    dsimp only
    rw [List.filterMap_append, filterMap_socketId?_abandoned, List.map_append, List.map_map]
    rfl
  have none : state.withdrawn.pending.values.map (·.id.serial) = [] := rfl
  unfold serials
  rw [none, parked, List.nil_append, ← List.append_assoc]
  rw [List.append_assoc (state.pending.values.map _)]
  exact List.perm_append_comm

/-- Parked records no longer have serials in use. -/
theorem Shelved.numbered {after : ListenerState σ} (shelved : Shelved state after)
    (numbered : state.Numbered) : after.Numbered := by
  obtain ⟨added, parked, noSockets, moved⟩ := shelved.moved
  have none : added.filterMap Parked.socketId? = [] := by
    rw [List.filterMap_eq_nil_iff]
    exact noSockets
  have before := (((moved.symm.map (·.handle.serial)).append_left
    (state.pending.values.map (·.id.serial))).append_right
      ((state.parked.filterMap Parked.socketId?).map (·.serial)))
  have fewer := (((List.sublist_append_right (added.filterMap Parked.record?) after.records).map
    (·.handle.serial)).append_left (state.pending.values.map (·.id.serial))).append_right
      ((state.parked.filterMap Parked.socketId?).map (·.serial))
  have sockets : after.pending = state.pending := by
    rw [shelved.frame]
  have next : after.nextSerial = state.nextSerial := by
    rw [shelved.frame]
  unfold Numbered serials
  rw [sockets, next, parked, List.filterMap_append, none, List.append_nil]
  exact (Drawn.perm numbered before).sublist fewer

private theorem Effect.numbered {operation : Operation} {outcomes : List SocketOutcome}
    {after : ListenerState σ} (effect : Effect state operation outcomes after)
    (housed : state.Housed) (numbered : state.Numbered) : after.Numbered := by
  cases effect with
  | shelved _ shelved => exact shelved.numbered numbered
  | arrived arrived => exact arrived.numbered housed numbered
  | stepped _ _ stepped => exact stepped.numbered housed.tidy numbered
  | polled polled => exact polled.numbered housed.tidy numbered
  | opened change keeps =>
      refine Drawn.perm numbered ?_
      rw [serials_modify fun pending _ => by rw [keeps pending]]
  | ended shelved =>
      exact shelved.numbered (Drawn.perm numbered state.serials_withdrawn)
  | cleared =>
      refine Drawn.sublist numbered ?_
      exact (List.nil_sublist _).append_left _

theorem numbered_ran (config : ListenerConfig σ) (carrier : Carrier)
    (operations : List Operation) : (ran config carrier operations).Numbered := by
  induction operations using List.reverseRecOn with
  | nil => exact numbered_new config carrier
  | append_singleton operations operation inductionHypothesis =>
      exact (effect_ran config carrier operations operation).numbered
        (housed_ran config carrier operations) inductionHypothesis

theorem Reachable.numbered (reachable : state.Reachable) : state.Numbered := by
  obtain ⟨config, carrier, operations, rfl⟩ := reachable
  exact numbered_ran config carrier operations

end ListenerState

end Admission.Listener
