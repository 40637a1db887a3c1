import Admission.Proofs.Chain.Countdown
import Admission.Proofs.Chain.Stale

/-!
Contract: a registry that counts its warm-ups down and one that lists what they wait for do the same.

Owns:
- `Tallies`, the agreement of the two, kept by every event;
- `counts_as_listed`: a run of the one can be done in the other, with the same answers, and the counts
  are the lengths of the lists.
-/

namespace Admission.Chain

namespace CountingRegistry

/-! ## Agreement -/

/-- A registry that counts agrees with one that lists. -/
structure Tallies (counting : CountingRegistry) (registry : Registry) : Prop where
  slots : counting.registry = { registry with warmups := [] }
  distinct : counting.held.Nodup
  /-- Every target that is not ready is counted, and so is a build that is not over. -/
  counted : ∀ generation countdown, counting.countdowns.get? generation = some countdown →
    generation.value < registry.nextGeneration ∧
      countdown.count = (counting.heldOf generation).length + countdown.guard
  owned : ∀ target ∈ counting.held,
    (counting.countdowns.get? target.generation).isSome = true
  /-- A warm-up waits for the targets of its generation that are not ready. -/
  waits : ∀ warmup ∈ registry.warmups, warmup.outstanding = counting.heldOf warmup.generation
  /-- The builds that are over are those of warm-ups. -/
  ended_iff : ∀ generation,
    (∃ countdown, counting.countdowns.get? generation = some countdown ∧ countdown.ended = true) ↔
      ∃ warmup ∈ registry.warmups, warmup.generation = generation
  warming : ∀ index, registry.warming = some index →
    ∃ warmup ∈ registry.warmups, warmup.generation = index.generation

private theorem tallies_new (listener : String) :
    Tallies (new listener) (Registry.new listener) where
  slots := rfl
  distinct := List.nodup_nil
  counted := fun _ _ none => absurd none (by simp [new])
  owned := fun _ none => absurd none List.not_mem_nil
  waits := fun _ none => absurd none List.not_mem_nil
  ended_iff := fun _ => iff_of_false (by simp [new]) (by simp [Registry.new])
  warming := fun _ none => absurd none (by simp [Registry.new])

section Tallies

variable {counting : CountingRegistry} {registry : Registry}
  (tallies : Tallies counting registry)

include tallies

namespace Tallies

private theorem swap (index : MatchIndex) :
    Tallies { counting with registry := counting.registry.swap index } (registry.swap index) where
  slots := by
    rw [tallies.slots]
    rfl
  distinct := tallies.distinct
  counted := tallies.counted
  owned := tallies.owned
  waits := tallies.waits
  ended_iff := tallies.ended_iff
  warming := fun _ none => absurd none (by simp [Registry.swap])

private theorem emptied :
    Tallies { counting with registry := { counting.registry with warmed := [] } }
      { registry with warmed := [] } where
  slots := by rw [tallies.slots]
  distinct := tallies.distinct
  counted := tallies.counted
  owned := tallies.owned
  waits := tallies.waits
  ended_iff := tallies.ended_iff
  warming := tallies.warming

/-! ### Ready calls -/

/-- What a generation waits for is held, and a refused batch waits for nothing. -/
theorem outstanding_eq (inStep : registry.InStep) {generation : GenerationId}
    {countdown : Countdown} (found : counting.countdowns.get? generation = some countdown) :
    registry.outstanding generation =
      if countdown.ended = true then counting.heldOf generation else [] := by
  split
  · rename_i ended
    obtain ⟨warmup, listed, rfl⟩ := (tallies.ended_iff generation).mp ⟨countdown, found, ended⟩
    rw [inStep.outstanding_of_mem listed, tallies.waits warmup listed]
  · rename_i unfinished
    apply Registry.outstanding_eq_nil_iff.mpr
    intro warmup listed own
    obtain ⟨other, there, ended⟩ := (tallies.ended_iff generation).mpr ⟨warmup, listed, own⟩
    rw [found] at there
    rw [Option.some.inj there] at unfinished
    exact absurd ended unfinished

private theorem heldOf_erase (target : InitTarget) (generation : GenerationId) :
    (counting.held.erase target).filter (·.generation = generation) =
      (counting.heldOf generation).erase target := by
  have distinct := tallies.distinct
  unfold heldOf
  rw [distinct.erase_eq_filter, (distinct.filter _).erase_eq_filter, List.filter_filter,
    List.filter_filter]
  apply List.filter_congr
  intro other _
  exact Bool.and_comm _ _

private theorem filter_heldOf (generation : GenerationId) (target : InitTarget) :
    (counting.heldOf generation).filter (· ≠ target) =
      (counting.heldOf generation).erase target := by
  have distinct : (counting.heldOf generation).Nodup := tallies.distinct.filter _
  rw [distinct.erase_eq_filter]
  apply List.filter_congr
  intro other _
  rw [decide_not]
  rfl

omit tallies in
private theorem mem_heldOf {target : InitTarget} (held : target ∈ counting.held) :
    target ∈ counting.heldOf target.generation :=
  List.mem_filter.mpr ⟨held, by simp⟩

/-- Who takes the last one away has the last target that a warm-up waits for. -/
theorem finishedBy_eq (inStep : registry.InStep) {target : InitTarget}
    (held : target ∈ counting.held) {countdown : Countdown}
    (found : counting.countdowns.get? target.generation = some countdown) :
    registry.finishedBy target = if countdown.count = 1 then [target.generation] else [] := by
  have member := mem_heldOf held
  have counted := (tallies.counted _ _ found).2
  have outstanding := tallies.outstanding_eq inStep found
  have finished_iff : target.generation ∈ registry.finishedBy target ↔ countdown.count = 1 := by
    rw [inStep.mem_finishedBy_iff, outstanding, counted]
    have more := List.length_pos_of_mem member
    unfold Countdown.guard
    cases countdown.ended with
    | false =>
        simp only [Bool.false_eq_true, if_false, List.not_mem_nil, false_and, false_iff]
        omega
    | true =>
        simp only [if_true, member, true_and]
        rw [tallies.filter_heldOf, ← List.length_eq_zero_iff, List.length_erase_of_mem member]
        omega
  have own : ∀ generation ∈ registry.finishedBy target, generation = target.generation := by
    intro generation finished
    obtain ⟨warmup, listed, rfl, waits⟩ :=
      Registry.mem_outstanding.mp (inStep.mem_finishedBy_iff.mp finished).1
    exact (inStep.own warmup listed target waits).symm
  split
  · rename_i last
    have once := inStep.finishedBy_nodup target
    rw [List.eq_replicate_of_mem own] at once ⊢
    have count := List.nodup_replicate.mp once
    have some := List.length_pos_of_mem (finished_iff.mpr last)
    rw [show (registry.finishedBy target).length = 1 by omega]
    rfl
  · rename_i further
    apply List.eq_nil_iff_forall_not_mem.mpr
    intro generation finished
    have same := own generation finished
    rw [same] at finished
    exact further (finished_iff.mp finished)

/-- One target less is held, counted and waited for. -/
theorem taken {target : InitTarget} (held : target ∈ counting.held) {countdown : Countdown}
    (found : counting.countdowns.get? target.generation = some countdown) :
    Tallies
      { registry := { counting.registry with
          warmed := counting.registry.warmed ++ registry.finishedBy target }
        countdowns := counting.countdowns.insert target.generation
          { countdown with count := countdown.count - 1 }
        held := counting.held.erase target }
      (registry.targetReady target) where
  slots := by
    rw [tallies.slots]
    rfl
  distinct := tallies.distinct.erase target
  counted := by
    intro generation other there
    show generation.value < registry.nextGeneration ∧ other.count =
      ((counting.held.erase target).filter (·.generation = generation)).length + other.guard
    rw [tallies.heldOf_erase]
    rw [Table.get?_insert] at there
    split at there
    · rename_i here
      have member := mem_heldOf held
      have length := List.length_erase_of_mem member
      have more := List.length_pos_of_mem member
      obtain ⟨given, counted⟩ := tallies.counted _ _ found
      rw [← Option.some.inj there, here]
      refine ⟨given, ?_⟩
      show countdown.count - 1 = _ + countdown.guard
      omega
    · rename_i elsewhere
      have foreign : target ∉ counting.heldOf generation := by
        intro listed
        have own := (List.mem_filter.mp listed).2
        exact elsewhere (of_decide_eq_true own).symm
      rw [List.erase_of_not_mem foreign]
      exact tallies.counted generation other there
  owned := by
    intro other listed
    rw [Table.get?_insert]
    split
    · rfl
    · exact tallies.owned other (List.mem_of_mem_erase listed)
  waits := by
    intro warmup listed
    obtain ⟨before, earlier, rfl⟩ := List.mem_map.mp listed
    refine Eq.trans ?_ (tallies.heldOf_erase target before.generation).symm
    rw [← tallies.filter_heldOf, ← tallies.waits before earlier]
  ended_iff := by
    intro generation
    have kept : (∃ warmup ∈ (registry.targetReady target).warmups,
        warmup.generation = generation) ↔
        ∃ warmup ∈ registry.warmups, warmup.generation = generation := by
      simp [Registry.targetReady]
    rw [kept, ← tallies.ended_iff generation, Table.get?_insert]
    split
    · rename_i here
      rw [here, found]
      simp
    · rfl
  warming := by
    intro index waiting
    obtain ⟨warmup, listed, own⟩ := tallies.warming index waiting
    exact ⟨_, List.mem_map_of_mem listed, own⟩

/-- A target becomes ready in both. -/
theorem targetReady (inStep : registry.InStep) (target : InitTarget) :
    ∃ next, counting.targetReady target = some next ∧
      Tallies next (registry.targetReady target) := by
  unfold CountingRegistry.targetReady
  by_cases held : target ∈ counting.held
  · obtain ⟨countdown, found⟩ := Option.isSome_iff_exists.mp (tallies.owned target held)
    have taken := tallies.taken held found
    have more := List.length_pos_of_mem (mem_heldOf held)
    have counted := (tallies.counted _ _ found).2
    have released : countdown.release = some (decide (countdown.count = 1),
        { countdown with count := countdown.count - 1 }) := if_neg (by omega)
    rw [tallies.finishedBy_eq inStep held found] at taken
    rw [if_pos held]
    simp only [found, released, Option.bind_eq_bind, Option.bind_some, decide_eq_true_eq]
    exact ⟨_, rfl, taken⟩
  · have unknown : ∀ warmup ∈ registry.warmups, target ∉ warmup.outstanding := by
      intro warmup listed waits
      rw [tallies.waits warmup listed] at waits
      exact held (List.mem_of_mem_filter waits)
    rw [if_neg held, Registry.targetReady_of_not_outstanding unknown]
    exact ⟨counting, rfl, tallies⟩

/-! ### Updates -/

private theorem fresh (target : InitTarget) (held : target ∈ counting.held) :
    target.generation ≠ ⟨registry.nextGeneration⟩ := by
  intro same
  obtain ⟨countdown, found⟩ := Option.isSome_iff_exists.mp (tallies.owned target held)
  have drawn := (tallies.counted _ _ found).1
  rw [same] at drawn
  exact Nat.lt_irrefl _ drawn

section Drafted

variable {build : Build} {requests : List TargetRequest} {later : CountingRegistry}
  (drafted : Drafted (counting.opened build ⟨registry.nextGeneration⟩) ⟨registry.nextGeneration⟩
    requests later)

include drafted

private theorem heldOf_self :
    later.heldOf ⟨registry.nextGeneration⟩ = unready ⟨registry.nextGeneration⟩ 0 requests := by
  have before : counting.held.filter (·.generation = ⟨registry.nextGeneration⟩) = [] := by
    rw [List.filter_eq_nil_iff]
    intro target held
    simpa using tallies.fresh target held
  unfold heldOf
  rw [drafted.held, List.filter_append]
  refine (congrArg (· ++ _) before).trans ?_
  rw [List.nil_append, List.filter_eq_self]
  intro target listed
  simpa using (of_mem_unready listed).1

omit tallies in
private theorem heldOf_other {generation : GenerationId}
    (other : generation ≠ ⟨registry.nextGeneration⟩) :
    later.heldOf generation = counting.heldOf generation := by
  have here : (unready ⟨registry.nextGeneration⟩ 0 requests).filter
      (·.generation = generation) = [] := by
    rw [List.filter_eq_nil_iff]
    intro target listed
    rw [(of_mem_unready listed).1]
    simpa using other.symm
  unfold heldOf
  rw [drafted.held, List.filter_append, here, List.append_nil]
  rfl

omit tallies in
private theorem countdown_other {generation : GenerationId}
    (other : generation ≠ ⟨registry.nextGeneration⟩) :
    later.countdowns.get? generation = counting.countdowns.get? generation := by
  rw [drafted.others generation other]
  show (counting.countdowns.insert _ _).get? generation = _
  rw [Table.get?_insert, if_neg other]

/-- While a build is not over, it counts itself. -/
theorem drawn (inStep : registry.InStep) : Tallies later (registry.drawn build) where
  slots := by
    rw [drafted.registry]
    show counting.registry.drawn build = _
    rw [tallies.slots]
    rfl
  distinct := by
    rw [drafted.held]
    refine List.nodup_append.mpr ⟨tallies.distinct, unready_nodup _ _ _, ?_⟩
    intro target held other listed same
    rw [same] at held
    exact tallies.fresh other held (of_mem_unready listed).1
  counted := by
    intro generation countdown found
    by_cases here : generation = ⟨registry.nextGeneration⟩
    · subst here
      rw [drafted.own] at found
      rw [tallies.heldOf_self drafted, ← Option.some.inj found]
      exact ⟨Nat.lt_succ_self _, rfl⟩
    · rw [countdown_other drafted here] at found
      rw [heldOf_other drafted here]
      obtain ⟨given, counted⟩ := tallies.counted generation countdown found
      exact ⟨Nat.lt_succ_of_lt given, counted⟩
  owned := by
    intro target held
    by_cases here : target.generation = ⟨registry.nextGeneration⟩
    · rw [here, drafted.own]
      rfl
    · rw [countdown_other drafted here]
      rw [drafted.held, List.mem_append] at held
      exact tallies.owned target (held.resolve_right fun listed => here (of_mem_unready listed).1)
  waits := by
    intro warmup listed
    have given := inStep.drawn warmup listed
    have other : warmup.generation ≠ ⟨registry.nextGeneration⟩ := by
      intro same
      rw [same] at given
      exact Nat.lt_irrefl _ given
    rw [heldOf_other drafted other]
    exact tallies.waits warmup listed
  ended_iff := by
    intro generation
    by_cases here : generation = ⟨registry.nextGeneration⟩
    · subst here
      refine iff_of_false ?_ ?_
      · rintro ⟨countdown, found, ended⟩
        rw [drafted.own] at found
        rw [← Option.some.inj found] at ended
        exact Bool.false_ne_true ended
      · rintro ⟨warmup, listed, same⟩
        have given := inStep.drawn warmup listed
        rw [same] at given
        exact Nat.lt_irrefl _ given
    · rw [countdown_other drafted here]
      exact tallies.ended_iff generation
  warming := tallies.warming

end Drafted

/-- An accepted batch takes the warming slot when its build is over. -/
theorem warm {index : MatchIndex} {names : List String} {count : Nat}
    (found : counting.countdowns.get? index.generation =
      some ⟨index.generation, names, count + 1, false⟩) :
    Tallies { counting with
        registry := { counting.registry with warming := some index }
        countdowns := counting.countdowns.insert index.generation
          ⟨index.generation, names, count, true⟩ }
      (registry.warm index (counting.heldOf index.generation)) where
  slots := by
    rw [tallies.slots]
    rfl
  distinct := tallies.distinct
  counted := by
    intro generation countdown there
    rw [Table.get?_insert] at there
    split at there
    · rename_i here
      obtain ⟨given, counted⟩ := tallies.counted _ _ found
      rw [← Option.some.inj there, here]
      exact ⟨given, Nat.succ.inj counted⟩
    · exact tallies.counted generation countdown there
  owned := by
    intro target held
    rw [Table.get?_insert]
    split
    · rfl
    · exact tallies.owned target held
  waits := by
    intro warmup listed
    rcases List.mem_append.mp listed with earlier | last
    · exact tallies.waits warmup earlier
    · rw [List.mem_singleton.mp last]
      rfl
  ended_iff := by
    intro generation
    rw [Table.get?_insert]
    split
    · rename_i here
      refine iff_of_true ⟨_, rfl, rfl⟩ ⟨_, List.mem_append_right _ List.mem_cons_self, here.symm⟩
    · rename_i elsewhere
      rw [tallies.ended_iff generation]
      simp [Registry.warm, Ne.symm elsewhere]
  warming := by
    intro other waiting
    rw [← Option.some.inj waiting]
    exact ⟨_, List.mem_append_right _ List.mem_cons_self, rfl⟩

omit tallies in
/-- The count of a build that is accepted is that of the targets it waits for, and one for itself. -/
theorem accept_eq {index : MatchIndex} {names : List String} {count : Nat}
    (found : counting.countdowns.get? index.generation =
      some ⟨index.generation, names, count + 1, false⟩) :
    counting.accept index =
      let warming : CountingRegistry := { counting with
        registry := { counting.registry with warming := some index }
        countdowns := counting.countdowns.insert index.generation
          ⟨index.generation, names, count, true⟩ }
      if count = 0 then
        some ({ warming with registry := warming.registry.swap index },
          .activated (counting.registry.activationOf index))
      else some (warming, .warming index.generation count) := by
  have completed : { counting.registry with warming := some index }.completeWarmup index.generation =
      ({ counting.registry with warming := some index }.swap index,
        some (counting.registry.activationOf index)) := if_pos rfl
  have ended : Countdown.endBuild ⟨index.generation, names, count + 1, false⟩ =
      some (decide (count = 0), ⟨index.generation, names, count, true⟩) :=
    Countdown.release_succ index.generation names count true
  unfold accept
  rw [found]
  simp only [Option.bind_eq_bind, Option.bind_some, ended, completed]
  by_cases none : count = 0
  · simp [none]
  · simp [none, Countdown.pending]

omit tallies in
/-- The first calls of a build find a count of one. -/
theorem drafted_opened (build : Build) :
    Drafted (counting.opened build ⟨registry.nextGeneration⟩) ⟨registry.nextGeneration⟩ []
      (counting.opened build ⟨registry.nextGeneration⟩) where
  registry := rfl
  held := (List.append_nil _).symm
  own := by
    show (counting.countdowns.insert _ _).get? _ = _
    rw [Table.get?_insert, if_pos rfl]
    rfl
  others := fun _ _ => rfl

/-- An accepted batch is answered alike, whether what it waits for is counted or listed. -/
theorem accept (inStep : registry.InStep) {descriptors : List FilterChainDescriptor}
    {builder : ChainBuilder} {index : MatchIndex} {later : CountingRegistry}
    (accepted : (registry.buildOf descriptors builder).outcome = .ok index)
    (drafted : Drafted (counting.opened (registry.buildOf descriptors builder)
      ⟨registry.nextGeneration⟩) ⟨registry.nextGeneration⟩
      (registry.buildOf descriptors builder).state.targets later) :
    ∃ next answer, later.accept index = some (next, answer) ∧
      (registry.beginUpdate descriptors builder).2.outcome = .ok answer ∧
      Tallies next (registry.beginUpdate descriptors builder).1 := by
  have own := MatchIndex.generation_of_accepted accepted
  have found := drafted.own
  have handed := tallies.heldOf_self drafted
  rw [← own] at found handed
  have warm := (tallies.drawn drafted inStep).warm found
  have activation : later.registry.activationOf index = registry.activationOf index := by
    rw [drafted.registry, CountingRegistry.opened, tallies.slots]
    rfl
  rw [accept_eq found, activation]
  rw [handed] at warm
  rw [← Build.handedOut_eq_unready] at warm ⊢
  by_cases ready : (registry.buildOf descriptors builder).handedOut index.generation = []
  · obtain ⟨after, answer⟩ := Registry.beginUpdate_of_ready accepted ready
    rw [ready] at warm
    rw [after, ready]
    exact ⟨_, _, rfl, answer, warm.swap index⟩
  · obtain ⟨after, answer⟩ := Registry.beginUpdate_of_waiting accepted ready
    have some : ((registry.buildOf descriptors builder).handedOut index.generation).length ≠ 0 :=
      mt List.length_eq_zero_iff.mp ready
    simp only [some, if_false]
    rw [after]
    exact ⟨_, _, rfl, answer, warm⟩

/-- An update does the same in both and answers alike. -/
theorem beginUpdate (inStep : registry.InStep) {calls : Callers} (spells : calls.Spell)
    (descriptors : List FilterChainDescriptor) (builder : ChainBuilder) :
    ∃ next, counting.beginUpdate calls descriptors builder =
        some (next, (registry.beginUpdate descriptors builder).2) ∧
      Tallies next (registry.beginUpdate descriptors builder).1 := by
  have number : counting.registry.nextGeneration = registry.nextGeneration := by
    rw [tallies.slots]
  have sameBuild : counting.registry.buildOf descriptors builder =
      registry.buildOf descriptors builder := by
    rw [tallies.slots]
    rfl
  have report := registry.report_eq descriptors builder
  obtain ⟨later, called, drafted⟩ := (drafted_opened (registry.buildOf descriptors builder)).calls
    tallies.fresh (spells ⟨registry.nextGeneration⟩ _)
  have handed : later.heldOf ⟨registry.nextGeneration⟩ =
      (registry.buildOf descriptors builder).handedOut ⟨registry.nextGeneration⟩ := by
    rw [tallies.heldOf_self drafted, Build.handedOut_eq_unready]
  unfold CountingRegistry.beginUpdate
  simp only [number, sameBuild, called, handed, Option.bind_eq_bind, Option.bind_some]
  rw [report]
  cases outcome : (registry.buildOf descriptors builder).outcome with
  | error error =>
      obtain ⟨after, answer⟩ := Registry.beginUpdate_of_refused outcome
      rw [after, answer]
      exact ⟨later, rfl, tallies.drawn drafted inStep⟩
  | ok index =>
      obtain ⟨next, answer, accepts, answered, agree⟩ := tallies.accept inStep outcome drafted
      dsimp only
      rw [accepts, answered]
      exact ⟨next, rfl, agree⟩

/-! ### Dispatches -/

/-- A dispatch does the same in both. -/
theorem dispatchWarmed :
    Tallies counting.dispatchWarmed.1 registry.dispatchWarmed.1 ∧
      counting.dispatchWarmed.2 = registry.dispatchWarmed.2 := by
  have sameWarming : counting.registry.warming = registry.warming := by rw [tallies.slots]
  have sameWarmed : counting.registry.warmed = registry.warmed := by rw [tallies.slots]
  unfold CountingRegistry.dispatchWarmed
  by_cases queued : ∃ index, registry.warming = some index ∧ index.generation ∈ registry.warmed
  · obtain ⟨index, waiting, listed⟩ := queued
    have here : counting.registry.warming = some index := by rw [sameWarming, waiting]
    have activation : counting.registry.activationOf index = registry.activationOf index := by
      rw [tallies.slots]
      rfl
    rw [Registry.dispatchWarmed_of_mem waiting listed,
      Registry.dispatchWarmed_of_mem here (sameWarmed ▸ listed), activation]
    exact ⟨tallies.emptied.swap index, rfl⟩
  · have absent : ∀ index, registry.warming = some index →
        index.generation ∉ registry.warmed :=
      fun index waiting listed => queued ⟨index, waiting, listed⟩
    have here : ∀ index, counting.registry.warming = some index →
        index.generation ∉ counting.registry.warmed := by
      rw [sameWarming, sameWarmed]
      exact absent
    rw [Registry.dispatchWarmed_of_not_mem absent, Registry.dispatchWarmed_of_not_mem here]
    exact ⟨tallies.emptied, rfl⟩

theorem step (inStep : registry.InStep) {calls : Callers} (spells : calls.Spell)
    (event : Event) :
    ∃ next, counting.step calls event = some next ∧ Tallies next (registry.step event) := by
  unfold CountingRegistry.step
  cases event with
  | update descriptors builder =>
      obtain ⟨next, updated, agree⟩ := tallies.beginUpdate inStep spells descriptors builder
      dsimp only
      rw [updated]
      exact ⟨next, rfl, agree⟩
  | ready target => exact tallies.targetReady inStep target
  | dispatch => exact ⟨_, rfl, tallies.dispatchWarmed.1⟩

theorem run (inStep : registry.InStep) {calls : Callers} (spells : calls.Spell)
    (events : List Event) :
    ∃ final, counting.run calls events = some final ∧ Tallies final (registry.run events) := by
  induction events generalizing counting registry with
  | nil => exact ⟨counting, rfl, tallies⟩
  | cons event rest inductionHypothesis =>
      obtain ⟨next, stepped, agree⟩ := tallies.step inStep spells event
      obtain ⟨final, ran, agree⟩ := inductionHypothesis agree (inStep.step event)
      refine ⟨final, ?_, agree⟩
      unfold CountingRegistry.run
      rw [List.foldlM_cons, stepped]
      exact ran

/-! ### Counts -/

/-- The count of a warm-up is that of the targets it lists. -/
theorem pending_eq {warmup : Warmup} (listed : warmup ∈ registry.warmups) :
    ∃ countdown, counting.countdowns.get? warmup.generation = some countdown ∧
      countdown.ended = true ∧ countdown.pending = warmup.outstanding.length ∧
      (countdown.isReady = true ↔ warmup.outstanding = []) := by
  obtain ⟨countdown, found, ended⟩ :=
    (tallies.ended_iff warmup.generation).mpr ⟨warmup, listed, rfl⟩
  have counted := (tallies.counted _ _ found).2
  rw [Countdown.guard, if_pos ended, ← tallies.waits warmup listed] at counted
  refine ⟨countdown, found, ended, ?_, ?_⟩
  · rw [Countdown.pending, if_pos ended, counted]
    rfl
  · rw [Countdown.isReady, ended, Bool.true_and, decide_eq_true_eq, counted]
    exact List.length_eq_zero_iff

private theorem waiting_eq (inStep : registry.InStep) : counting.waiting = registry.waiting := by
  have sameWarming : counting.registry.warming = registry.warming := by rw [tallies.slots]
  unfold CountingRegistry.waiting Registry.waiting
  rw [sameWarming]
  cases warming : registry.warming with
  | none => rfl
  | some index =>
      obtain ⟨warmup, listed, own⟩ := tallies.warming index warming
      obtain ⟨countdown, found, _, pending, _⟩ := tallies.pending_eq listed
      have outstanding := inStep.outstanding_of_mem listed
      rw [own] at found outstanding
      simp [found, pending, outstanding]

end Tallies

end Tallies

/-- Whatever order builds ask for targets in, a registry that counts them can do every run of one that
lists them, and stands where that one does. A warm-up lists the targets that are still held, its count
is their number, it is ready when there is none, and the next update and the next dispatch answer
alike. -/
theorem counts_as_listed {calls : Callers} (spells : calls.Spell) (listener : String)
    (events : List Event) :
    ∃ counting, (new listener).run calls events = some counting ∧
      counting.registry = { Registry.ran listener events with warmups := [] } ∧
      counting.waiting = (Registry.ran listener events).waiting ∧
      (∀ warmup ∈ (Registry.ran listener events).warmups,
        warmup.outstanding = counting.heldOf warmup.generation ∧
        ∃ countdown, counting.countdowns.get? warmup.generation = some countdown ∧
          countdown.ended = true ∧ countdown.pending = warmup.outstanding.length ∧
          (countdown.isReady = true ↔ warmup.outstanding = [])) ∧
      (∀ descriptors builder,
        (·.2) <$> counting.beginUpdate calls descriptors builder =
          some ((Registry.ran listener events).beginUpdate descriptors builder).2) ∧
      counting.dispatchWarmed.2 = (Registry.ran listener events).dispatchWarmed.2 := by
  have inStep := Registry.inStep_ran listener events
  obtain ⟨counting, ran, tallies⟩ :=
    (tallies_new listener).run (Registry.inStep_new listener) spells events
  refine ⟨counting, ran, tallies.slots, tallies.waiting_eq inStep,
    fun warmup listed => ⟨tallies.waits warmup listed, tallies.pending_eq listed⟩, ?_,
    tallies.dispatchWarmed.2⟩
  intro descriptors builder
  obtain ⟨next, updated, _⟩ := tallies.beginUpdate inStep spells descriptors builder
  rw [updated]
  rfl

example : ((new "listener").run (fun _ => inTurn 0) Registry.slowStart).map (·.registry.warmed) =
    some [⟨1⟩] := by
  decide +kernel

end CountingRegistry

end Admission.Chain
