import Admission.Proofs.Chain.Relabelling
import Admission.Proofs.Chain.Stale

/-!
Contract: a registry does the same under other numbers of generations and chains.

Numbers are drawn one after the other, and an update that leaves nothing else behind moves all later
ones up. Nothing but their order and the drawing itself looks at numbers.

Owns:
- `Shift` and `Renumbering`, and what they make of everything that carries a number;
- `Event.withdraw`, an event as it is under the numbers before the renumbering;
- `step_renumber`, by which an event does the same under other numbers, and `Registry.Mirrors`, two
  registries that do the same throughout a run.
-/

namespace Admission.Chain

/-- Numbers from `first` on move up by `count`. -/
structure Shift where
  first : Nat
  count : Nat
  deriving DecidableEq, Repr

namespace Shift

variable (shift : Shift)

def apply (number : Nat) : Nat :=
  if number < shift.first then number else number + shift.count

/-- The number that comes to stand at a place; none in the gap. -/
def back? (number : Nat) : Option Nat :=
  if number < shift.first then some number
  else if number < shift.first + shift.count then none
  else some (number - shift.count)

theorem apply_of_lt {number : Nat} (below : number < shift.first) : shift.apply number = number :=
  if_pos below

theorem apply_of_le {number : Nat} (reached : shift.first ≤ number) :
    shift.apply number = number + shift.count :=
  if_neg (Nat.not_lt.mpr reached)

private theorem apply_add {number : Nat} (reached : shift.first ≤ number) (more : Nat) :
    shift.apply (number + more) = shift.apply number + more := by
  rw [shift.apply_of_le reached, shift.apply_of_le (Nat.le_add_right_of_le reached)]
  omega

private theorem apply_lt_iff {left right : Nat} :
    shift.apply left < shift.apply right ↔ left < right := by
  unfold apply
  split
  · split
    · rfl
    · omega
  · split
    · omega
    · omega

private theorem apply_injective : Function.Injective shift.apply := by
  intro left right same
  have notLess : ¬ left < right := by
    rw [← shift.apply_lt_iff, same]
    exact Nat.lt_irrefl _
  have notGreater : ¬ right < left := by
    rw [← shift.apply_lt_iff, same]
    exact Nat.lt_irrefl _
  omega

private theorem back?_apply (number : Nat) : shift.back? (shift.apply number) = some number := by
  unfold back?
  by_cases below : number < shift.first
  · rw [shift.apply_of_lt below, if_pos below]
  · rw [shift.apply_of_le (Nat.not_lt.mp below), if_neg (by omega), if_neg (by omega),
      Nat.add_sub_cancel]

private theorem apply_of_back? {number before : Nat} (known : shift.back? number = some before) :
    shift.apply before = number := by
  unfold back? at known
  unfold apply
  split at known
  · rename_i below
    rw [← Option.some.inj known, if_pos below]
  · split at known
    · exact absurd known (by simp)
    · rw [← Option.some.inj known, if_neg (by omega)]
      omega

/-- Nothing comes to stand in the gap. -/
theorem apply_ne_of_back? {number : Nat} (gap : shift.back? number = none) (before : Nat) :
    shift.apply before ≠ number := by
  intro same
  rw [← same, back?_apply] at gap
  exact absurd gap (by simp)

end Shift

/-- Other numbers for generations and for chains. -/
structure Renumbering where
  generations : Shift
  chains : Shift
  deriving DecidableEq, Repr

/-! ## What carries a number -/

section Renumber

variable (moves : Renumbering)

def GenerationId.renumber (id : GenerationId) : GenerationId := ⟨moves.generations.apply id.value⟩

def FilterChainId.renumber (id : FilterChainId) : FilterChainId := ⟨moves.chains.apply id.value⟩

def FilterChainId.back? (id : FilterChainId) : Option FilterChainId :=
  (moves.chains.back? id.value).map FilterChainId.mk

def FilterChain.renumber (chain : FilterChain) : FilterChain :=
  { chain with id := chain.id.renumber moves }

def InitTarget.renumber (target : InitTarget) : InitTarget :=
  { target with generation := target.generation.renumber moves }

def InitTarget.back? (target : InitTarget) : Option InitTarget :=
  (moves.generations.back? target.generation.value).map fun number =>
    { target with generation := ⟨number⟩ }

def Warmup.renumber (warmup : Warmup) : Warmup :=
  ⟨warmup.generation.renumber moves, warmup.outstanding.map (InitTarget.renumber moves)⟩

def Activation.renumber (activation : Activation) : Activation where
  generation := activation.generation.renumber moves
  previous := activation.previous.map (GenerationId.renumber moves)
  removed := activation.removed.map (FilterChainId.renumber moves)

def MatchIndex.renumber (index : MatchIndex) : MatchIndex :=
  { index.relabel (FilterChain.renumber moves) with
    generation := index.generation.renumber moves }

def LookupMatch.renumber (found : LookupMatch) : LookupMatch :=
  ⟨found.chain.renumber moves, found.index.renumber moves⟩

def BuildState.renumber (state : BuildState) : BuildState :=
  { state with
    layout := Layout.relabel (FilterChain.renumber moves) state.layout
    chains := state.chains.map (Prod.map id (FilterChain.renumber moves))
    nextChain := moves.chains.apply state.nextChain }

def Build.renumber (build : Build) : Build :=
  ⟨build.state.renumber moves, build.outcome.map (MatchIndex.renumber moves)⟩

def Registry.renumber (registry : Registry) : Registry :=
  { registry with
    active := registry.active.map (MatchIndex.renumber moves)
    warming := registry.warming.map (MatchIndex.renumber moves)
    warmups := registry.warmups.map (Warmup.renumber moves)
    warmed := registry.warmed.map (GenerationId.renumber moves)
    nextGeneration := moves.generations.apply registry.nextGeneration
    nextChain := moves.chains.apply registry.nextChain }

/-- An event under the numbers before. A target of a generation that was none then goes. -/
def Event.withdraw : Event → Option Event
  | .update descriptors builder => some (.update descriptors builder)
  | .ready target => (target.back? moves).map .ready
  | .dispatch => some .dispatch

theorem Event.filterMap_withdraw_cons (event : Event) (rest : List Event) :
    (event :: rest).filterMap (Event.withdraw moves) =
      (event.withdraw moves).toList ++ rest.filterMap (Event.withdraw moves) := by
  rw [List.filterMap_eq_flatMap_toList, List.filterMap_eq_flatMap_toList, List.flatMap_cons]

variable {moves}

private theorem GenerationId.renumber_injective :
    Function.Injective (GenerationId.renumber moves) := by
  intro left right same
  have value := moves.generations.apply_injective (congrArg GenerationId.value same)
  cases left
  cases right
  exact congrArg GenerationId.mk value

theorem FilterChainId.back?_renumber (id : FilterChainId) :
    (id.renumber moves).back? moves = some id := by
  unfold back? renumber
  dsimp only
  rw [moves.chains.back?_apply]
  rfl

theorem FilterChainId.renumber_injective :
    Function.Injective (FilterChainId.renumber moves) := by
  intro left right same
  have back := congrArg (FilterChainId.back? moves) same
  rw [back?_renumber, back?_renumber] at back
  exact Option.some.inj back

theorem FilterChainId.renumber_of_back? {id before : FilterChainId}
    (known : id.back? moves = some before) : before.renumber moves = id := by
  obtain ⟨number, found, rfl⟩ := Option.map_eq_some_iff.mp known
  exact congrArg FilterChainId.mk (moves.chains.apply_of_back? found)

theorem FilterChainId.renumber_ne_of_back? {id : FilterChainId} (gap : id.back? moves = none)
    (before : FilterChainId) : before.renumber moves ≠ id := by
  intro same
  apply moves.chains.apply_ne_of_back? (Option.map_eq_none_iff.mp gap) before.value
  exact congrArg FilterChainId.value same

private theorem InitTarget.back?_renumber (target : InitTarget) :
    (target.renumber moves).back? moves = some target := by
  unfold back? renumber GenerationId.renumber
  dsimp only
  rw [moves.generations.back?_apply]
  rfl

private theorem InitTarget.renumber_injective : Function.Injective (InitTarget.renumber moves) := by
  intro left right same
  have back := congrArg (InitTarget.back? moves) same
  rw [back?_renumber, back?_renumber] at back
  exact Option.some.inj back

private theorem InitTarget.renumber_of_back? {target before : InitTarget}
    (known : target.back? moves = some before) : before.renumber moves = target := by
  obtain ⟨number, found, rfl⟩ := Option.map_eq_some_iff.mp known
  unfold InitTarget.renumber GenerationId.renumber
  dsimp only
  rw [moves.generations.apply_of_back? found]

private theorem InitTarget.renumber_ne_of_back? {target : InitTarget}
    (gap : target.back? moves = none) (before : InitTarget) : before.renumber moves ≠ target := by
  intro same
  apply moves.generations.apply_ne_of_back? (Option.map_eq_none_iff.mp gap) before.generation.value
  exact congrArg (·.generation.value) same

end Renumber

/-- Values are picked before or after they are changed, if the picking agrees. -/
theorem filter_map_of_agree {α β : Type} {change : α → β} {after : β → Bool} {before : α → Bool}
    (agrees : ∀ value, after (change value) = before value) (values : List α) :
    (values.map change).filter after = (values.filter before).map change := by
  rw [List.filter_map]
  congr 1
  exact List.filter_congr fun value _ => agrees value

variable {moves : Renumbering}

/-! ## Builds -/

namespace MatchIndex

private theorem chainIds_renumber (index : MatchIndex) :
    (index.renumber moves).chainIds = index.chainIds.map (FilterChainId.renumber moves) := by
  unfold chainIds renumber relabel
  dsimp only
  rw [List.map_map, List.map_map]
  rfl

private theorem chainOf?_renumber (index : MatchIndex) (key : ReuseKey) :
    (index.renumber moves).chainOf? key = (index.chainOf? key).map (FilterChain.renumber moves) := by
  unfold chainOf? renumber relabel
  dsimp only
  rw [List.find?_map, Option.map_map, Option.map_map]
  rfl

theorem find_renumber (index : MatchIndex) (socket : Listener.Socket) :
    (index.renumber moves).find socket =
      (index.find socket).relabel (FilterChain.renumber moves) :=
  find_relabel (FilterChain.renumber moves) index socket

end MatchIndex

namespace BuildState

private theorem place_renumber (state : BuildState) (key : ReuseKey) (criteria : NormalCriteria)
    (chain : FilterChain) :
    (state.renumber moves).place key criteria (chain.renumber moves) =
      ((state.place key criteria chain).1.renumber moves, (state.place key criteria chain).2) := by
  have layout : (state.renumber moves).layout =
      Layout.relabel (FilterChain.renumber moves) state.layout := rfl
  unfold place
  rw [layout, Layout.insertAll_relabel]
  cases state.layout.insertAll chain criteria.slotKeys with
  | none => rfl
  | some layout =>
      unfold renumber
      dsimp only [Option.map_some]
      rw [List.map_append]
      rfl

private theorem add_renumber (builder : ChainBuilder) (previous : Option MatchIndex)
    {state : BuildState} (reached : moves.chains.first ≤ state.nextChain)
    (descriptor : FilterChainDescriptor) :
    (state.renumber moves).add builder (previous.map (MatchIndex.renumber moves)) descriptor =
      ((state.add builder previous descriptor).1.renumber moves,
        (state.add builder previous descriptor).2) := by
  have taken : (state.renumber moves).chains.any (·.1.criteria = descriptor.reuseKey.criteria) =
      state.chains.any (·.1.criteria = descriptor.reuseKey.criteria) := by
    unfold renumber
    dsimp only
    rw [List.any_map]
    rfl
  have kept : (previous.map (MatchIndex.renumber moves)).bind (·.chainOf? descriptor.reuseKey) =
      (previous.bind (·.chainOf? descriptor.reuseKey)).map (FilterChain.renumber moves) := by
    cases previous with
    | none => rfl
    | some index => exact index.chainOf?_renumber descriptor.reuseKey
  unfold add
  dsimp only
  rw [taken, kept]
  split
  · rfl
  · cases descriptor.criteria.normalize with
    | error error => rfl
    | ok criteria =>
        dsimp only
        cases previous.bind (·.chainOf? descriptor.reuseKey) with
        | some chain =>
            exact place_renumber { state with reused := state.reused + 1 } _ criteria chain
        | none =>
            dsimp only [Option.map_none]
            cases (builder descriptor).result with
            | refused error drawn =>
                dsimp only
                unfold renumber
                dsimp only
                rw [moves.chains.apply_add reached]
            | built blueprint =>
                have next := moves.chains.apply_add reached 1
                have placed := @place_renumber moves { state with
                  targets := state.targets ++ (builder descriptor).targets
                  nextChain := state.nextChain + 1
                  built := state.built + 1 } descriptor.reuseKey criteria
                  { blueprint with id := ⟨state.nextChain⟩ }
                have same : ({ state with
                    targets := state.targets ++ (builder descriptor).targets
                    nextChain := state.nextChain + 1
                    built := state.built + 1 } : BuildState).renumber moves =
                  { state.renumber moves with
                    targets := state.targets ++ (builder descriptor).targets
                    nextChain := (state.renumber moves).nextChain + 1
                    built := state.built + 1 } := by
                  unfold renumber
                  dsimp only
                  rw [next]
                rw [same] at placed
                exact placed

private theorem addAll_renumber (builder : ChainBuilder) (previous : Option MatchIndex)
    {state : BuildState} (reached : moves.chains.first ≤ state.nextChain)
    (descriptors : List FilterChainDescriptor) :
    (state.renumber moves).addAll builder (previous.map (MatchIndex.renumber moves)) descriptors =
      ((state.addAll builder previous descriptors).1.renumber moves,
        (state.addAll builder previous descriptors).2) := by
  induction descriptors generalizing state with
  | nil => rfl
  | cons descriptor rest inductionHypothesis =>
      have still := reached.trans (add_nextChain_le builder previous state descriptor)
      unfold addAll
      rw [add_renumber builder previous reached]
      generalize state.add builder previous descriptor = added at still
      obtain ⟨after, fault⟩ := added
      cases fault with
      | some error => rfl
      | none => exact inductionHypothesis still

end BuildState

private theorem MatchIndex.build_renumber (generation : GenerationId) (listener : String)
    (descriptors : List FilterChainDescriptor) (builder : ChainBuilder)
    (previous : Option MatchIndex) {next : Nat} (reached : moves.chains.first ≤ next) :
    build (generation.renumber moves) listener descriptors builder
        (previous.map (MatchIndex.renumber moves)) (moves.chains.apply next) =
      (build generation listener descriptors builder previous next).renumber moves := by
  have start : BuildState.start (moves.chains.apply next) =
      (BuildState.start next).renumber moves := rfl
  unfold build
  rw [start, BuildState.addAll_renumber builder previous reached]
  generalize (BuildState.start next).addAll builder previous descriptors = added
  obtain ⟨state, fault⟩ := added
  cases fault with
  | some error => rfl
  | none =>
      have layout : (state.renumber moves).layout =
          Layout.relabel (FilterChain.renumber moves) state.layout := rfl
      dsimp only
      rw [layout, Layout.compile_relabel]
      cases state.layout.compile with
      | error cause => rfl
      | ok destinations => rfl

private theorem Build.handedOut_renumber (build : Build) (generation : GenerationId) :
    (build.renumber moves).handedOut (generation.renumber moves) =
      (build.handedOut generation).map (InitTarget.renumber moves) := by
  have numbered : Registry.numberTargets (generation.renumber moves) build.state.targets =
      (Registry.numberTargets generation build.state.targets).map
        (Prod.map id (InitTarget.renumber moves)) := by
    unfold Registry.numberTargets
    rw [List.map_map]
    rfl
  have targets : (build.renumber moves).state.targets = build.state.targets := rfl
  unfold handedOut
  rw [targets, numbered, List.filter_map, List.map_map, List.map_map]
  rfl

/-! ## Registries -/

namespace Registry

/-- All numbers that are drawn from now on move up. -/
structure Reached (moves : Renumbering) (registry : Registry) : Prop where
  generations : moves.generations.first ≤ registry.nextGeneration
  chains : moves.chains.first ≤ registry.nextChain

variable {registry : Registry}

theorem buildOf_renumber (reached : registry.Reached moves)
    (descriptors : List FilterChainDescriptor) (builder : ChainBuilder) :
    (registry.renumber moves).buildOf descriptors builder =
      (registry.buildOf descriptors builder).renumber moves :=
  MatchIndex.build_renumber ⟨registry.nextGeneration⟩ registry.listener descriptors builder
    registry.active reached.chains

private theorem insertId_renumber (id : FilterChainId) (ids : List FilterChainId) :
    insertId (id.renumber moves) (ids.map (FilterChainId.renumber moves)) =
      (insertId id ids).map (FilterChainId.renumber moves) := by
  induction ids with
  | nil => rfl
  | cons other rest inductionHypothesis =>
      have order : (id.renumber moves).value < (other.renumber moves).value ↔
          id.value < other.value := moves.chains.apply_lt_iff
      rw [List.map_cons]
      unfold insertId
      simp only [FilterChainId.renumber_injective.eq_iff, order, inductionHypothesis]
      split
      · rfl
      · split
        · rfl
        · rfl

private theorem retire_renumber (registry : Registry) (old : MatchIndex) :
    (registry.renumber moves).retire (old.renumber moves) =
      (registry.retire old).map (FilterChainId.renumber moves) := by
  have current : (((registry.renumber moves).active.map MatchIndex.chainIds).getD []) =
      ((registry.active.map MatchIndex.chainIds).getD []).map (FilterChainId.renumber moves) := by
    unfold renumber
    dsimp only
    cases registry.active with
    | none => rfl
    | some index => exact index.chainIds_renumber
  have inserted : ∀ ids sorted : List FilterChainId,
      (ids.map (FilterChainId.renumber moves)).foldl (fun ids id => insertId id ids)
          (sorted.map (FilterChainId.renumber moves)) =
        (ids.foldl (fun ids id => insertId id ids) sorted).map (FilterChainId.renumber moves) := by
    intro ids
    induction ids with
    | nil =>
        intro sorted
        rfl
    | cons id rest inductionHypothesis =>
        intro sorted
        rw [List.map_cons, List.foldl_cons, List.foldl_cons, insertId_renumber,
          inductionHypothesis]
  have lost : ∀ ids current : List FilterChainId,
      (ids.map (FilterChainId.renumber moves)).filter
          (· ∉ current.map (FilterChainId.renumber moves)) =
        (ids.filter (· ∉ current)).map (FilterChainId.renumber moves) := by
    intro ids current
    apply filter_map_of_agree
    intro id
    simp only [List.mem_map_of_injective FilterChainId.renumber_injective]
  unfold retire
  dsimp only
  rw [current, old.chainIds_renumber, lost]
  exact inserted _ []

private theorem activationOf_renumber (registry : Registry) (index : MatchIndex) :
    (registry.renumber moves).activationOf (index.renumber moves) =
      (registry.activationOf index).renumber moves := by
  have swapped : (registry.renumber moves).swap (index.renumber moves) =
      (registry.swap index).renumber moves := rfl
  unfold activationOf
  rw [swapped]
  unfold Activation.renumber
  cases before : registry.active with
  | none =>
      have active : (registry.renumber moves).active = none := by
        unfold renumber
        rw [before]
        rfl
      rw [active]
      rfl
  | some old =>
      have active : (registry.renumber moves).active = some (old.renumber moves) := by
        unfold renumber
        rw [before]
        rfl
      rw [active]
      dsimp only [Option.map_some, Option.getD_some]
      rw [retire_renumber]
      rfl

private theorem settle_renumber (reached : registry.Reached moves) (build : Build) :
    (registry.renumber moves).settle (build.renumber moves) =
      ((registry.settle build).1.renumber moves,
        (registry.settle build).2.map (Activation.renumber moves)) := by
  have next := moves.generations.apply_add reached.generations 1
  have drawn : (registry.renumber moves).drawn (build.renumber moves) =
      (registry.drawn build).renumber moves := by
    unfold Registry.drawn renumber
    dsimp only
    rw [next]
    rfl
  have outcome : (build.renumber moves).outcome = build.outcome.map (MatchIndex.renumber moves) :=
    rfl
  have warm : ∀ (index : MatchIndex) (targets : List InitTarget),
      ((registry.drawn build).renumber moves).warm (index.renumber moves)
          (targets.map (InitTarget.renumber moves)) =
        ((registry.drawn build).warm index targets).renumber moves := by
    intro index targets
    unfold Registry.warm renumber
    dsimp only
    rw [List.map_append]
    rfl
  unfold settle
  rw [drawn, outcome]
  cases build.outcome with
  | error error => rfl
  | ok index =>
      have generation : (index.renumber moves).generation = index.generation.renumber moves := rfl
      dsimp only [Except.map]
      rw [generation, build.handedOut_renumber, activationOf_renumber, warm]
      by_cases ready : build.handedOut index.generation = []
      · have nothing := warm index []
        rw [if_pos ready, ready, if_pos List.map_nil]
        rw [List.map_nil] at nothing
        rw [nothing]
        rfl
      · have something : (build.handedOut index.generation).map (InitTarget.renumber moves) ≠ [] :=
          fun none => ready (List.map_eq_nil_iff.mp none)
        rw [if_neg ready, if_neg something]
        rfl

private theorem outstanding_renumber (outstanding : List InitTarget) (target : InitTarget) :
    (outstanding.map (InitTarget.renumber moves)).filter (· ≠ target.renumber moves) =
      (outstanding.filter (· ≠ target)).map (InitTarget.renumber moves) := by
  apply filter_map_of_agree
  intro other
  simp only [ne_eq, InitTarget.renumber_injective.eq_iff]

private theorem finishedBy_renumber (registry : Registry) (target : InitTarget) :
    (registry.renumber moves).finishedBy (target.renumber moves) =
      (registry.finishedBy target).map (GenerationId.renumber moves) := by
  unfold finishedBy renumber
  dsimp only
  rw [filter_map_of_agree, List.map_map, List.map_map]
  · rfl
  · intro warmup
    apply decide_eq_decide.mpr
    unfold Warmup.renumber
    rw [outstanding_renumber, List.map_eq_nil_iff,
      List.mem_map_of_injective InitTarget.renumber_injective]

private theorem targetReady_renumber (registry : Registry) (target : InitTarget) :
    (registry.renumber moves).targetReady (target.renumber moves) =
      (registry.targetReady target).renumber moves := by
  have parts : ∀ (registry : Registry) (target : InitTarget), registry.targetReady target =
      { registry with
        warmups := registry.warmups.map fun warmup =>
          ⟨warmup.generation, warmup.outstanding.filter (· ≠ target)⟩
        warmed := registry.warmed ++ registry.finishedBy target } := fun _ _ => rfl
  rw [parts, parts, finishedBy_renumber]
  unfold renumber
  dsimp only
  rw [List.map_append, List.map_map, List.map_map]
  congr 1
  apply List.map_congr_left
  intro warmup _
  exact congrArg (Warmup.mk (warmup.generation.renumber moves))
    (outstanding_renumber warmup.outstanding target)

/-- A target of a generation in the gap is unknown. -/
theorem targetReady_of_back? (registry : Registry) {target : InitTarget}
    (gap : target.back? moves = none) :
    (registry.renumber moves).targetReady target = registry.renumber moves := by
  apply targetReady_of_not_outstanding
  intro warmup listed held
  obtain ⟨before, _, rfl⟩ := List.mem_map.mp listed
  obtain ⟨other, _, same⟩ := List.mem_map.mp held
  exact InitTarget.renumber_ne_of_back? gap other same

private theorem dispatch_renumber (registry : Registry) :
    (registry.renumber moves).step .dispatch = (registry.step .dispatch).renumber moves ∧
      (registry.renumber moves).activations .dispatch =
        (registry.activations .dispatch).map (Activation.renumber moves) := by
  have queued_iff : ∀ generation : GenerationId,
      generation.renumber moves ∈ (registry.renumber moves).warmed ↔
        generation ∈ registry.warmed := by
    intro generation
    exact List.mem_map_of_injective GenerationId.renumber_injective
  unfold step activations
  dsimp only
  by_cases queued : ∃ index, registry.warming = some index ∧ index.generation ∈ registry.warmed
  · obtain ⟨index, waiting, listed⟩ := queued
    have renumbered : (registry.renumber moves).warming = some (index.renumber moves) :=
      congrArg (Option.map (MatchIndex.renumber moves)) waiting
    rw [dispatchWarmed_of_mem waiting listed,
      dispatchWarmed_of_mem renumbered ((queued_iff index.generation).mpr listed)]
    exact ⟨rfl, congrArg (fun activation => [activation]) (registry.activationOf_renumber index)⟩
  · have absent : ∀ index, registry.warming = some index → index.generation ∉ registry.warmed :=
      fun index waiting listed => queued ⟨index, waiting, listed⟩
    have renumbered : ∀ index, (registry.renumber moves).warming = some index →
        index.generation ∉ (registry.renumber moves).warmed := by
      intro index waiting
      obtain ⟨before, here, rfl⟩ := Option.map_eq_some_iff.mp waiting
      intro listed
      exact absent before here ((queued_iff before.generation).mp listed)
    rw [dispatchWarmed_of_not_mem absent, dispatchWarmed_of_not_mem renumbered]
    exact ⟨rfl, rfl⟩

/-! ## Runs -/

theorem settle_counters (registry : Registry) (build : Build) :
    (registry.settle build).1.nextGeneration = registry.nextGeneration + 1 ∧
      (registry.settle build).1.nextChain = build.state.nextChain := by
  unfold settle
  cases build.outcome with
  | error error => exact ⟨rfl, rfl⟩
  | ok index =>
      dsimp only
      split
      · exact ⟨rfl, rfl⟩
      · exact ⟨rfl, rfl⟩

theorem nextChain_le_step (registry : Registry) (event : Event) :
    registry.nextChain ≤ (registry.step event).nextChain := by
  cases event with
  | update descriptors builder =>
      rw [step_update, (registry.settle_counters _).2]
      exact registry.nextChain_le_drawn descriptors builder
  | ready target => exact Nat.le_refl _
  | dispatch =>
      unfold step dispatchWarmed
      rcases deliver_cases { registry with warmed := [] } registry.warmed with
        ⟨index, _, delivered⟩ | delivered
      · rw [delivered]
        exact Nat.le_refl _
      · rw [delivered]

theorem Reached.step (reached : registry.Reached moves) (event : Event) :
    (registry.step event).Reached moves where
  generations := reached.generations.trans (registry.nextGeneration_le_step event)
  chains := reached.chains.trans (registry.nextChain_le_step event)

theorem Reached.run (reached : registry.Reached moves) (events : List Event) :
    (registry.run events).Reached moves := by
  induction events generalizing registry with
  | nil => exact reached
  | cons event rest inductionHypothesis => exact inductionHypothesis (reached.step event)

/-- Under other numbers, a registry goes on as it would under its own. -/
theorem step_renumber (reached : registry.Reached moves) (event : Event) :
    (registry.renumber moves).step event =
        (registry.run (event.withdraw moves).toList).renumber moves ∧
      (registry.renumber moves).activations event =
        (registry.activated (event.withdraw moves).toList).map (Activation.renumber moves) := by
  cases event with
  | update descriptors builder =>
      have settled := @update_eq_settle (registry.renumber moves) descriptors builder
      rw [buildOf_renumber reached, settle_renumber reached, ← update_eq_settle] at settled
      have alone := registry.activated_singleton (.update descriptors builder)
      rw [← alone] at settled
      exact Prod.mk.inj settled
  | ready target =>
      cases known : target.back? moves with
      | none =>
          have withdrawn : Event.withdraw moves (.ready target) = none := by
            unfold Event.withdraw
            dsimp only
            rw [known]
            rfl
          rw [withdrawn]
          exact ⟨registry.targetReady_of_back? known, rfl⟩
      | some before =>
          have withdrawn : Event.withdraw moves (.ready target) = some (.ready before) := by
            unfold Event.withdraw
            dsimp only
            rw [known]
            rfl
          rw [withdrawn, ← InitTarget.renumber_of_back? known]
          exact ⟨registry.targetReady_renumber before, rfl⟩
  | dispatch =>
      have dispatched := @dispatch_renumber moves registry
      rw [← registry.activated_singleton] at dispatched
      exact dispatched

theorem run_renumber (reached : registry.Reached moves) (events : List Event) :
    (registry.renumber moves).run events =
      (registry.run (events.filterMap (Event.withdraw moves))).renumber moves := by
  induction events generalizing registry with
  | nil => rfl
  | cons event rest inductionHypothesis =>
      have after : (registry.renumber moves).run (event :: rest) =
          ((registry.renumber moves).step event).run rest := rfl
      rw [after, (step_renumber reached event).1, inductionHypothesis (reached.run _),
        Event.filterMap_withdraw_cons, run_append]

/-- Throughout a run, two registries activate the same, up to numbering: the first in the run itself,
the second in what the run is under the numbers before. -/
def Mirrors (moves : Renumbering) (left right : Registry) : List Event → Prop
  | [] => left.active = right.active.map (MatchIndex.renumber moves)
  | event :: rest =>
      left.active = right.active.map (MatchIndex.renumber moves) ∧
      left.activations event =
        (right.activated (event.withdraw moves).toList).map (Activation.renumber moves) ∧
      Mirrors moves (left.step event) (right.run (event.withdraw moves).toList) rest

theorem Mirrors.active {left right : Registry} {events : List Event}
    (mirrors : left.Mirrors moves right events) :
    left.active = right.active.map (MatchIndex.renumber moves) := by
  cases events with
  | nil => exact mirrors
  | cons event rest => exact mirrors.1

theorem mirrors_renumber (reached : registry.Reached moves) (events : List Event) :
    (registry.renumber moves).Mirrors moves registry events := by
  induction events generalizing registry with
  | nil => rfl
  | cons event rest inductionHypothesis =>
      obtain ⟨after, activates⟩ := step_renumber reached event
      refine ⟨rfl, activates, ?_⟩
      rw [after]
      exact inductionHypothesis (reached.run _)

/-- Registries that mirror each other throughout a run do so in its beginning and then in the rest. -/
theorem Mirrors.split {left right : Registry} {events more : List Event}
    (mirrors : left.Mirrors moves right (events ++ more)) :
    left.Mirrors moves right events ∧
      (left.run events).Mirrors moves (right.run (events.filterMap (Event.withdraw moves))) more := by
  induction events generalizing left right with
  | nil => exact ⟨mirrors.active, mirrors⟩
  | cons event rest inductionHypothesis =>
      obtain ⟨active, activates, others⟩ := mirrors
      obtain ⟨first, later⟩ := inductionHypothesis others
      rw [Event.filterMap_withdraw_cons, run_append]
      exact ⟨⟨active, activates, first⟩, later⟩

theorem Mirrors.activated {left right : Registry} {events : List Event}
    (mirrors : left.Mirrors moves right events) :
    left.activated events =
      (right.activated (events.filterMap (Event.withdraw moves))).map
        (Activation.renumber moves) := by
  induction events generalizing left right with
  | nil => rfl
  | cons event rest inductionHypothesis =>
      obtain ⟨_, activates, later⟩ := mirrors
      have here : left.activated (event :: rest) =
          left.activations event ++ (left.step event).activated rest := rfl
      rw [here, activates, inductionHypothesis later, Event.filterMap_withdraw_cons,
        activated_append, List.map_append]

end Registry

end Admission.Chain
