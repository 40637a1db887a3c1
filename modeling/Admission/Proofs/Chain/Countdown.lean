import Admission.Proofs.Chain.Warmup

/-!
Contract: a registry may count its warm-ups down where it lists what they wait for.

The targets of a generation share a count with its build: one for each target that is not ready, and
one for the build until it is over, so that targets which are ready early do not end the warm-up. Who
takes the last one away tells the registry. The build of a refused batch never gives back its own, so
nobody ever tells of that generation.

Owns:
- `Countdown`, the count of a generation, with `addTarget`, `release`, `endBuild` and `pending`;
- `TargetCall`, what a build does with targets, `Callers`, in which order, and `CountingRegistry`, a
  registry that counts;
- `Drafted`, what the calls of a build leave.

Does not own: the agreement with a registry that lists.
-/

namespace Admission.Chain

/-! ## Counts -/

structure Countdown where
  generation : GenerationId
  /-- The names of the targets, in the order of registration. -/
  names : List String
  /-- How many targets are not ready, and one more until the build is over. -/
  count : Nat
  /-- The build is over. -/
  ended : Bool
  deriving DecidableEq, Repr

namespace Countdown

def new (generation : GenerationId) : Countdown := ⟨generation, [], 1, false⟩

def addTarget (countdown : Countdown) (name : String) : InitTarget × Countdown :=
  (⟨countdown.generation, countdown.names.length, name⟩,
    { countdown with names := countdown.names ++ [name], count := countdown.count + 1 })

/-- Takes one away and says whether it was the last. Fails if there is none to take. -/
def release (countdown : Countdown) : Option (Bool × Countdown) :=
  if countdown.count = 0 then none
  else some (decide (countdown.count = 1), { countdown with count := countdown.count - 1 })

def isReady (countdown : Countdown) : Bool :=
  countdown.ended && decide (countdown.count = 0)

/-- Ends the build and says whether every target is ready. -/
def endBuild (countdown : Countdown) : Option (Bool × Countdown) :=
  if countdown.ended then some (countdown.isReady, countdown)
  else { countdown with ended := true }.release

/-- How many targets are not ready. -/
def pending (countdown : Countdown) : Nat :=
  if countdown.ended then countdown.count else countdown.count - 1

/-- What the build holds of the count. -/
def guard (countdown : Countdown) : Nat := if countdown.ended then 0 else 1

theorem release_succ (generation : GenerationId) (names : List String) (count : Nat)
    (ended : Bool) : release ⟨generation, names, count + 1, ended⟩ =
      some (decide (count = 0), ⟨generation, names, count, ended⟩) := by
  simp [release]

end Countdown

/-! ## A registry that counts -/

/-- What a build does with targets. -/
inductive TargetCall where
  | register (name : String)
  /-- The target of this number becomes ready. -/
  | ready (number : Nat)
  deriving DecidableEq, Repr

/-- What a build has asked for after a call. A target can become ready once. -/
def TargetCall.enter (requests : List TargetRequest) : TargetCall → Option (List TargetRequest)
  | register name => some (requests ++ [⟨name, false⟩])
  | ready number =>
      match requests[number]? with
      | some ⟨name, false⟩ => some (requests.set number ⟨name, true⟩)
      | _ => none

/-- The calls by which the builds of generations ask for targets, each in an order of its own. -/
abbrev Callers := GenerationId → List TargetRequest → List TargetCall

/-- The calls come to what was asked for. -/
def Callers.Spell (calls : Callers) : Prop :=
  ∀ generation requests, (calls generation requests).foldlM TargetCall.enter [] = some requests

/-- The calls of a build that readies what is ready as soon as it has registered it. The numbers
start at `number`. -/
def inTurn : (number : Nat) → List TargetRequest → List TargetCall
  | _, [] => []
  | number, request :: rest =>
      .register request.name :: (if request.ready then [.ready number] else []) ++
        inTurn (number + 1) rest

private theorem foldlM_inTurn (earlier requests : List TargetRequest) :
    (inTurn earlier.length requests).foldlM TargetCall.enter earlier =
      some (earlier ++ requests) := by
  induction requests generalizing earlier with
  | nil => rw [List.append_nil]; rfl
  | cons request rest inductionHypothesis =>
      have further := inductionHypothesis (earlier ++ [request])
      rw [List.length_append, List.append_assoc] at further
      obtain ⟨name, ready⟩ := request
      cases ready <;> simpa [inTurn, TargetCall.enter] using further

theorem spell_inTurn : Callers.Spell fun _ => inTurn 0 :=
  fun _ requests => foldlM_inTurn [] requests

structure CountingRegistry where
  /-- The slots, the queue and the numbers. Its own list of warm-ups is not used. -/
  registry : Registry
  countdowns : Table GenerationId Countdown
  /-- The targets that have not been made ready. -/
  held : List InitTarget

namespace CountingRegistry

def new (listener : String) : CountingRegistry := ⟨.new listener, .empty, []⟩

def heldOf (state : CountingRegistry) (generation : GenerationId) : List InitTarget :=
  state.held.filter (·.generation = generation)

def register (state : CountingRegistry) (generation : GenerationId) (name : String) :
    Option CountingRegistry := do
  let countdown ← state.countdowns.get? generation
  let (target, countdown) := countdown.addTarget name
  return { state with
    countdowns := state.countdowns.insert generation countdown
    held := state.held ++ [target] }

/-- Makes a target ready, which uses it up. Whoever has none cannot make it ready. -/
def targetReady (state : CountingRegistry) (target : InitTarget) : Option CountingRegistry :=
  if target ∈ state.held then do
    let countdown ← state.countdowns.get? target.generation
    let (last, countdown) ← countdown.release
    return {
      registry := { state.registry with
        warmed := state.registry.warmed ++ if last then [target.generation] else [] }
      countdowns := state.countdowns.insert target.generation countdown
      held := state.held.erase target }
  else some state

def call (generation : GenerationId) (state : CountingRegistry) :
    TargetCall → Option CountingRegistry
  | .register name => state.register generation name
  | .ready number => do
      let countdown ← state.countdowns.get? generation
      let name ← countdown.names[number]?
      state.targetReady ⟨generation, number, name⟩

/-- A generation is about to be built. -/
def opened (state : CountingRegistry) (build : Build) (generation : GenerationId) :
    CountingRegistry :=
  { state with
    registry := state.registry.drawn build
    countdowns := state.countdowns.insert generation (.new generation) }

/-- An accepted batch takes the warming slot when its build is over, and becomes active at once if it
waits for nothing. -/
def accept (state : CountingRegistry) (index : MatchIndex) :
    Option (CountingRegistry × UpdateOutcome) := do
  let countdown ← state.countdowns.get? index.generation
  let (ready, countdown) ← countdown.endBuild
  let warming := { state with
    registry := { state.registry with warming := some index }
    countdowns := state.countdowns.insert index.generation countdown }
  let waiting := UpdateOutcome.warming index.generation countdown.pending
  if ready then
    let (registry, activation) := warming.registry.completeWarmup index.generation
    return ({ warming with registry }, (activation.map UpdateOutcome.activated).getD waiting)
  else return (warming, waiting)

def beginUpdate (calls : Callers) (state : CountingRegistry)
    (descriptors : List FilterChainDescriptor) (builder : ChainBuilder) :
    Option (CountingRegistry × UpdateReport) := do
  let generation : GenerationId := ⟨state.registry.nextGeneration⟩
  let build := state.registry.buildOf descriptors builder
  let state ← (calls generation build.state.targets).foldlM (call generation) (state.opened build generation)
  let report outcome : UpdateReport :=
    ⟨generation, outcome, state.heldOf generation, build.state.built⟩
  match build.outcome with
  | .error error => return (state, report (.error error))
  | .ok index => do
      let (state, outcome) ← state.accept index
      return (state, report (.ok outcome))

def dispatchWarmed (state : CountingRegistry) : CountingRegistry × List Activation :=
  let (registry, activations) := state.registry.dispatchWarmed
  ({ state with registry }, activations)

/-- How many targets the warming generation waits for. -/
def waiting (state : CountingRegistry) : Nat :=
  ((state.registry.warming.bind fun index => state.countdowns.get? index.generation).map
    (·.pending)).getD 0

def step (calls : Callers) (state : CountingRegistry) : Event → Option CountingRegistry
  | .update descriptors builder => (·.1) <$> state.beginUpdate calls descriptors builder
  | .ready target => state.targetReady target
  | .dispatch => some state.dispatchWarmed.1

/-- What is left after events, if each of them can be done. -/
def run (calls : Callers) (state : CountingRegistry) (events : List Event) :
    Option CountingRegistry :=
  events.foldlM (step calls) state

end CountingRegistry

/-! ## Targets of a build -/

/-- The targets that are not ready, numbered in the order of the requests. -/
def unready (generation : GenerationId) : (number : Nat) → List TargetRequest → List InitTarget
  | _, [] => []
  | number, request :: rest =>
      if request.ready then unready generation (number + 1) rest
      else ⟨generation, number, request.name⟩ :: unready generation (number + 1) rest

section Unready

variable {generation : GenerationId} {number position : Nat} {requests : List TargetRequest}
  {name : String}

theorem Build.handedOut_eq_unready (build : Build) (generation : GenerationId) :
    build.handedOut generation = unready generation 0 build.state.targets := by
  unfold handedOut Registry.numberTargets
  generalize build.state.targets = requests
  generalize 0 = number
  induction requests generalizing number with
  | nil => rfl
  | cons request rest inductionHypothesis =>
      rw [List.zipIdx_cons, List.map_cons, unready, ← inductionHypothesis]
      cases ready : request.ready <;> simp [ready]

private theorem unready_concat (number : Nat) (requests : List TargetRequest) (name : String) :
    unready generation number (requests ++ [⟨name, false⟩]) =
      unready generation number requests ++ [⟨generation, number + requests.length, name⟩] := by
  induction requests generalizing number with
  | nil => rfl
  | cons request rest inductionHypothesis =>
      have shifted : number + 1 + rest.length = number + (rest.length + 1) := by omega
      rw [List.cons_append, unready, unready, inductionHypothesis, List.length_cons, shifted]
      split <;> rfl

theorem of_mem_unready {target : InitTarget} (listed : target ∈ unready generation number requests) :
    target.generation = generation ∧ number ≤ target.number := by
  induction requests generalizing number with
  | nil => exact absurd listed List.not_mem_nil
  | cons request rest inductionHypothesis =>
      rw [unready] at listed
      split at listed
      · obtain ⟨own, later⟩ := inductionHypothesis listed
        exact ⟨own, by omega⟩
      · rcases List.mem_cons.mp listed with rfl | further
        · exact ⟨rfl, Nat.le_refl _⟩
        · obtain ⟨own, later⟩ := inductionHypothesis further
          exact ⟨own, by omega⟩

theorem unready_nodup (generation : GenerationId) (number : Nat) (requests : List TargetRequest) :
    (unready generation number requests).Nodup := by
  induction requests generalizing number with
  | nil => exact List.nodup_nil
  | cons request rest inductionHypothesis =>
      rw [unready]
      split
      · exact inductionHypothesis (number + 1)
      · refine List.nodup_cons.mpr ⟨?_, inductionHypothesis (number + 1)⟩
        intro again
        have later := (of_mem_unready again).2
        dsimp only at later
        omega

private theorem mem_unready (asked : requests[position]? = some ⟨name, false⟩) :
    ⟨generation, number + position, name⟩ ∈ unready generation number requests := by
  induction requests generalizing number position with
  | nil => exact absurd asked (by simp)
  | cons request rest inductionHypothesis =>
      rw [unready]
      cases position with
      | zero =>
          obtain rfl : request = ⟨name, false⟩ := by simpa using asked
          exact List.mem_cons_self
      | succ position =>
          have shifted : number + 1 + position = number + (position + 1) := by omega
          have further := @inductionHypothesis (number + 1) position (by simpa using asked)
          rw [shifted] at further
          split
          · exact further
          · exact List.mem_cons_of_mem _ further

/-- A target that becomes ready is taken out. -/
theorem unready_set (asked : requests[position]? = some ⟨name, false⟩) :
    unready generation number (requests.set position ⟨name, true⟩) =
      (unready generation number requests).erase ⟨generation, number + position, name⟩ := by
  induction requests generalizing number position with
  | nil => exact absurd asked (by simp)
  | cons request rest inductionHypothesis =>
      cases position with
      | zero =>
          obtain rfl : request = ⟨name, false⟩ := by simpa using asked
          simp [unready]
      | succ position =>
          have shifted : number + 1 + position = number + (position + 1) := by omega
          have further := @inductionHypothesis (number + 1) position (by simpa using asked)
          rw [shifted] at further
          rw [List.set_cons_succ, unready, unready, further]
          split
          · rfl
          · have different : (⟨generation, number, request.name⟩ : InitTarget) ≠
                ⟨generation, number + (position + 1), name⟩ := by simp
            rw [List.erase_cons_tail (by simp [different])]

private theorem names_set (asked : requests[position]? = some ⟨name, false⟩) :
    (requests.set position ⟨name, true⟩).map (·.name) = requests.map (·.name) := by
  have there := (List.getElem?_eq_some_iff.mp asked).1
  apply List.ext_getElem?
  intro other
  rw [List.map_set, List.getElem?_set]
  by_cases here : position = other
  · subst here
    rw [if_pos rfl, List.length_map, if_pos there, List.getElem?_map, asked]
    rfl
  · rw [if_neg here]

end Unready

namespace CountingRegistry

/-! ## Builds -/

/-- A build has asked for targets, of which some are ready. -/
structure Drafted (before : CountingRegistry) (generation : GenerationId)
    (requests : List TargetRequest) (after : CountingRegistry) : Prop where
  registry : after.registry = before.registry
  held : after.held = before.held ++ unready generation 0 requests
  own : after.countdowns.get? generation = some
    ⟨generation, requests.map (·.name), (unready generation 0 requests).length + 1, false⟩
  others : ∀ other, other ≠ generation →
    after.countdowns.get? other = before.countdowns.get? other

variable {before after : CountingRegistry} {generation : GenerationId}
  {requests : List TargetRequest}

private theorem Drafted.register (drafted : Drafted before generation requests after)
    (name : String) :
    ∃ later, after.register generation name = some later ∧
      Drafted before generation (requests ++ [⟨name, false⟩]) later := by
  unfold CountingRegistry.register
  rw [drafted.own]
  refine ⟨_, rfl, drafted.registry, ?_, ?_, ?_⟩
  · simp [drafted.held, unready_concat]
  · rw [Table.get?_insert, if_pos rfl]
    simp [unready_concat]
  · intro other different
    rw [Table.get?_insert, if_neg different]
    exact drafted.others other different

/-- A target that becomes ready during the build is never the last one, for the build is not over. -/
theorem Drafted.targetReady (drafted : Drafted before generation requests after)
    (fresh : ∀ target ∈ before.held, target.generation ≠ generation) {number : Nat} {name : String}
    (asked : requests[number]? = some ⟨name, false⟩) :
    ∃ later, after.call generation (.ready number) = some later ∧
      Drafted before generation (requests.set number ⟨name, true⟩) later := by
  have listed : ⟨generation, 0 + number, name⟩ ∈ unready generation 0 requests := mem_unready asked
  rw [Nat.zero_add] at listed
  have foreign : (⟨generation, number, name⟩ : InitTarget) ∉ before.held :=
    fun there => fresh _ there rfl
  have member : (⟨generation, number, name⟩ : InitTarget) ∈ after.held := by
    rw [drafted.held]
    exact List.mem_append_right _ listed
  have rest : unready generation 0 (requests.set number ⟨name, true⟩) =
      (unready generation 0 requests).erase ⟨generation, number, name⟩ := by
    rw [unready_set asked, Nat.zero_add]
  have named : (requests.map (·.name))[number]? = some name := by simp [asked]
  have more : (unready generation 0 requests).length ≠ 0 := (List.length_pos_of_mem listed).ne'
  have fewer : (unready generation 0 (requests.set number ⟨name, true⟩)).length + 1 =
      (unready generation 0 requests).length := by
    rw [rest, List.length_erase_of_mem listed]
    omega
  unfold CountingRegistry.call
  simp only [drafted.own, named, Option.bind_eq_bind, Option.bind_some]
  unfold CountingRegistry.targetReady
  rw [if_pos member]
  simp only [drafted.own, Countdown.release_succ, more, decide_false, Option.bind_eq_bind,
    Option.bind_some]
  refine ⟨_, rfl, ?_, ?_, ?_, ?_⟩
  · simp [drafted.registry]
  · dsimp only
    rw [drafted.held, List.erase_append_right _ foreign, rest]
  · rw [Table.get?_insert, if_pos rfl, names_set asked, fewer]
  · intro other different
    rw [Table.get?_insert, if_neg different]
    exact drafted.others other different

private theorem Drafted.call (drafted : Drafted before generation requests after)
    (fresh : ∀ target ∈ before.held, target.generation ≠ generation) {call : TargetCall}
    {asked : List TargetRequest} (entered : call.enter requests = some asked) :
    ∃ later, after.call generation call = some later ∧
      Drafted before generation asked later := by
  cases call with
  | register name =>
      simp only [TargetCall.enter, Option.some.injEq] at entered
      rw [← entered]
      exact drafted.register name
  | ready number =>
      simp only [TargetCall.enter] at entered
      split at entered
      · rename_i name here
        obtain rfl := Option.some.inj entered
        exact drafted.targetReady fresh here
      · cases entered

theorem Drafted.calls (drafted : Drafted before generation requests after)
    (fresh : ∀ target ∈ before.held, target.generation ≠ generation) {calls : List TargetCall}
    {asked : List TargetRequest} (entered : calls.foldlM TargetCall.enter requests = some asked) :
    ∃ later, calls.foldlM (CountingRegistry.call generation) after = some later ∧
      Drafted before generation asked later := by
  induction calls generalizing requests after with
  | nil =>
      obtain rfl : requests = asked := Option.some.inj entered
      exact ⟨after, rfl, drafted⟩
  | cons first rest inductionHypothesis =>
      rw [List.foldlM_cons] at entered
      obtain ⟨between, firstEntered, restEntered⟩ := Option.bind_eq_some_iff.mp entered
      obtain ⟨middle, called, drafted⟩ := drafted.call fresh firstEntered
      obtain ⟨later, others, drafted⟩ := inductionHypothesis drafted restEntered
      refine ⟨later, ?_, drafted⟩
      rw [List.foldlM_cons, called]
      exact others

end CountingRegistry

end Admission.Chain
