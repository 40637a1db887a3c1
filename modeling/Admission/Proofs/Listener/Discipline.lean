import Admission.Proofs.Listener.Calls

/-!
Contract: the order in which a pipeline calls its filters.

The events of a pipeline are those of a small machine that has a cursor and a state and knows nothing
of sockets and memories: `Allowed` says which event may come next, `Event.next` where it leads.

Owns:
- `Walk`, the machine, and `walk_driven`, that every run of a pipeline walks it;
- `Disciplined`, what its histories have in common, and `calls_disciplined`.
-/

namespace Admission.Listener

/-- Where an event leaves the pipeline. -/
def Event.next (event : Event) : Nat × PipelineState :=
  if event.passes then (event.position + 1, .running)
  else if event.holds then (event.position, .suspended)
  else (event.position, .terminated)

/-- What may happen in a pipeline of so many filters: the next filter is reached while filters run,
and the filter that holds the pipeline is given bytes, or is done or out of time. -/
inductive Event.Allowed (width cursor : Nat) : PipelineState → Event → Prop
  | reached {call : Call} (inside : cursor < width) (here : call.position = cursor)
      (new : call.bytes = none) : Allowed width cursor .running (.called call)
  | fed {call : Call} (here : call.position = cursor) (given : call.bytes ≠ none) :
      Allowed width cursor .suspended (.called call)
  | released : Allowed width cursor .suspended (.released cursor)
  | refused : Allowed width cursor .suspended (.refused cursor)

private theorem Event.Allowed.position_eq {width cursor : Nat} {state : PipelineState}
    {event : Event} (allowed : event.Allowed width cursor state) : event.position = cursor := by
  cases allowed with
  | reached _ here _ => exact here
  | fed here _ => exact here
  | released => rfl
  | refused => rfl

/-- The events so far, the cursor and the state. -/
inductive Walk (width : Nat) : List Event → Nat → PipelineState → Prop
  | begun : Walk width [] 0 .running
  | through {events : List Event} {cursor : Nat} (walk : Walk width events cursor .running)
      (passed : width ≤ cursor) : Walk width events cursor .completed
  | happened {events : List Event} {cursor : Nat} {state : PipelineState} {event : Event}
      (walk : Walk width events cursor state) (allowed : event.Allowed width cursor state) :
      Walk width (events ++ [event]) event.next.1 event.next.2

/-! ## Pipelines walk -/

section Calls

variable {width cursor : Nat} {events : List Event} {state : PipelineState} {call : Call}
  (walk : Walk width events cursor state)
  (allowed : (Event.called call).Allowed width cursor state)

include walk allowed

private theorem Walk.closed (closed : call.after.isOpen = false) :
    Walk width (events ++ [.called call]) cursor .terminated := by
  have next : (Event.called call).next = (cursor, .terminated) := by
    rw [← allowed.position_eq]
    simp [Event.next, Event.passes, Event.holds, closed]
  have walked := walk.happened allowed
  rw [next] at walked
  exact walked

private theorem Walk.held (opened : call.after.isOpen = true) (hold : call.status = .hold) :
    Walk width (events ++ [.called call]) cursor .suspended := by
  have next : (Event.called call).next = (cursor, .suspended) := by
    rw [← allowed.position_eq]
    simp [Event.next, Event.passes, Event.holds, opened, hold]
  have walked := walk.happened allowed
  rw [next] at walked
  exact walked

private theorem Walk.proceeded (opened : call.after.isOpen = true)
    (proceeds : call.status = .proceed) :
    Walk width (events ++ [.called call]) (cursor + 1) .running := by
  have next : (Event.called call).next = (cursor + 1, .running) := by
    rw [← allowed.position_eq]
    simp [Event.next, Event.passes, opened, proceeds]
  have walked := walk.happened allowed
  rw [next] at walked
  exact walked

end Calls

section Walks

variable {σ : Type} {pipeline : Pipeline σ} {socket : Socket} {filter : ListenerFilter σ}
  {call : Call} {events : List Event} {result : Pipeline σ × Socket} {width : Nat}

private theorem allowed_reach (found : pipeline.filters[pipeline.cursor]? = some filter)
    (reached : filter.reach pipeline.cursor socket = call)
    (size : pipeline.filters.length = width) :
    (Event.called call).Allowed width pipeline.cursor .running := by
  have inside := (List.getElem?_eq_some_iff.mp found).1
  rw [size] at inside
  subst reached
  exact .reached inside rfl rfl

private theorem allowed_feed {bytes : List UInt8}
    (fed : filter.feed pipeline.cursor socket bytes = call) :
    (Event.called call).Allowed width pipeline.cursor .suspended := by
  subst fed
  exact .fed rfl (Option.some_ne_none bytes)

private theorem walk_runs (runs : pipeline.Runs socket events result)
    (size : pipeline.filters.length = width) {earlier : List Event}
    (walk : Walk width earlier pipeline.cursor .running) :
    Walk width (earlier ++ events) result.1.cursor result.1.state := by
  induction runs generalizing earlier with
  | through passed =>
      rw [List.append_nil]
      exact .through walk (size ▸ List.getElem?_eq_none_iff.mp passed)
  | closed found reached remembered closed =>
      subst remembered
      exact walk.closed (allowed_reach found reached size) closed
  | held found reached remembered opened hold =>
      subst remembered
      exact walk.held (allowed_reach found reached size) opened hold
  | further found reached remembered opened proceeds rest inductionHypothesis =>
      subst remembered
      have next := walk.proceeded (allowed_reach found reached size) opened proceeds
      have remaining := inductionHypothesis ((Pipeline.length_remember _ _).trans size) next
      rw [List.append_assoc] at remaining
      exact remaining

private theorem walk_moves {drive : Drive} (moves : drive.Moves pipeline socket events result)
    (size : pipeline.filters.length = width) {earlier : List Event}
    (walk : Walk width earlier pipeline.cursor pipeline.state) :
    Walk width (earlier ++ events) result.1.cursor result.1.state := by
  have suspended (held : pipeline.state = .suspended) :
      Walk width earlier pipeline.cursor .suspended := held ▸ walk
  cases moves with
  | opened isOpen =>
      rw [List.append_nil]
      exact walk
  | idle free told =>
      rw [List.append_nil]
      exact walk
  | refused held told =>
      rw [Pipeline.resume_false held]
      exact (suspended held).happened .refused
  | released held told runs =>
      have next := walk_runs runs size ((suspended held).happened .released)
      rw [List.append_assoc] at next
      exact next
  | closed held found fed remembered closed =>
      subst remembered
      exact (suspended held).closed (allowed_feed fed) closed
  | kept held found fed remembered opened hold =>
      subst remembered
      have next := (suspended held).held (allowed_feed fed) opened hold
      rw [← held] at next
      exact next
  | further held found fed remembered opened proceeds runs =>
      subst remembered
      have next := (suspended held).proceeded (allowed_feed fed) opened proceeds
      have remaining := walk_runs runs ((Pipeline.length_remember _ _).trans size) next
      rw [List.append_assoc] at remaining
      exact remaining

end Walks

section Runs

variable {σ : Type} (filters : List (ListenerFilter σ)) (socket : Socket) (drives : List Drive)

theorem length_driven : (driven filters socket drives).1.filters.length = filters.length := by
  induction drives using List.reverseRecOn with
  | nil => exact ((Pipeline.new filters).runs_iterate socket).length
  | append_singleton drives drive inductionHypothesis =>
      exact (moves_driven filters socket drives drive).length.trans inductionHypothesis

/-- A pipeline walks from its start on. -/
theorem walk_driven :
    Walk filters.length (history filters socket drives) (driven filters socket drives).1.cursor
      (driven filters socket drives).1.state := by
  induction drives using List.reverseRecOn with
  | nil =>
      rw [show history filters socket [] = (Pipeline.new filters).iterateEvents socket from
        List.append_nil _]
      exact walk_runs ((Pipeline.new filters).runs_iterate socket) rfl .begun
  | append_singleton drives drive inductionHypothesis =>
      rw [history_concat]
      exact walk_moves (moves_driven filters socket drives drive)
        (length_driven filters socket drives) inductionHypothesis

end Runs

/-! ## What walks have in common -/

section Laws

variable {width cursor : Nat} {state : PipelineState} {events before rest : List Event}
  {event : Event}

private theorem Event.next_eq_running (next : event.next = (cursor, .running)) :
    event.passes = true ∧ event.position + 1 = cursor := by
  unfold Event.next at next
  split at next
  · rename_i passes
    exact ⟨passes, (Prod.mk.inj next).1⟩
  · split at next
    · exact absurd (Prod.mk.inj next).2 (by decide)
    · exact absurd (Prod.mk.inj next).2 (by decide)

private theorem Event.next_eq_suspended (next : event.next = (cursor, .suspended)) :
    event.holds = true ∧ event.position = cursor := by
  unfold Event.next at next
  split at next
  · exact absurd (Prod.mk.inj next).2 (by decide)
  · split at next
    · rename_i holds
      exact ⟨holds, (Prod.mk.inj next).1⟩
    · exact absurd (Prod.mk.inj next).2 (by decide)

private theorem Event.next_of_closes (closes : event.closes = true) :
    event.next = (event.position, .terminated) := by
  cases event with
  | called call =>
      have closed : call.after.isOpen = false := by simpa [Event.closes] using closes
      simp [Event.next, Event.passes, Event.holds, closed]
  | released position => cases closes
  | refused position => cases closes

/-- Each event was allowed where the events before it had led. -/
theorem Walk.split (walk : Walk width events cursor state) (listed : events = before ++ event :: rest) :
    ∃ at_ moment, Walk width before at_ moment ∧ event.Allowed width at_ moment := by
  induction walk generalizing rest with
  | begun => exact absurd listed.symm (by simp)
  | through _ _ inductionHypothesis => exact inductionHypothesis listed
  | happened walk allowed inductionHypothesis =>
      cases rest using List.reverseRecOn with
      | nil =>
          obtain ⟨same, last⟩ := List.append_inj' listed rfl
          cases last
          exact ⟨_, _, same ▸ walk, allowed⟩
      | append_singleton rest last =>
          rw [← List.cons_append, ← List.append_assoc] at listed
          exact inductionHypothesis (List.append_inj' listed rfl).1

/-- Where a walk is says what happened last. -/
theorem Walk.last (walk : Walk width events cursor state) :
    (events = [] ∧ cursor = 0 ∧ (state = .running ∨ state = .completed)) ∨
      ∃ earlier last, events = earlier ++ [last] ∧
        (last.next = (cursor, state) ∨ state = .completed ∧ last.next = (cursor, .running)) := by
  induction walk with
  | begun => exact .inl ⟨rfl, rfl, .inl rfl⟩
  | through walk passed inductionHypothesis =>
      rcases inductionHypothesis with ⟨none, start, _⟩ | ⟨earlier, last, listed, next | ⟨late, _⟩⟩
      · exact .inl ⟨none, start, .inr rfl⟩
      · exact .inr ⟨earlier, last, listed, .inr ⟨rfl, next⟩⟩
      · cases late
  | happened walk allowed _ => exact .inr ⟨_, _, rfl, .inl rfl⟩

/-- Filters run from the first one on, or because the filter before was passed. -/
theorem Walk.running_cases (walk : Walk width events cursor .running) :
    (events = [] ∧ cursor = 0) ∨ ∃ earlier last, events = earlier ++ [last] ∧
      last.passes = true ∧ last.position + 1 = cursor := by
  rcases walk.last with ⟨none, start, _⟩ | ⟨earlier, last, listed, next | ⟨late, _⟩⟩
  · exact .inl ⟨none, start⟩
  · exact .inr ⟨earlier, last, listed, Event.next_eq_running next⟩
  · cases late

/-- A pipeline is suspended because the filter at its cursor holds it. -/
theorem Walk.suspended_cases (walk : Walk width events cursor .suspended) :
    ∃ earlier last, events = earlier ++ [last] ∧ last.holds = true ∧ last.position = cursor := by
  rcases walk.last with ⟨_, _, late | late⟩ | ⟨earlier, last, listed, next | ⟨late, _⟩⟩
  · cases late
  · cases late
  · exact ⟨earlier, last, listed, Event.next_eq_suspended next⟩
  · cases late

private theorem Event.next_cases (event : Event) :
    (event.passes = true ∧ event.next = (event.position + 1, .running)) ∨
      (event.passes = false ∧
        (event.next = (event.position, .suspended) ∨
          event.next = (event.position, .terminated))) := by
  unfold Event.next
  cases passes : event.passes with
  | true => exact .inl ⟨rfl, rfl⟩
  | false =>
      refine .inr ⟨rfl, ?_⟩
      cases event.holds with
      | true => exact .inl rfl
      | false => exact .inr rfl

/-- The filters that were reached so far. -/
def PipelineState.reached (cursor : Nat) : PipelineState → Nat
  | .running | .completed => cursor
  | .suspended | .terminated => cursor + 1

/-- Where an event leads, the filters up to its own have been reached. -/
theorem Event.reached_next (event : Event) :
    event.next.2.reached event.next.1 = event.position + 1 := by
  rcases event.next_cases with ⟨_, next⟩ | ⟨_, next | next⟩
  · rw [next]
    rfl
  · rw [next]
    rfl
  · rw [next]
    rfl

/-- Filters are reached in order, each once. -/
theorem Walk.reached (walk : Walk width events cursor state) :
    events.filterMap Event.reached? = List.range (state.reached cursor) := by
  induction walk with
  | begun => rfl
  | through walk passed inductionHypothesis => exact inductionHypothesis
  | @happened events cursor state event walk allowed inductionHypothesis =>
      rw [List.filterMap_append, inductionHypothesis, event.reached_next, allowed.position_eq]
      cases allowed with
      | @reached call inside here new =>
          have found : (Event.called call).reached? = some cursor :=
            (if_pos new).trans (congrArg some here)
          rw [List.filterMap_cons_some found, List.filterMap_nil, List.range_succ]
          rfl
      | @fed call here given =>
          have none : (Event.called call).reached? = none := if_neg given
          rw [List.filterMap_cons_none none, List.filterMap_nil, List.append_nil]
          rfl
      | released => exact List.append_nil _
      | refused => exact List.append_nil _

/-- A filter that holds the pipeline or at which it ended is one of the filters. -/
theorem Walk.inside (walk : Walk width events cursor state) :
    cursor ≤ width ∧ (state = .suspended ∨ state = .terminated → cursor < width) := by
  induction walk with
  | begun => exact ⟨Nat.zero_le _, by simp⟩
  | through walk passed inductionHypothesis => exact ⟨inductionHypothesis.1, by simp⟩
  | @happened events cursor state event walk allowed inductionHypothesis =>
      have inside : cursor < width := by
        cases allowed with
        | reached inside _ _ => exact inside
        | fed => exact inductionHypothesis.2 (.inl rfl)
        | released => exact inductionHypothesis.2 (.inl rfl)
        | refused => exact inductionHypothesis.2 (.inl rfl)
      have here := allowed.position_eq
      rcases event.next_cases with ⟨_, next⟩ | ⟨_, next | next⟩
      · rw [next, here]
        exact ⟨inside, by simp⟩
      · rw [next, here]
        exact ⟨Nat.le_of_lt inside, fun _ => inside⟩
      · rw [next, here]
        exact ⟨Nat.le_of_lt inside, fun _ => inside⟩

private theorem Walk.width_le (walk : Walk width events cursor state)
    (completed : state = .completed) :
    width ≤ cursor := by
  cases walk with
  | begun => cases completed
  | through _ passed => exact passed
  | @happened _ _ _ event _ _ =>
      rcases event.next_cases with ⟨_, next⟩ | ⟨_, next | next⟩
      · rw [next] at completed
        cases completed
      · rw [next] at completed
        cases completed
      · rw [next] at completed
        cases completed

/-- The filters before the cursor are those that were passed. -/
theorem Walk.passed_iff (walk : Walk width events cursor state) (position : Nat) :
    position < cursor ↔
      ∃ event ∈ events, event.position = position ∧ event.passes = true := by
  induction walk with
  | begun => simp
  | through walk passed inductionHypothesis => exact inductionHypothesis
  | @happened events cursor state event walk allowed inductionHypothesis =>
      have here := allowed.position_eq
      have split : (∃ other ∈ events ++ [event], other.position = position ∧ other.passes = true) ↔
          position < cursor ∨ event.position = position ∧ event.passes = true := by
        rw [inductionHypothesis]
        simp [or_and_right, exists_or]
      rw [split, here]
      rcases event.next_cases with ⟨passes, next⟩ | ⟨stays, next | next⟩
      · rw [next, here, passes]
        simp only [and_true]
        omega
      · rw [next, here, stays]
        simp
      · rw [next, here, stays]
        simp

/-- Nothing happens any more once a filter was called and the socket is closed. -/
theorem Walk.last_of_closes (walk : Walk width events cursor state)
    (listed : events = before ++ event :: rest) (closes : event.closes = true) :
    rest = [] ∧ state = .terminated := by
  induction walk generalizing rest with
  | begun => exact absurd listed.symm (by simp)
  | through _ _ inductionHypothesis => exact absurd (inductionHypothesis listed).2 (by decide)
  | happened walk allowed inductionHypothesis =>
      cases rest using List.reverseRecOn with
      | nil =>
          cases (List.append_inj' listed rfl).2
          rw [Event.next_of_closes closes]
          exact ⟨rfl, rfl⟩
      | append_singleton rest last =>
          rw [← List.cons_append, ← List.append_assoc] at listed
          have ended := (inductionHypothesis (List.append_inj' listed rfl).1).2
          rw [ended] at allowed
          cases allowed

end Laws

/-- A pipeline that rests is through exactly if every filter was passed and none left the socket
closed. -/
theorem Walk.completed_iff {width cursor : Nat} {events : List Event} {state : PipelineState}
    (walk : Walk width events cursor state) (rests : state ≠ .running) :
    state = .completed ↔
      (∀ position < width, ∃ event ∈ events, event.position = position ∧ event.passes = true) ∧
        ∀ event ∈ events, event.closes = false := by
  constructor
  · rintro rfl
    refine ⟨?_, ?_⟩
    · intro position inside
      exact (walk.passed_iff position).mp (Nat.lt_of_lt_of_le inside (walk.width_le rfl))
    · intro event listed
      rw [Bool.eq_false_iff]
      intro closes
      obtain ⟨before, rest, split⟩ := List.append_of_mem listed
      exact absurd (walk.last_of_closes split closes).2 (by decide)
  · rintro ⟨passed, _⟩
    have through : width ≤ cursor := by
      refine Nat.le_of_not_lt fun short => ?_
      exact absurd ((walk.passed_iff cursor).mpr (passed cursor short)) (Nat.lt_irrefl _)
    have inside := walk.inside.2
    cases state with
    | running => exact absurd rfl rests
    | suspended => exact absurd (inside (.inl rfl)) (Nat.not_lt_of_le through)
    | completed => rfl
    | terminated => exact absurd (inside (.inr rfl)) (Nat.not_lt_of_le through)

/-! ## The main statement -/

/-- How a pipeline of so many filters calls them. -/
structure Disciplined (width : Nat) (events : List Event) (state : PipelineState) : Prop where
  /-- Filters are reached in the order of the list, each at most once. -/
  order : ∃ count ≤ width, events.filterMap Event.reached? = List.range count
  /-- The first filter is reached before all else, another one right after the one before it went on,
  which it did when it was reached, when it was given bytes, or when it was released. -/
  reached : ∀ before event rest position, events = before ++ event :: rest →
    event.reached? = some position →
      (position = 0 ∧ before = []) ∨ ∃ earlier last, before = earlier ++ [last] ∧
        last.passes = true ∧ last.position + 1 = position
  /-- Whatever else happens, happens to the filter that holds the pipeline. -/
  held : ∀ before event rest, events = before ++ event :: rest → event.reached? = none →
    ∃ earlier last, before = earlier ++ [last] ∧ last.holds = true ∧
      last.position = event.position
  /-- A filter that leaves the socket closed is the last one called. -/
  last : ∀ before event rest, events = before ++ event :: rest → event.closes = true → rest = []
  completed : state = .completed ↔
    (∀ position < width, ∃ event ∈ events, event.position = position ∧ event.passes = true) ∧
      ∀ event ∈ events, event.closes = false

private theorem Walk.disciplined {width cursor : Nat} {events : List Event} {state : PipelineState}
    (walk : Walk width events cursor state) (rests : state ≠ .running) :
    Disciplined width events state where
  order := by
    refine ⟨state.reached cursor, ?_, walk.reached⟩
    have inside := walk.inside
    cases state with
    | running => exact inside.1
    | suspended => exact inside.2 (.inl rfl)
    | completed => exact inside.1
    | terminated => exact inside.2 (.inr rfl)
  reached := by
    intro before event rest position listed new
    obtain ⟨cursor, moment, walked, allowed⟩ := walk.split listed
    cases allowed with
    | reached inside here bare =>
        have same := new.symm.trans ((if_pos bare).trans (congrArg some here))
        rw [Option.some.inj same]
        rcases walked.running_cases with ⟨none, start⟩ | further
        · exact .inl ⟨start, none⟩
        · exact .inr further
    | fed here given => exact absurd (new.symm.trans (if_neg given)) nofun
    | released => cases new
    | refused => cases new
  held := by
    intro before event rest listed old
    obtain ⟨cursor, moment, walked, allowed⟩ := walk.split listed
    rw [allowed.position_eq]
    cases allowed with
    | reached inside here bare => exact absurd (old.symm.trans (if_pos bare)) nofun
    | fed => exact walked.suspended_cases
    | released => exact walked.suspended_cases
    | refused => exact walked.suspended_cases
  last := fun before event rest listed closes => (walk.last_of_closes listed closes).1
  completed := walk.completed_iff rests

section Runs

variable {σ : Type} (filters : List (ListenerFilter σ)) (socket : Socket) (drives : List Drive)

/-- A filter that is just reached is given no bytes. -/
theorem Pipeline.Runs.bytes_eq_none {pipeline : Pipeline σ} {socket : Socket} {events : List Event}
    {result : Pipeline σ × Socket} (runs : pipeline.Runs socket events result) {call : Call}
    (listed : .called call ∈ events) : call.bytes = none := by
  induction runs with
  | through passed => cases listed
  | closed found reached remembered closed =>
      cases List.mem_singleton.mp listed
      rw [← reached]
      rfl
  | held found reached remembered opened hold =>
      cases List.mem_singleton.mp listed
      rw [← reached]
      rfl
  | further found reached remembered opened proceeds rest inductionHypothesis =>
      rcases List.mem_cons.mp listed with first | later
      · cases first
        rw [← reached]
        rfl
      · exact inductionHypothesis later

/-- Bytes go to the filter at the cursor of a pipeline that is suspended, and to no other. -/
theorem Drive.Moves.fed {pipeline : Pipeline σ} {socket : Socket} {drive : Drive}
    {events : List Event} {result : Pipeline σ × Socket}
    (moves : drive.Moves pipeline socket events result) {call : Call} {bytes : List UInt8}
    (listed : .called call ∈ events) (given : call.bytes = some bytes) :
    drive = .data bytes ∧ pipeline.state = .suspended ∧ call.position = pipeline.cursor := by
  have unfed {later : List Event} {next : Pipeline σ} {left : Socket}
      (runs : next.Runs left later result) (late : .called call ∈ later) : False :=
    absurd ((runs.bytes_eq_none late).symm.trans given) nofun
  cases moves with
  | opened isOpen => cases listed
  | idle free told => cases listed
  | refused held told => cases List.mem_singleton.mp listed
  | released held told runs =>
      rcases List.mem_cons.mp listed with first | later
      · cases first
      · exact (unfed runs later).elim
  | closed held found fed remembered closed =>
      cases List.mem_singleton.mp listed
      rw [← fed] at given ⊢
      exact ⟨congrArg Drive.data (Option.some.inj given), held, rfl⟩
  | kept held found fed remembered opened hold =>
      cases List.mem_singleton.mp listed
      rw [← fed] at given ⊢
      exact ⟨congrArg Drive.data (Option.some.inj given), held, rfl⟩
  | further held found fed remembered opened proceeds runs =>
      rcases List.mem_cons.mp listed with first | later
      · cases first
        rw [← fed] at given ⊢
        exact ⟨congrArg Drive.data (Option.some.inj given), held, rfl⟩
      · exact (unfed runs later).elim

private theorem Drive.Moves.free {pipeline : Pipeline σ} {socket : Socket} {drive : Drive}
    {events : List Event} {result : Pipeline σ × Socket}
    (moves : drive.Moves pipeline socket events result) (free : pipeline.state ≠ .suspended) :
    events = [] ∧ result.1 = pipeline := by
  cases moves with
  | opened isOpen => exact ⟨rfl, rfl⟩
  | idle _ told => exact ⟨rfl, rfl⟩
  | refused held _ => exact absurd held free
  | released held _ _ => exact absurd held free
  | closed held _ _ _ _ => exact absurd held free
  | kept held _ _ _ _ _ => exact absurd held free
  | further held _ _ _ _ _ _ => exact absurd held free

/-- A pipeline that no filter holds stays as it is. -/
theorem still_driven (free : (driven filters socket drives).1.state ≠ .suspended)
    (more : List Drive) :
    history filters socket (drives ++ more) = history filters socket drives ∧
      (driven filters socket (drives ++ more)).1 = (driven filters socket drives).1 := by
  induction more using List.reverseRecOn with
  | nil =>
      rw [List.append_nil]
      exact ⟨rfl, rfl⟩
  | append_singleton more drive inductionHypothesis =>
      obtain ⟨sameHistory, samePipeline⟩ := inductionHypothesis
      rw [← samePipeline] at free
      obtain ⟨silent, same⟩ := (moves_driven filters socket (drives ++ more) drive).free free
      rw [← List.append_assoc, history_concat, silent, List.append_nil]
      exact ⟨sameHistory, same.trans samePipeline⟩

/-- However a pipeline is driven after its start, whatever its filters answer and whoever closes the
socket: its filters are reached in order, each at most once and only when the one before went on;
bytes go only to the filter that the pipeline is suspended at; a filter that leaves the socket closed
is the last one called; the pipeline is through exactly if every filter was passed so and none left
the socket closed; and once it is through or ended, no filter is called and it stays as it is. Of the
calls in the history each filter has seen exactly its own: filters that keep a record of their calls
have these in it. -/
theorem calls_disciplined :
    Disciplined filters.length (history filters socket drives) (driven filters socket drives).1.state ∧
      (∀ (drive : Drive) (call : Call) (bytes : List UInt8), .called call ∈
          drive.events (driven filters socket drives) → call.bytes = some bytes →
        drive = .data bytes ∧ (driven filters socket drives).1.state = .suspended ∧
          call.position = (driven filters socket drives).1.cursor) ∧
      ((driven filters socket drives).1.state = .completed ∨
          (driven filters socket drives).1.state = .terminated → ∀ more,
        history filters socket (drives ++ more) = history filters socket drives ∧
          (driven filters socket (drives ++ more)).1 = (driven filters socket drives).1) ∧
      ∀ position < filters.length,
        (driven (recorders filters) socket drives).1.filters[position]?.map (·.memory.2) =
          some (callsAt position (history filters socket drives)) := by
  refine ⟨?_, ?_, ?_, ?_⟩
  · exact (walk_driven filters socket drives).disciplined (stopped_driven filters socket drives).rests
  · intro drive call bytes listed given
    exact (moves_driven filters socket drives drive).fed listed given
  · intro ended more
    refine still_driven filters socket drives ?_ more
    rcases ended with completed | terminated
    · rw [completed]
      decide
    · rw [terminated]
      decide
  · intro position inside
    rw [← length_driven filters socket drives] at inside
    rw [recording_driven]
    unfold Pipeline.recording
    rw [List.getElem?_mapIdx, List.getElem?_eq_getElem inside]
    rfl

end Runs

end Admission.Listener
