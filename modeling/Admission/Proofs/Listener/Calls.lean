import Admission.Proofs.Listener.Sockets
import Admission.Proofs.Tls.Chunking
import Mathlib.Data.List.Induction

/-!
Contract: which filters a pipeline calls, with what, and in which order.

A pipeline is driven from outside: it is started once, and then bytes arrive, a filter is done or runs
out of time, or the socket is closed by others. What happens to the filters on the way is told as one
list of events.

Owns:
- `Call` and `Event`, what happens to a filter;
- `Drive`, what a pipeline can be told, `driven`, where it gets, and `history`, what happens meanwhile;
- `recording_driven`, that filters which keep a record of their calls come to have exactly those of
  the history in it.
-/

namespace Admission.Listener

/-- A filter was called. -/
structure Call where
  position : Nat
  /-- The bytes that the filter was given, if it was not just reached. -/
  bytes : Option (List UInt8)
  before : Socket
  after : Socket
  status : FilterStatus

inductive Event where
  | called (call : Call)
  /-- The filter that held the pipeline was done with success, or its time was up and it was passed
  over. -/
  | released (position : Nat)
  /-- The filter that held the pipeline was done without success, or its time was up. -/
  | refused (position : Nat)

namespace Event

def position : Event → Nat
  | called call => call.position
  | released position => position
  | refused position => position

/-- The pipeline may go on behind the filter. -/
def passes : Event → Bool
  | called call => call.after.isOpen && decide (call.status = .proceed)
  | released _ => true
  | refused _ => false

/-- The filter holds the pipeline. -/
def holds : Event → Bool
  | called call => call.after.isOpen && decide (call.status = .hold)
  | _ => false

/-- A filter was called and the socket was closed afterwards. -/
def closes : Event → Bool
  | called call => !call.after.isOpen
  | _ => false

/-- The filter that was reached. -/
def reached? : Event → Option Nat
  | called call => if call.bytes = none then some call.position else none
  | _ => none

/-- The call of a filter. -/
def callOf? (position : Nat) : Event → Option Call
  | called call => if call.position = position then some call else none
  | _ => none

end Event

namespace ListenerFilter

variable {σ : Type}

/-- A filter is reached. -/
def reach (filter : ListenerFilter σ) (position : Nat) (socket : Socket) : Call where
  position
  bytes := none
  before := socket
  after := socket.learn (filter.onAccept filter.memory socket).findings
  status := (filter.onAccept filter.memory socket).status

/-- A filter is given bytes. -/
def feed (filter : ListenerFilter σ) (position : Nat) (socket : Socket) (bytes : List UInt8) :
    Call where
  position
  bytes := some bytes
  before := socket
  after := socket.learn (filter.onData filter.memory socket bytes).findings
  status := (filter.onData filter.memory socket bytes).status

end ListenerFilter

namespace Pipeline

variable {σ : Type}

/-- What happens while filters run from the cursor on. -/
def iterateEvents (pipeline : Pipeline σ) (socket : Socket) : List Event :=
  match _found : pipeline.filters[pipeline.cursor]? with
  | none => []
  | some filter =>
      let call := filter.reach pipeline.cursor socket
      if !call.after.isOpen then [.called call]
      else match call.status with
        | .hold => [.called call]
        | .proceed => .called call ::
            (pipeline.remember (filter.onAccept filter.memory socket).memory).advance.iterateEvents
              call.after
termination_by pipeline.filters.length - pipeline.cursor
decreasing_by
  have inside := (List.getElem?_eq_some_iff.mp _found).1
  simp only [remember, advance, List.length_modify]
  omega

def resumeEvents (pipeline : Pipeline σ) (socket : Socket) (success : Bool) : List Event :=
  if pipeline.state ≠ .suspended then []
  else if success then .released pipeline.cursor :: pipeline.advance.iterateEvents socket
  else [.refused pipeline.cursor]

def dataEvents (pipeline : Pipeline σ) (socket : Socket) (bytes : List UInt8) : List Event :=
  if pipeline.state ≠ .suspended then []
  else match pipeline.filters[pipeline.cursor]? with
    | none => if socket.isOpen then pipeline.advance.iterateEvents socket else []
    | some filter =>
        let call := filter.feed pipeline.cursor socket bytes
        if !call.after.isOpen then [.called call]
        else match call.status with
          | .hold => [.called call]
          | .proceed => .called call ::
              (pipeline.remember
                (filter.onData filter.memory socket bytes).memory).advance.iterateEvents call.after

theorem length_remember (pipeline : Pipeline σ) (memory : σ) :
    (pipeline.remember memory).filters.length = pipeline.filters.length :=
  List.length_modify _ _ _

/-- Filters run, and what happens: each is called in turn until one holds the pipeline or the socket
is found closed, or all are passed. -/
inductive Runs : Pipeline σ → Socket → List Event → Pipeline σ × Socket → Prop
  | through {pipeline : Pipeline σ} {socket : Socket}
      (passed : pipeline.filters[pipeline.cursor]? = none) :
      Runs pipeline socket [] (pipeline.enter .completed, socket)
  | closed {pipeline after : Pipeline σ} {socket : Socket} {filter : ListenerFilter σ} {call : Call}
      (found : pipeline.filters[pipeline.cursor]? = some filter)
      (reached : filter.reach pipeline.cursor socket = call)
      (remembered : pipeline.remember (filter.onAccept filter.memory socket).memory = after)
      (closed : call.after.isOpen = false) :
      Runs pipeline socket [.called call] (after.enter .terminated, call.after)
  | held {pipeline after : Pipeline σ} {socket : Socket} {filter : ListenerFilter σ} {call : Call}
      (found : pipeline.filters[pipeline.cursor]? = some filter)
      (reached : filter.reach pipeline.cursor socket = call)
      (remembered : pipeline.remember (filter.onAccept filter.memory socket).memory = after)
      (opened : call.after.isOpen = true) (hold : call.status = .hold) :
      Runs pipeline socket [.called call] (after.enter .suspended, call.after)
  | further {pipeline after : Pipeline σ} {socket : Socket} {filter : ListenerFilter σ}
      {call : Call} {events : List Event} {result : Pipeline σ × Socket}
      (found : pipeline.filters[pipeline.cursor]? = some filter)
      (reached : filter.reach pipeline.cursor socket = call)
      (remembered : pipeline.remember (filter.onAccept filter.memory socket).memory = after)
      (opened : call.after.isOpen = true) (proceeds : call.status = .proceed)
      (rest : Runs after.advance call.after events result) :
      Runs pipeline socket (.called call :: events) result

section Found

variable {pipeline : Pipeline σ} {filter : ListenerFilter σ}

private theorem iterate_of_none (passed : pipeline.filters[pipeline.cursor]? = none)
    (socket : Socket) :
    pipeline.iterate socket = (pipeline.enter .completed, socket) :=
  iterate_of_length_le (List.getElem?_eq_none_iff.mp passed) socket

private theorem iterateEvents_of_none (passed : pipeline.filters[pipeline.cursor]? = none)
    (socket : Socket) : pipeline.iterateEvents socket = [] := by
  rw [iterateEvents]
  split
  · rfl
  · rename_i other same
    exact absurd (passed.symm.trans same) nofun

variable (found : pipeline.filters[pipeline.cursor]? = some filter) (socket : Socket)

include found

private theorem iterate_of_some :
    pipeline.iterate socket =
      let call := filter.reach pipeline.cursor socket
      let after := pipeline.remember (filter.onAccept filter.memory socket).memory
      if !call.after.isOpen then (after.enter .terminated, call.after)
      else match call.status with
        | .hold => (after.enter .suspended, call.after)
        | .proceed => after.advance.iterate call.after := by
  rw [iterate]
  split
  · rename_i passed
    exact absurd (found.symm.trans passed) nofun
  · rename_i other same
    rw [Option.some.inj (found.symm.trans same)]
    rfl

private theorem iterateEvents_of_some :
    pipeline.iterateEvents socket =
      let call := filter.reach pipeline.cursor socket
      let after := pipeline.remember (filter.onAccept filter.memory socket).memory
      if !call.after.isOpen then [.called call]
      else match call.status with
        | .hold => [.called call]
        | .proceed => .called call :: after.advance.iterateEvents call.after := by
  rw [iterateEvents]
  split
  · rename_i passed
    exact absurd (found.symm.trans passed) nofun
  · rename_i other same
    rw [Option.some.inj (found.symm.trans same)]

end Found

theorem runs_iterate (pipeline : Pipeline σ) (socket : Socket) :
    Runs pipeline socket (pipeline.iterateEvents socket) (pipeline.iterate socket) := by
  fun_induction iterate pipeline socket with
  | case1 pipeline socket passed =>
      rw [iterateEvents_of_none passed]
      exact .through passed
  | case2 pipeline socket filter found reply after learned closed =>
      have shut : learned.isOpen = false := by simpa using closed
      have call : (filter.reach pipeline.cursor socket).after.isOpen = false := shut
      rw [iterateEvents_of_some found]
      dsimp only
      rw [call]
      exact .closed found rfl rfl call
  | case3 pipeline socket filter found reply after learned opened hold =>
      have isOpen : learned.isOpen = true := by simpa using opened
      have call : (filter.reach pipeline.cursor socket).after.isOpen = true := isOpen
      have status : (filter.reach pipeline.cursor socket).status = .hold := hold
      rw [iterateEvents_of_some found]
      dsimp only
      rw [call, status]
      exact .held found rfl rfl call status
  | case4 pipeline socket filter found reply after learned opened proceeds inductionHypothesis =>
      have isOpen : learned.isOpen = true := by simpa using opened
      have call : (filter.reach pipeline.cursor socket).after.isOpen = true := isOpen
      have status : (filter.reach pipeline.cursor socket).status = .proceed := proceeds
      rw [iterateEvents_of_some found]
      dsimp only
      rw [call, status]
      exact .further found rfl rfl call status inductionHypothesis

theorem Runs.eq {pipeline : Pipeline σ} {socket : Socket} {events : List Event}
    {result : Pipeline σ × Socket} (runs : Runs pipeline socket events result) :
    pipeline.iterate socket = result := by
  induction runs with
  | through passed => exact iterate_of_none passed _
  | closed found reached remembered closed =>
      subst reached remembered
      rw [iterate_of_some found]
      dsimp only
      rw [closed]
      rfl
  | held found reached remembered opened hold =>
      subst reached remembered
      rw [iterate_of_some found]
      dsimp only
      rw [opened, hold]
      rfl
  | further found reached remembered opened proceeds rest inductionHypothesis =>
      subst reached remembered
      rw [iterate_of_some found]
      dsimp only
      rw [opened, proceeds]
      exact inductionHypothesis

theorem Runs.length {pipeline : Pipeline σ} {socket : Socket} {events : List Event}
    {result : Pipeline σ × Socket} (runs : Runs pipeline socket events result) :
    result.1.filters.length = pipeline.filters.length := by
  induction runs with
  | through passed => rfl
  | closed _ _ remembered _ =>
      subst remembered
      exact length_remember _ _
  | held _ _ remembered _ _ =>
      subst remembered
      exact length_remember _ _
  | further _ _ remembered _ _ _ inductionHypothesis =>
      subst remembered
      exact inductionHypothesis.trans (length_remember _ _)

private theorem onData_of_some {pipeline : Pipeline σ} {filter : ListenerFilter σ}
    (held : pipeline.state = .suspended) (found : pipeline.filters[pipeline.cursor]? = some filter)
    (socket : Socket) (bytes : List UInt8) :
    pipeline.onData socket bytes =
      let call := filter.feed pipeline.cursor socket bytes
      let after := pipeline.remember (filter.onData filter.memory socket bytes).memory
      if !call.after.isOpen then (after.enter .terminated, call.after)
      else match call.status with
        | .hold => (after, call.after)
        | .proceed => after.advance.iterate call.after :=
  onData_of_suspended held found rfl

private theorem dataEvents_of_some {pipeline : Pipeline σ} {filter : ListenerFilter σ}
    (held : pipeline.state = .suspended) (found : pipeline.filters[pipeline.cursor]? = some filter)
    (socket : Socket) (bytes : List UInt8) :
    pipeline.dataEvents socket bytes =
      let call := filter.feed pipeline.cursor socket bytes
      let after := pipeline.remember (filter.onData filter.memory socket bytes).memory
      if !call.after.isOpen then [.called call]
      else match call.status with
        | .hold => [.called call]
        | .proceed => .called call :: after.advance.iterateEvents call.after := by
  unfold dataEvents
  rw [if_neg (not_not_intro held), found]

end Pipeline

/-! ## Runs -/

/-- What a pipeline is told after its start. -/
inductive Drive where
  | data (bytes : List UInt8)
  /-- The filter that holds the pipeline is done. -/
  | resume (success : Bool)
  /-- The filter that holds the pipeline ran out of time. -/
  | timeOut (continues : Bool)
  /-- The socket is closed or opened by others. -/
  | setOpen (isOpen : Bool)

section Runs

variable {σ : Type}

/-- A pipeline and its socket after it was told something. -/
def Drive.apply (place : Pipeline σ × Socket) : Drive → Pipeline σ × Socket
  | .data bytes => place.1.onData place.2 bytes
  | .resume success => place.1.resume place.2 success
  | .timeOut continues => place.1.onTimeout place.2 continues
  | .setOpen isOpen => (place.1, { place.2 with isOpen })

/-- What happens to the filters thereby. -/
def Drive.events (place : Pipeline σ × Socket) : Drive → List Event
  | .data bytes => place.1.dataEvents place.2 bytes
  | .resume success => place.1.resumeEvents place.2 success
  | .timeOut continues => place.1.resumeEvents place.2 continues
  | .setOpen _ => []

/-- How the filter that holds the pipeline got on. -/
def Drive.success? : Drive → Option Bool
  | .resume success => some success
  | .timeOut continues => some continues
  | _ => none

/-- What a pipeline does that is told something. -/
inductive Drive.Moves (pipeline : Pipeline σ) (socket : Socket) :
    Drive → List Event → Pipeline σ × Socket → Prop
  | opened (isOpen : Bool) :
      Moves pipeline socket (.setOpen isOpen) [] (pipeline, { socket with isOpen })
  /-- No filter holds it. -/
  | idle {drive : Drive} (free : pipeline.state ≠ .suspended)
      (told : ∀ isOpen, drive ≠ .setOpen isOpen) :
      Moves pipeline socket drive [] (pipeline, socket)
  | refused {drive : Drive} (held : pipeline.state = .suspended)
      (told : drive.success? = some false) :
      Moves pipeline socket drive [.refused pipeline.cursor] (pipeline.resume socket false)
  | released {drive : Drive} {events : List Event} {result : Pipeline σ × Socket}
      (held : pipeline.state = .suspended) (told : drive.success? = some true)
      (runs : pipeline.advance.Runs socket events result) :
      Moves pipeline socket drive (.released pipeline.cursor :: events) result
  | closed {bytes : List UInt8} {filter : ListenerFilter σ} {call : Call} {after : Pipeline σ}
      (held : pipeline.state = .suspended)
      (found : pipeline.filters[pipeline.cursor]? = some filter)
      (fed : filter.feed pipeline.cursor socket bytes = call)
      (remembered : pipeline.remember (filter.onData filter.memory socket bytes).memory = after)
      (closed : call.after.isOpen = false) :
      Moves pipeline socket (.data bytes) [.called call] (after.enter .terminated, call.after)
  | kept {bytes : List UInt8} {filter : ListenerFilter σ} {call : Call} {after : Pipeline σ}
      (held : pipeline.state = .suspended)
      (found : pipeline.filters[pipeline.cursor]? = some filter)
      (fed : filter.feed pipeline.cursor socket bytes = call)
      (remembered : pipeline.remember (filter.onData filter.memory socket bytes).memory = after)
      (opened : call.after.isOpen = true) (hold : call.status = .hold) :
      Moves pipeline socket (.data bytes) [.called call] (after, call.after)
  | further {bytes : List UInt8} {filter : ListenerFilter σ} {call : Call} {after : Pipeline σ}
      {events : List Event} {result : Pipeline σ × Socket}
      (held : pipeline.state = .suspended)
      (found : pipeline.filters[pipeline.cursor]? = some filter)
      (fed : filter.feed pipeline.cursor socket bytes = call)
      (remembered : pipeline.remember (filter.onData filter.memory socket bytes).memory = after)
      (opened : call.after.isOpen = true) (proceeds : call.status = .proceed)
      (runs : after.advance.Runs call.after events result) :
      Moves pipeline socket (.data bytes) (.called call :: events) result

section Moves

variable {pipeline : Pipeline σ} {socket : Socket}

private theorem moves_resume {drive : Drive} {success : Bool}
    (told : drive.success? = some success) :
    drive.Moves pipeline socket (pipeline.resumeEvents socket success)
      (pipeline.resume socket success) := by
  have foreign : ∀ isOpen, drive ≠ .setOpen isOpen := by
    rintro isOpen rfl
    cases told
  by_cases held : pipeline.state = .suspended
  · unfold Pipeline.resumeEvents
    rw [if_neg (not_not_intro held)]
    cases success with
    | false => exact .refused held told
    | true =>
        have resumed : pipeline.resume socket true = pipeline.advance.iterate socket := by
          unfold Pipeline.resume
          rw [if_neg (not_not_intro held)]
          rfl
        rw [resumed]
        exact .released held told (pipeline.advance.runs_iterate socket)
  · unfold Pipeline.resumeEvents Pipeline.resume
    rw [if_pos held, if_pos held]
    exact .idle held foreign

private theorem moves_onData (stopped : pipeline.Stopped) (bytes : List UInt8) :
    (Drive.data bytes).Moves pipeline socket (pipeline.dataEvents socket bytes)
      (pipeline.onData socket bytes) := by
  by_cases held : pipeline.state = .suspended
  · obtain ⟨filter, found⟩ : ∃ filter, pipeline.filters[pipeline.cursor]? = some filter :=
      ⟨_, List.getElem?_eq_getElem (stopped.held held)⟩
    rw [Pipeline.onData_of_some held found, Pipeline.dataEvents_of_some held found]
    dsimp only
    cases opened : (filter.feed pipeline.cursor socket bytes).after.isOpen with
    | false => exact .closed held found rfl rfl opened
    | true =>
        cases status : (filter.feed pipeline.cursor socket bytes).status with
        | hold => exact .kept held found rfl rfl opened status
        | proceed => exact .further held found rfl rfl opened status (Pipeline.runs_iterate _ _)
  · unfold Pipeline.dataEvents Pipeline.onData
    rw [if_pos held, if_pos held]
    exact .idle held fun _ => nofun

/-- What a pipeline does that runs no filters at the moment. -/
theorem Pipeline.Stopped.moves (stopped : pipeline.Stopped) (socket : Socket) (drive : Drive) :
    drive.Moves pipeline socket (drive.events (pipeline, socket))
      (drive.apply (pipeline, socket)) := by
  cases drive with
  | data bytes => exact moves_onData stopped bytes
  | resume success => exact moves_resume rfl
  | timeOut continues => exact moves_resume rfl
  | setOpen isOpen => exact .opened isOpen

theorem Drive.Moves.eq {drive : Drive} {events : List Event} {result : Pipeline σ × Socket}
    (moves : drive.Moves pipeline socket events result) :
    drive.apply (pipeline, socket) = result := by
  have resumes {success : Bool} (told : drive.success? = some success) :
      drive.apply (pipeline, socket) = pipeline.resume socket success := by
    cases drive with
    | resume _ => rw [Option.some.inj told.symm]; rfl
    | timeOut _ => rw [Option.some.inj told.symm]; rfl
    | data _ => cases told
    | setOpen _ => cases told
  cases moves with
  | opened isOpen => rfl
  | idle free told =>
      cases drive with
      | data bytes => exact if_pos free
      | resume success => exact if_pos free
      | timeOut continues => exact if_pos free
      | setOpen isOpen => exact absurd rfl (told isOpen)
  | refused held told => exact resumes told
  | released held told runs =>
      rw [resumes told, ← runs.eq]
      unfold Pipeline.resume
      rw [if_neg (not_not_intro held)]
      rfl
  | closed held found fed remembered closed =>
      subst fed remembered
      show pipeline.onData socket _ = _
      rw [Pipeline.onData_of_some held found]
      dsimp only
      rw [closed]
      rfl
  | kept held found fed remembered opened hold =>
      subst fed remembered
      show pipeline.onData socket _ = _
      rw [Pipeline.onData_of_some held found]
      dsimp only
      rw [opened, hold]
      rfl
  | further held found fed remembered opened proceeds runs =>
      subst fed remembered
      show pipeline.onData socket _ = _
      rw [Pipeline.onData_of_some held found]
      dsimp only
      rw [opened, proceeds]
      exact runs.eq

theorem Drive.Moves.length {drive : Drive} {events : List Event} {result : Pipeline σ × Socket}
    (moves : drive.Moves pipeline socket events result) :
    result.1.filters.length = pipeline.filters.length := by
  cases moves with
  | opened isOpen => rfl
  | idle free told => rfl
  | refused held told =>
      rw [Pipeline.resume_false held]
      rfl
  | released held told runs => exact runs.length
  | closed held found fed remembered closed =>
      subst remembered
      exact Pipeline.length_remember _ _
  | kept held found fed remembered opened hold =>
      subst remembered
      exact Pipeline.length_remember _ _
  | further held found fed remembered opened proceeds runs =>
      subst remembered
      exact runs.length.trans (Pipeline.length_remember _ _)

end Moves

def eventsFrom (place : Pipeline σ × Socket) : List Drive → List Event
  | [] => []
  | drive :: rest => drive.events place ++ eventsFrom (drive.apply place) rest

private theorem eventsFrom_concat (place : Pipeline σ × Socket) (drives : List Drive)
    (drive : Drive) :
    eventsFrom place (drives ++ [drive]) =
      eventsFrom place drives ++ drive.events (drives.foldl Drive.apply place) := by
  induction drives generalizing place with
  | nil => exact List.append_nil _
  | cons first rest inductionHypothesis =>
      rw [List.cons_append]
      unfold eventsFrom
      rw [inductionHypothesis, List.append_assoc]
      rfl

variable (filters : List (ListenerFilter σ)) (socket : Socket)

/-- A pipeline and its socket after the start and all that it was told since. -/
def driven (drives : List Drive) : Pipeline σ × Socket :=
  drives.foldl Drive.apply ((Pipeline.new filters).start socket)

/-- What has happened to the filters since the start. -/
def history (drives : List Drive) : List Event :=
  (Pipeline.new filters).iterateEvents socket ++
    eventsFrom ((Pipeline.new filters).start socket) drives

private theorem driven_concat (drives : List Drive) (drive : Drive) :
    driven filters socket (drives ++ [drive]) = drive.apply (driven filters socket drives) := by
  unfold driven
  rw [List.foldl_append]
  rfl

theorem history_concat (drives : List Drive) (drive : Drive) :
    history filters socket (drives ++ [drive]) =
      history filters socket drives ++ drive.events (driven filters socket drives) := by
  unfold history
  rw [eventsFrom_concat, List.append_assoc]
  rfl

theorem stopped_driven (drives : List Drive) : (driven filters socket drives).1.Stopped := by
  induction drives using List.reverseRecOn with
  | nil => exact Pipeline.stopped_start _ socket
  | append_singleton drives drive inductionHypothesis =>
      rw [driven_concat]
      cases drive with
      | data bytes => exact inductionHypothesis.onData _ bytes
      | resume success => exact inductionHypothesis.resume _ success
      | timeOut continues => exact inductionHypothesis.resume _ continues
      | setOpen isOpen => exact inductionHypothesis

theorem moves_driven (drives : List Drive) (drive : Drive) :
    drive.Moves (driven filters socket drives).1 (driven filters socket drives).2
      (drive.events (driven filters socket drives))
      (driven filters socket (drives ++ [drive])) := by
  rw [driven_concat]
  exact (stopped_driven filters socket drives).moves _ drive

end Runs

/-! ## Records of calls -/

section Recording

variable {σ : Type}

/-- A filter that keeps a record of its calls beside its memory, and does what it did. -/
def ListenerFilter.recording (filter : ListenerFilter σ) (position : Nat) (record : List Call) :
    ListenerFilter (σ × List Call) where
  name := filter.name
  memory := (filter.memory, record)
  onAccept := fun (memory, record) socket =>
    let reply := filter.onAccept memory socket
    let call := { filter with memory }.reach position socket
    { reply with memory := (reply.memory, record ++ [call]) }
  onData := fun (memory, record) socket bytes =>
    let reply := filter.onData memory socket bytes
    let call := { filter with memory }.feed position socket bytes
    { reply with memory := (reply.memory, record ++ [call]) }

/-- The calls of the filter at a position. -/
def callsAt (position : Nat) (events : List Event) : List Call :=
  events.filterMap (Event.callOf? position)

private theorem callsAt_concat (position : Nat) (events : List Event) (call : Call) :
    callsAt position (events ++ [.called call]) =
      if call.position = position then callsAt position events ++ [call]
      else callsAt position events := by
  unfold callsAt
  rw [List.filterMap_append]
  by_cases here : call.position = position
  · have own : Event.callOf? position (.called call) = some call := if_pos here
    rw [if_pos here, List.filterMap_cons_some own, List.filterMap_nil]
  · have foreign : Event.callOf? position (.called call) = none := if_neg here
    rw [if_neg here, List.filterMap_cons_none foreign, List.filterMap_nil, List.append_nil]

namespace Pipeline

/-- A pipeline whose filters keep records, which so far say what happened. -/
def recording (pipeline : Pipeline σ) (events : List Event) : Pipeline (σ × List Call) where
  filters := pipeline.filters.mapIdx fun position filter =>
    filter.recording position (callsAt position events)
  cursor := pipeline.cursor
  state := pipeline.state

variable {pipeline : Pipeline σ} {filter : ListenerFilter σ}

private theorem recording_found (found : pipeline.filters[pipeline.cursor]? = some filter)
    (events : List Event) :
    (pipeline.recording events).filters[(pipeline.recording events).cursor]? =
      some (filter.recording pipeline.cursor (callsAt pipeline.cursor events)) := by
  unfold recording
  dsimp only
  rw [List.getElem?_mapIdx, found]
  rfl

/-- A call is put down by the filter that is called, and by no other. -/
theorem recording_remember (found : pipeline.filters[pipeline.cursor]? = some filter)
    (events : List Event) (memory : σ) (call : Call) (here : call.position = pipeline.cursor) :
    (pipeline.recording events).remember
        (memory, callsAt pipeline.cursor events ++ [call]) =
      (pipeline.remember memory).recording (events ++ [.called call]) := by
  unfold recording remember
  dsimp only
  congr 1
  apply List.ext_getElem?
  intro position
  rw [List.getElem?_modify, List.getElem?_mapIdx, List.getElem?_mapIdx, List.getElem?_modify,
    callsAt_concat, here]
  by_cases same : pipeline.cursor = position
  · subst same
    rw [found]
    simp [ListenerFilter.recording]
  · simp [same]

private theorem recording_reach (found : pipeline.filters[pipeline.cursor]? = some filter)
    (events : List Event) (socket : Socket) :
    (pipeline.recording events).remember
        ((filter.onAccept filter.memory socket).memory,
          callsAt pipeline.cursor events ++ [filter.reach pipeline.cursor socket]) =
      (pipeline.remember (filter.onAccept filter.memory socket).memory).recording
        (events ++ [.called (filter.reach pipeline.cursor socket)]) :=
  recording_remember found events _ _ rfl

private theorem recording_feed (found : pipeline.filters[pipeline.cursor]? = some filter)
    (events : List Event) (socket : Socket) (bytes : List UInt8) :
    (pipeline.recording events).remember
        ((filter.onData filter.memory socket bytes).memory,
          callsAt pipeline.cursor events ++ [filter.feed pipeline.cursor socket bytes]) =
      (pipeline.remember (filter.onData filter.memory socket bytes).memory).recording
        (events ++ [.called (filter.feed pipeline.cursor socket bytes)]) :=
  recording_remember found events _ _ rfl

/-- What is no call goes into no record. -/
theorem recording_uncalled (pipeline : Pipeline σ) (events : List Event) {event : Event}
    (uncalled : ∀ position, event.callOf? position = none) :
    pipeline.recording (events ++ [event]) = pipeline.recording events := by
  have same (position : Nat) : callsAt position (events ++ [event]) = callsAt position events := by
    unfold callsAt
    rw [List.filterMap_append, List.filterMap_cons_none (uncalled position), List.filterMap_nil,
      List.append_nil]
  unfold recording
  simp only [same]

/-- A run of recording filters is the run of the filters, put down call by call. -/
theorem Runs.recording {pipeline : Pipeline σ} {socket : Socket} {events : List Event}
    {result : Pipeline σ × Socket} (runs : Runs pipeline socket events result)
    (earlier : List Event) :
    Runs (pipeline.recording earlier) socket events
      (result.1.recording (earlier ++ events), result.2) := by
  induction runs generalizing earlier with
  | through passed =>
      rw [List.append_nil]
      refine .through ?_
      unfold Pipeline.recording
      rw [List.getElem?_mapIdx, passed]
      rfl
  | closed found reached remembered closed =>
      subst reached remembered
      exact .closed (recording_found found earlier) rfl (recording_reach found earlier _) closed
  | held found reached remembered opened hold =>
      subst reached remembered
      exact .held (recording_found found earlier) rfl (recording_reach found earlier _) opened hold
  | @further _ _ _ _ call _ _ found reached remembered opened proceeds rest inductionHypothesis =>
      have next := inductionHypothesis (earlier ++ [.called call])
      rw [List.append_assoc] at next
      subst reached remembered
      exact .further (recording_found found earlier) rfl (recording_reach found earlier _) opened
        proceeds next

private theorem recording_moves {pipeline : Pipeline σ} {socket : Socket} {drive : Drive}
    {events : List Event} {result : Pipeline σ × Socket}
    (moves : drive.Moves pipeline socket events result) (earlier : List Event) :
    drive.Moves (pipeline.recording earlier) socket events
      (result.1.recording (earlier ++ events), result.2) := by
  have suspended (held : pipeline.state = .suspended) :
      (pipeline.recording earlier).state = .suspended := held
  cases moves with
  | opened isOpen =>
      rw [List.append_nil]
      exact .opened isOpen
  | idle free told =>
      rw [List.append_nil]
      exact .idle free told
  | refused held told =>
      have refused : drive.Moves (pipeline.recording earlier) socket _ _ :=
        .refused (suspended held) told
      rw [resume_false (suspended held)] at refused
      rw [resume_false held, recording_uncalled _ earlier fun _ => rfl]
      exact refused
  | released held told runs =>
      have next := runs.recording (earlier ++ [.released pipeline.cursor])
      rw [recording_uncalled _ earlier fun _ => rfl, List.append_assoc] at next
      exact .released held told next
  | closed held found fed remembered closed =>
      subst fed remembered
      exact .closed (suspended held) (recording_found found earlier) rfl
        (recording_feed found earlier _ _) closed
  | kept held found fed remembered opened hold =>
      subst fed remembered
      exact .kept (suspended held) (recording_found found earlier) rfl
        (recording_feed found earlier _ _) opened hold
  | @further _ _ call _ _ _ held found fed remembered opened proceeds runs =>
      have next := runs.recording (earlier ++ [.called call])
      rw [List.append_assoc] at next
      subst fed remembered
      exact .further (suspended held) (recording_found found earlier) rfl
        (recording_feed found earlier _ _) opened proceeds next

end Pipeline

/-- Filters that start with empty records. -/
def recorders (filters : List (ListenerFilter σ)) : List (ListenerFilter (σ × List Call)) :=
  filters.mapIdx fun position filter => filter.recording position []

/-- Filters that keep records go the same way, and each record has exactly the calls of its filter in
the history, in order. -/
theorem recording_driven (filters : List (ListenerFilter σ)) (socket : Socket)
    (drives : List Drive) :
    driven (recorders filters) socket drives =
      ((driven filters socket drives).1.recording (history filters socket drives),
        (driven filters socket drives).2) := by
  induction drives using List.reverseRecOn with
  | nil =>
      have started := ((Pipeline.new filters).runs_iterate socket).recording []
      rw [show history filters socket [] = (Pipeline.new filters).iterateEvents socket from
        List.append_nil _]
      exact started.eq
  | append_singleton drives drive inductionHypothesis =>
      have moves := Pipeline.recording_moves (moves_driven filters socket drives drive)
        (history filters socket drives)
      rw [driven_concat, inductionHypothesis, history_concat]
      exact moves.eq

end Recording

end Admission.Listener
