import Admission.Proofs.Listener.Deeds
import Admission.Proofs.Listener.Discipline
import Admission.Proofs.Listener.Events
import Admission.Proofs.Listener.Overdue
import Admission.Proofs.Listener.Survival
import Admission.Proofs.Listener.Traffic

/-!
Contract: what a listener does with a socket that is closed already.

A pipeline looks whether a socket is open after it has called a filter, and not before it runs
filters. Who closes the socket in between, while a filter holds it, is noticed late: the next filter
is reached all the same, or the pipeline is through and a connection is made.

Owns:
- `Event.reachesClosed`, that a filter was reached although the socket was closed,
  `OpenUnlessTerminated`, which holds where only filters close it, and `Overseen`, what becomes of a
  closed socket in a pipeline;
- `admissions`, the sockets of which an operation makes connections, and `GainsConnectionsOf`, that
  these connections are all that it makes, with `Housed.gainsConnectionsOf_step`;
- `closed_admitted_iff`.
-/

namespace Admission.Listener

private theorem Socket.isOpen_learn (socket : Socket) (findings : Findings) :
    (socket.learn findings).isOpen = (socket.isOpen && !findings.closes) := by
  unfold learn
  dsimp only
  cases closes : findings.closes with
  | true => simp [close]
  | false => simp

/-- A filter was reached although the socket was closed. -/
def Event.reachesClosed : Event → Bool
  | .called call => decide (call.bytes = none) && !call.before.isOpen
  | _ => false

section Pipeline

variable {σ : Type} {pipeline : Pipeline σ} {socket : Socket} {events : List Event}
  {result : Pipeline σ × Socket}

/-- No filter opens a socket. -/
theorem ListenerFilter.open_of_reach {filter : ListenerFilter σ} {position : Nat} {call : Call}
    (reached : filter.reach position socket = call) (opened : call.after.isOpen = true) :
    socket.isOpen = true := by
  rw [← reached] at opened
  unfold ListenerFilter.reach at opened
  dsimp only at opened
  rw [Socket.isOpen_learn, Bool.and_eq_true] at opened
  exact opened.1

theorem ListenerFilter.reachesClosed_reach (filter : ListenerFilter σ) (position : Nat)
    (socket : Socket) :
    (Event.called (filter.reach position socket)).reachesClosed = !socket.isOpen := rfl

/-- A run of filters reaches a filter with a closed socket exactly if it starts with one and there is
a filter left. -/
theorem Pipeline.Runs.reachesClosed_iff (runs : pipeline.Runs socket events result) :
    (∃ event ∈ events, event.reachesClosed = true) ↔
      socket.isOpen = false ∧ pipeline.cursor < pipeline.filters.length := by
  induction runs with
  | through passed =>
      have none := List.getElem?_eq_none_iff.mp passed
      simp [Nat.not_lt_of_le none]
  | closed found reached remembered closed =>
      have inside := (List.getElem?_eq_some_iff.mp found).1
      subst reached
      simp [ListenerFilter.reachesClosed_reach, inside]
  | held found reached remembered opened hold =>
      have isOpen := ListenerFilter.open_of_reach reached opened
      subst reached
      simp [ListenerFilter.reachesClosed_reach, isOpen]
  | further found reached remembered opened proceeds rest inductionHypothesis =>
      have isOpen := ListenerFilter.open_of_reach reached opened
      rw [opened] at inductionHypothesis
      subst reached
      simp only [List.exists_mem_cons_iff, inductionHypothesis,
        ListenerFilter.reachesClosed_reach, isOpen]
      simp

/-- A run of filters gets through with a closed socket exactly if it starts with one and there is no
filter left. -/
theorem Pipeline.Runs.closed_completed_iff (runs : pipeline.Runs socket events result) :
    (result.1.state = .completed ∧ result.2.isOpen = false) ↔
      socket.isOpen = false ∧ pipeline.filters.length ≤ pipeline.cursor := by
  induction runs with
  | through passed =>
      have none := List.getElem?_eq_none_iff.mp passed
      simp [Pipeline.enter, none]
  | closed found reached remembered closed =>
      have inside := (List.getElem?_eq_some_iff.mp found).1
      simp [Pipeline.enter, inside]
  | held found reached remembered opened hold =>
      have inside := (List.getElem?_eq_some_iff.mp found).1
      simp [Pipeline.enter, inside]
  | further found reached remembered opened proceeds rest inductionHypothesis =>
      have inside := (List.getElem?_eq_some_iff.mp found).1
      rw [inductionHypothesis, opened]
      simp [inside]

/-- The filter that held the pipeline is passed over although the socket is closed. -/
structure Drive.Overlooks (drive : Drive) (pipeline : Pipeline σ) (socket : Socket) : Prop where
  held : pipeline.state = .suspended
  told : drive.success? = some true
  closed : socket.isOpen = false

private theorem Drive.not_overlooks_of_free {drive : Drive} (free : pipeline.state ≠ .suspended) :
    ¬drive.Overlooks pipeline socket :=
  fun overlooks => free overlooks.held

private theorem Drive.not_overlooks_of_told {drive : Drive} (told : drive.success? ≠ some true) :
    ¬drive.Overlooks pipeline socket :=
  fun overlooks => told overlooks.told

private theorem Drive.not_overlooks_data (bytes : List UInt8) :
    ¬(Drive.data bytes).Overlooks pipeline socket :=
  not_overlooks_of_told nofun

private theorem Drive.overlooks_iff {drive : Drive} (held : pipeline.state = .suspended)
    (told : drive.success? = some true) :
    drive.Overlooks pipeline socket ↔ socket.isOpen = false :=
  ⟨fun overlooks => overlooks.closed, fun closed => ⟨held, told, closed⟩⟩

private theorem ListenerFilter.reachesClosed_feed {filter : ListenerFilter σ} {position : Nat}
    {bytes : List UInt8} {call : Call} (fed : filter.feed position socket bytes = call) :
    (Event.called call).reachesClosed = false := by
  rw [← fed]
  rfl

/-- What a pipeline is told makes it reach a filter with a closed socket exactly if the filter that
held it is passed over and another one comes next. -/
theorem Drive.Moves.reachesClosed_iff {drive : Drive}
    (moves : drive.Moves pipeline socket events result) :
    (∃ event ∈ events, event.reachesClosed = true) ↔
      drive.Overlooks pipeline socket ∧ pipeline.cursor + 1 < pipeline.filters.length := by
  cases moves with
  | opened isOpen =>
      have foreign : ¬(Drive.setOpen isOpen).Overlooks pipeline socket :=
        Drive.not_overlooks_of_told nofun
      simp [foreign]
  | idle free told => simp [Drive.not_overlooks_of_free free]
  | refused held told =>
      have foreign : ¬drive.Overlooks pipeline socket :=
        Drive.not_overlooks_of_told (by simp [told])
      simp [foreign, Event.reachesClosed]
  | released held told runs =>
      rw [List.exists_mem_cons_iff, runs.reachesClosed_iff, Drive.overlooks_iff held told]
      simp [Event.reachesClosed, Pipeline.advance]
  | closed held found fed remembered closed =>
      simp [Drive.not_overlooks_data, ListenerFilter.reachesClosed_feed fed]
  | kept held found fed remembered opened hold =>
      simp [Drive.not_overlooks_data, ListenerFilter.reachesClosed_feed fed]
  | further held found fed remembered opened proceeds runs =>
      rw [List.exists_mem_cons_iff, runs.reachesClosed_iff, opened]
      simp [Drive.not_overlooks_data, ListenerFilter.reachesClosed_feed fed]

/-- What a pipeline is told gets it through with a closed socket exactly if the filter that held it is
passed over and was the last one. -/
theorem Drive.Moves.closed_completed_iff {drive : Drive}
    (moves : drive.Moves pipeline socket events result) :
    (pipeline.state ≠ .completed ∧ result.1.state = .completed ∧ result.2.isOpen = false) ↔
      drive.Overlooks pipeline socket ∧ pipeline.filters.length ≤ pipeline.cursor + 1 := by
  have notCompleted (held : pipeline.state = .suspended) : pipeline.state ≠ .completed := by
    rw [held]
    decide
  cases moves with
  | opened isOpen =>
      have foreign : ¬(Drive.setOpen isOpen).Overlooks pipeline socket :=
        Drive.not_overlooks_of_told nofun
      exact iff_of_false (fun through => through.1 through.2.1) fun both => foreign both.1
  | idle free told =>
      exact iff_of_false (fun through => through.1 through.2.1)
        fun both => Drive.not_overlooks_of_free free both.1
  | refused held told =>
      have foreign : ¬drive.Overlooks pipeline socket :=
        Drive.not_overlooks_of_told (by simp [told])
      rw [Pipeline.resume_false held]
      simp [foreign, Pipeline.enter]
  | released held told runs =>
      rw [runs.closed_completed_iff, Drive.overlooks_iff held told,
        and_iff_right (notCompleted held)]
      rfl
  | closed held found fed remembered closed =>
      simp [Drive.not_overlooks_data, Pipeline.enter]
  | kept held found fed remembered opened hold =>
      simp [Drive.not_overlooks_data, opened]
  | further held found fed remembered opened proceeds runs =>
      rw [runs.closed_completed_iff, opened]
      simp [Drive.not_overlooks_data]

/-- A pipeline that passes over the last filter leaves the socket as it is. -/
theorem Drive.Overlooks.apply_of_last {drive : Drive} (overlooks : drive.Overlooks pipeline socket)
    (last : pipeline.filters.length ≤ pipeline.cursor + 1) :
    drive.apply (pipeline, socket) = (pipeline.advance.enter .completed, socket) := by
  have passed : pipeline.advance.filters[pipeline.advance.cursor]? = none :=
    List.getElem?_eq_none_iff.mpr last
  exact (Drive.Moves.released overlooks.held overlooks.told (.through passed)).eq

/-! ## Sockets that only filters close -/

/-- A pipeline whose socket is closed has been terminated. -/
def OpenUnlessTerminated (place : Pipeline σ × Socket) : Prop :=
  place.1.state = .terminated ∨ place.2.isOpen = true

private theorem Pipeline.Runs.openUnlessTerminated (runs : pipeline.Runs socket events result)
    (opened : socket.isOpen = true) : OpenUnlessTerminated result := by
  induction runs with
  | through => exact .inr opened
  | closed => exact .inl rfl
  | held _ _ _ left _ => exact .inr left
  | further _ _ _ left _ _ inductionHypothesis => exact inductionHypothesis left

private theorem Drive.Moves.openUnlessTerminated {drive : Drive}
    (moves : drive.Moves pipeline socket events result)
    (before : OpenUnlessTerminated (pipeline, socket)) (inside : drive ≠ .setOpen false) :
    OpenUnlessTerminated result := by
  have opened (held : pipeline.state = .suspended) : socket.isOpen = true :=
    before.resolve_left fun ended => absurd (held.symm.trans ended) (by decide)
  cases moves with
  | opened isOpen =>
      cases isOpen with
      | true => exact .inr rfl
      | false => exact absurd rfl inside
  | idle => exact before
  | refused held told =>
      rw [Pipeline.resume_false held]
      exact .inl rfl
  | released held told runs => exact runs.openUnlessTerminated (opened held)
  | closed => exact .inl rfl
  | kept _ _ _ _ opened _ => exact .inr opened
  | further _ _ _ _ opened _ runs => exact runs.openUnlessTerminated opened

private theorem OpenUnlessTerminated.not_overlooks {drive : Drive}
    (place : OpenUnlessTerminated (pipeline, socket)) : ¬drive.Overlooks pipeline socket := by
  intro overlooks
  rcases place with ended | opened
  · exact absurd (overlooks.held.symm.trans ended) (by decide)
  · exact absurd (overlooks.closed.symm.trans opened) (by decide)

/-- What a socket that was closed meets in a pipeline: when it starts, and when it is told something
after all that it was told before. -/
structure Overseen (filters : List (ListenerFilter σ)) (socket : Socket) (drives : List Drive)
    (drive : Drive) : Prop where
  reached_start : (∃ event ∈ history filters socket [], event.reachesClosed = true) ↔
    socket.isOpen = false ∧ filters ≠ []
  through_start : ((driven filters socket []).1.state = .completed ∧
      (driven filters socket []).2.isOpen = false) ↔ socket.isOpen = false ∧ filters = []
  reached : (∃ event ∈ drive.events (driven filters socket drives), event.reachesClosed = true) ↔
    drive.Overlooks (driven filters socket drives).1 (driven filters socket drives).2 ∧
      (driven filters socket drives).1.cursor + 1 < filters.length
  through : ((driven filters socket drives).1.state ≠ .completed ∧
      (driven filters socket (drives ++ [drive])).1.state = .completed ∧
      (driven filters socket (drives ++ [drive])).2.isOpen = false) ↔
    drive.Overlooks (driven filters socket drives).1 (driven filters socket drives).2 ∧
      filters.length ≤ (driven filters socket drives).1.cursor + 1
  /-- No filter is reached with a closed socket, and none gets through, if only filters close it. -/
  inside : socket.isOpen = true → (∀ earlier ∈ drives, earlier ≠ .setOpen false) →
    (∀ event ∈ history filters socket drives, event.reachesClosed = false) ∧
      OpenUnlessTerminated (driven filters socket drives)

private theorem openUnlessTerminated_driven (filters : List (ListenerFilter σ))
    (opened : socket.isOpen = true) {drives : List Drive}
    (inside : ∀ drive ∈ drives, drive ≠ .setOpen false) :
    (∀ event ∈ history filters socket drives, event.reachesClosed = false) ∧
      OpenUnlessTerminated (driven filters socket drives) := by
  induction drives using List.reverseRecOn with
  | nil =>
      have runs := (Pipeline.new filters).runs_iterate socket
      have start : history filters socket [] = (Pipeline.new filters).iterateEvents socket :=
        List.append_nil _
      refine ⟨?_, runs.openUnlessTerminated opened⟩
      intro event listed
      rw [start] at listed
      rw [Bool.eq_false_iff]
      intro reached
      have started := runs.reachesClosed_iff.mp ⟨event, listed, reached⟩
      exact absurd (started.1.symm.trans opened) (by decide)
  | append_singleton drives drive inductionHypothesis =>
      have earlier := inductionHypothesis fun drive listed =>
        inside drive (List.mem_append_left _ listed)
      have moves := moves_driven filters socket drives drive
      have last := inside drive (List.mem_append_right _ List.mem_cons_self)
      refine ⟨?_, moves.openUnlessTerminated earlier.2 last⟩
      intro event listed
      rw [history_concat, List.mem_append] at listed
      rcases listed with old | new
      · exact earlier.1 event old
      · rw [Bool.eq_false_iff]
        intro reached
        exact earlier.2.not_overlooks (moves.reachesClosed_iff.mp ⟨event, new, reached⟩).1

private theorem overseen_driven (filters : List (ListenerFilter σ)) (socket : Socket)
    (drives : List Drive) (drive : Drive) : Overseen filters socket drives drive where
  reached_start := by
    have started := ((Pipeline.new filters).runs_iterate socket).reachesClosed_iff
    rw [show history filters socket [] = (Pipeline.new filters).iterateEvents socket from
      List.append_nil _, started]
    exact and_congr_right fun _ => List.length_pos_iff
  through_start := by
    have started := ((Pipeline.new filters).runs_iterate socket).closed_completed_iff
    refine started.trans (and_congr_right fun _ => ?_)
    exact Nat.le_zero.trans List.length_eq_zero_iff
  reached := by
    have moved := (moves_driven filters socket drives drive).reachesClosed_iff
    rw [length_driven] at moved
    exact moved
  through := by
    have moved := (moves_driven filters socket drives drive).closed_completed_iff
    rw [length_driven] at moved
    exact moved
  inside := fun opened inside => openUnlessTerminated_driven filters opened inside

end Pipeline

/-! ## Connections made of sockets -/

/-- A socket in listener filters whose pipeline was told something. -/
def PendingSocket.told {σ : Type} (pending : PendingSocket σ) (drive : Drive) : PendingSocket σ :=
  pending.stepped fun pipeline socket => drive.apply (pipeline, socket)

/-- No socket comes closed or is closed from outside. -/
def Operation.leavesOpen : Operation → Bool
  | .accept socket _ => socket.isOpen
  | .setOpen _ isOpen => isOpen
  | _ => true

namespace ListenerState

open Admission.Chain

variable {σ : Type} {state : ListenerState σ}

/-- The socket of which a connection is made when its pipeline has ended. -/
def admitted (state : ListenerState σ) (pending : PendingSocket σ) : List Socket :=
  if pending.pipeline.state = .completed ∧ (state.matchOf? pending.socket).isSome then
    [pending.socket]
  else []

private theorem admitted_of_ne {pending : PendingSocket σ}
    (stopped : pending.pipeline.state ≠ .completed) :
    state.admitted pending = [] :=
  if_neg fun both => stopped both.1

/-- What an operation tells the pipelines of sockets in listener filters, in order. -/
def addressed (state : ListenerState σ) : Operation → List (SocketId × Drive)
  | .data id bytes => [(id, .data bytes)]
  | .resume id success => [(id, .resume success)]
  | .poll now => (state.expired now).map (·, .timeOut state.config.continueOnTimeout)
  | .setOpen id isOpen => [(id, .setOpen isOpen)]
  | _ => []

/-- The socket of which a connection is made when its pipeline is told something. -/
def admittedBy (state : ListenerState σ) (address : SocketId × Drive) : List Socket :=
  (state.pending? address.1).elim [] fun pending => state.admitted (pending.told address.2)

/-- The sockets of which an operation makes connections, in order. -/
def admissions (state : ListenerState σ) : Operation → List Socket
  | .accept socket now => state.admitted (state.arrival socket now)
  | operation => (state.addressed operation).flatMap state.admittedBy

/-- The connection that is made of a socket under a number. One that is closed at once is gone. -/
def connectionAs (state : ListenerState σ) (number : Nat) (socket : Socket) (chain : FilterChain) :
    Connection :=
  let connection := (state.connectionFor socket chain).identify number
  if connection.state = .closed then connection.destroy else connection

/-- A numbered socket becomes a connection of the chain that it is matched with. -/
def Makes (state : ListenerState σ) (numbered : Socket × Nat) (connection : Connection) : Prop :=
  ∃ matched, state.matchOf? numbered.1 = some matched ∧
    connection = state.connectionAs numbered.2 numbered.1 matched.chain

/-- Two listeners make the same connections. -/
structure MakesLike (left right : ListenerState σ) : Prop where
  registry : right.registry = left.registry
  config : right.config = left.config
  carrier : right.carrier = left.carrier

private theorem MakesLike.makes {left right : ListenerState σ} (alike : left.MakesLike right)
    {numbered : Socket × Nat} {connection : Connection} (made : right.Makes numbered connection) :
    left.Makes numbered connection := by
  obtain ⟨matched, found, rfl⟩ := made
  refine ⟨matched, ?_, ?_⟩
  · unfold matchOf? at found ⊢
    rw [← alike.registry]
    exact found
  · unfold connectionAs
    rw [connectionFor_identify alike.config alike.carrier]

/-- Nothing happened but that connections of sockets were appended, in order. -/
structure AppendsConnectionsOf (sockets : List Socket) (before after : ListenerState σ) : Prop where
  alike : before.MakesLike after
  connections : ∃ created, after.connections = before.connections ++ created ∧
    List.Forall₂ before.Makes (sockets.zipIdx (before.connections.length + 1)) created

private theorem AppendsConnectionsOf.none {before after : ListenerState σ}
    (alike : before.MakesLike after)
    (same : after.connections = before.connections) : AppendsConnectionsOf [] before after :=
  ⟨alike, [], same.trans (List.append_nil _).symm, .nil⟩

private theorem AppendsConnectionsOf.one {before after : ListenerState σ} {socket : Socket}
    {connection : Connection} (alike : before.MakesLike after)
    (made : before.Makes (socket, before.connections.length + 1) connection)
    (more : after.connections = before.connections ++ [connection]) :
    AppendsConnectionsOf [socket] before after :=
  ⟨alike, [connection], more, .cons made .nil⟩

private theorem AppendsConnectionsOf.trans {before middle after : ListenerState σ}
    {early late : List Socket} (first : AppendsConnectionsOf early before middle)
    (rest : AppendsConnectionsOf late middle after) :
    AppendsConnectionsOf (early ++ late) before after := by
  obtain ⟨earlyAlike, earlyMade, earlyConnections, earlyOf⟩ := first
  obtain ⟨lateAlike, lateMade, lateConnections, lateOf⟩ := rest
  refine ⟨⟨lateAlike.registry.trans earlyAlike.registry, lateAlike.config.trans earlyAlike.config,
    lateAlike.carrier.trans earlyAlike.carrier⟩, earlyMade ++ lateMade, ?_, ?_⟩
  · rw [lateConnections, earlyConnections, List.append_assoc]
  · -- The later numbers go on where the earlier ones end.
    have number : middle.connections.length + 1 =
        before.connections.length + 1 + early.length := by
      have length := earlyOf.length_eq
      rw [List.length_zipIdx] at length
      rw [earlyConnections, List.length_append]
      omega
    rw [number] at lateOf
    rw [List.zipIdx_append]
    exact List.rel_append earlyOf (lateOf.imp fun _ _ => earlyAlike.makes)

private theorem connectionAs_next (state : ListenerState σ) (socket : Socket)
    (chain : FilterChain) :
    state.connectionAs (state.connections.length + 1) socket chain =
      if (state.connectionFor socket chain).state = .closed then
        (state.connectionFor socket chain).destroy
      else state.connectionFor socket chain := by
  unfold connectionAs
  rw [identify_connectionFor]

private theorem appendsConnectionsOf_finish (state : ListenerState σ) (pending : PendingSocket σ) :
    AppendsConnectionsOf (state.admitted pending) state (state.finish pending).2 := by
  have concluded := state.concluded_finish pending
  generalize state.finish pending = result at concluded
  cases concluded with
  | rejected stopped =>
      rw [admitted_of_ne stopped]
      exact .none ⟨rfl, rfl, rfl⟩ rfl
  | unmatched passed lost =>
      unfold admitted
      rw [lost, if_neg fun both => Bool.false_ne_true both.2]
      exact .none ⟨rfl, rfl, rfl⟩ rfl
  | refused passed found closed =>
      have number := state.connectionAs_next pending.socket
      unfold admitted
      rw [found, if_pos ⟨passed, rfl⟩]
      refine .one ⟨rfl, rfl, rfl⟩ ⟨_, found, ?_⟩ rfl
      rw [number, if_pos closed]
  | connected passed found unclosed =>
      have number := state.connectionAs_next pending.socket
      unfold admitted
      rw [found, if_pos ⟨passed, rfl⟩]
      refine .one ⟨rfl, rfl, rfl⟩ ⟨_, found, ?_⟩ rfl
      rw [number, if_neg unclosed.lasting]

private theorem admittedBy_of_found {id : SocketId} {pending : PendingSocket σ}
    (found : state.pending? id = some pending) (drive : Drive) :
    state.admittedBy (id, drive) = state.admitted (pending.told drive) := by
  unfold admittedBy
  rw [found]
  rfl

private theorem appendsConnectionsOf_told (state : ListenerState σ) (id : SocketId)
    (drive : Drive) :
    AppendsConnectionsOf (state.admittedBy (id, drive)) state
      (state.stepPending id fun pipeline socket => drive.apply (pipeline, socket)).2 := by
  cases found : state.pending? id with
  | none =>
      unfold admittedBy stepPending
      rw [found]
      exact .none ⟨rfl, rfl, rfl⟩ rfl
  | some pending =>
      rw [admittedBy_of_found found, state.stepPending_of_found found]
      split
      · rename_i waits
        have held : (pending.told drive).pipeline.state ≠ .completed := by
          intro passed
          rcases waits with suspended | running
          · exact absurd (passed.symm.trans suspended) (by decide)
          · exact absurd (passed.symm.trans running) (by decide)
        rw [admitted_of_ne held]
        exact .none ⟨rfl, rfl, rfl⟩ rfl
      · have finished := (state.released id.slot).appendsConnectionsOf_finish (pending.told drive)
        exact ⟨⟨finished.alike.registry, finished.alike.config, finished.alike.carrier⟩,
          finished.connections⟩

private theorem Waiting.appendsConnectionsOf_timeOut (waiting : state.Waiting) {id : SocketId}
    {pending : PendingSocket σ} (found : state.pending? id = some pending) :
    AppendsConnectionsOf (state.admittedBy (id, .timeOut state.config.continueOnTimeout)) state
      (state.timeOut id).2 := by
  cases continues : state.config.continueOnTimeout with
  | true =>
      rw [timeOut_of_continue continues]
      have told := state.timed.appendsConnectionsOf_told id (.timeOut true)
      exact ⟨⟨told.alike.registry, told.alike.config, told.alike.carrier⟩, told.connections⟩
  | false =>
      have timedOut := waiting.timedOut_timeOut found
      have held := (waiting.waits _ _ (pending?_eq_some_iff.mp found).1).held
      have refused : (pending.told (.timeOut false)).pipeline.state = .terminated :=
        congrArg (·.1.state) (Pipeline.resume_false held pending.socket)
      rw [admittedBy_of_found found, admitted_of_ne (by rw [refused]; decide)]
      generalize state.timeOut id = result at timedOut
      cases timedOut with
      | continued goesOn _ => exact absurd (goesOn.symm.trans continues) (by decide)
      | closed _ _ _ => exact .none ⟨rfl, rfl, rfl⟩ rfl

private theorem Waiting.appendsConnectionsOf_timeOutAll (waiting : state.Waiting)
    {ids : List SocketId} (present : ∀ id ∈ ids, (state.pending? id).isSome)
    (distinct : (ids.map (·.slot)).Nodup) :
    AppendsConnectionsOf
      ((ids.map (·, .timeOut state.config.continueOnTimeout)).flatMap state.admittedBy) state
      (state.timeOutAll ids).2 := by
  have all := waiting.timeOutAll_rec (motive := fun state ids => ids.Nodup →
    AppendsConnectionsOf
      ((ids.map (·, .timeOut state.config.continueOnTimeout)).flatMap state.admittedBy) state
      (state.timeOutAll ids).2)
    ?_ ?_ present distinct
  · exact all (distinct.of_map _)
  · exact fun _ _ => .none ⟨rfl, rfl, rfl⟩ rfl
  · intro state first rest pending waiting found inductionHypothesis distinct
    rw [List.nodup_cons] at distinct
    have timedOut := waiting.timedOut_timeOut found
    have registry : (state.timeOut first).2.registry = state.registry :=
      registry_stepPending _ first _
    have others := inductionHypothesis distinct.2
    have same : ∀ id ∈ rest, (state.timeOut first).2.admittedBy
        (id, .timeOut state.config.continueOnTimeout) =
        state.admittedBy (id, .timeOut state.config.continueOnTimeout) := by
      intro id listed
      have different : id ≠ first := fun here => distinct.1 (here ▸ listed)
      unfold admittedBy admitted matchOf?
      rw [registry, timedOut.pending?_of_id_ne different]
    rw [timedOut.clock.1, List.flatMap_map, List.flatMap_congr same] at others
    have next := (waiting.appendsConnectionsOf_timeOut found).trans others
    rw [List.map_cons, List.flatMap_cons, List.flatMap_map]
    exact next

/-- After an operation there are the connections from before, which it may have changed, and behind
them those that the listener made of sockets, in order. -/
def GainsConnectionsOf (sockets : List Socket) (before after : ListenerState σ) : Prop :=
  ∃ earlier created, after.connections = earlier ++ created ∧
    earlier.map (·.id) = before.connections.map (·.id) ∧
    List.Forall₂ before.Makes (sockets.zipIdx (before.connections.length + 1)) created

private theorem AppendsConnectionsOf.gains {before after : ListenerState σ} {sockets : List Socket}
    (appends : AppendsConnectionsOf sockets before after) :
    GainsConnectionsOf sockets before after := by
  obtain ⟨created, connections, made⟩ := appends.connections
  exact ⟨before.connections, created, connections, rfl, made⟩

private theorem GainsConnectionsOf.none {before after : ListenerState σ}
    (same : after.connections.map (·.id) = before.connections.map (·.id)) :
    GainsConnectionsOf [] before after :=
  ⟨after.connections, [], (List.append_nil _).symm, same, .nil⟩

/-- To close or to open a socket makes no connection. -/
theorem Waiting.admittedBy_setOpen (waiting : state.Waiting) (id : SocketId) (isOpen : Bool) :
    state.admittedBy (id, .setOpen isOpen) = [] := by
  cases found : state.pending? id with
  | none =>
      unfold admittedBy
      rw [found]
      rfl
  | some pending =>
      have held := (waiting.waits _ _ (pending?_eq_some_iff.mp found).1).held
      rw [admittedBy_of_found found]
      refine admitted_of_ne fun passed => ?_
      exact absurd (held.symm.trans passed) (by decide)

/-- Connections are made of the admitted sockets, and of nothing else. -/
theorem Housed.gainsConnectionsOf_step (housed : state.Housed) (operation : Operation) :
    GainsConnectionsOf (state.admissions operation) state (state.step operation) := by
  have shelved {operation : Operation} (shelves : operation.shelves = true) :
      GainsConnectionsOf [] state (state.step operation) :=
    .none (state.view_of_shelves (fun connection => connection.close_id .noFlush) shelves)
  have one (id : SocketId) (drive : Drive) :
      GainsConnectionsOf ([(id, drive)].flatMap state.admittedBy) state
        (state.stepPending id fun pipeline socket => drive.apply (pipeline, socket)).2 := by
    rw [List.flatMap_singleton]
    exact (state.appendsConnectionsOf_told id drive).gains
  cases operation with
  | accept socket now =>
      show GainsConnectionsOf (state.admitted (state.arrival socket now)) state
        (state.accept socket now).2
      rw [accept_eq]
      split
      · rename_i waits
        rw [admitted_of_ne (by rw [waits]; decide)]
        exact .none rfl
      · exact (state.taken.appendsConnectionsOf_finish (state.arrival socket now)).gains
  | data id bytes => exact one id (.data bytes)
  | resume id success => exact one id (.resume success)
  | poll now =>
      obtain ⟨present, distinct⟩ := housed.waiting.expired_present now
      exact (housed.waiting.appendsConnectionsOf_timeOutAll present distinct).gains
  | setOpen id isOpen =>
      show GainsConnectionsOf ([(id, .setOpen isOpen)].flatMap state.admittedBy) state
        (state.setOpen id isOpen)
      rw [List.flatMap_singleton, housed.waiting.admittedBy_setOpen]
      unfold setOpen
      split
      · exact .none rfl
      · exact .none rfl
  | shutdown => exact .none (state.view_shutdown fun connection => connection.close_id .noFlush)
  | clear => exact .none (state.view_clearParked Connection.destroy_id)
  | _ => exact shelved rfl

/-! ## Closed sockets -/

/-- A closed socket gets through: the filter that holds it is passed over, and was the last one. -/
structure Slips (state : ListenerState σ) (id : SocketId) (drive : Drive)
    (pending : PendingSocket σ) : Prop where
  found : state.pending? id = some pending
  overlooks : drive.Overlooks pending.pipeline pending.socket
  last : pending.pipeline.filters.length ≤ pending.pipeline.cursor + 1
  matched : (state.matchOf? pending.socket).isSome = true

/-- An operation makes a connection of a closed socket. -/
def AdmitsClosed (state : ListenerState σ) : Operation → Prop
  | .accept socket _ =>
      state.config.filters = [] ∧ socket.isOpen = false ∧ (state.matchOf? socket).isSome = true
  | operation => ∃ address ∈ state.addressed operation, ∃ pending,
      state.Slips address.1 address.2 pending

private theorem closed_admitted_told {pending : PendingSocket σ} :
    (∃ socket ∈ state.admitted pending, socket.isOpen = false) ↔
      (pending.pipeline.state = .completed ∧ pending.socket.isOpen = false) ∧
        (state.matchOf? pending.socket).isSome = true := by
  unfold admitted
  split
  · rename_i both
    simp [both.1, both.2]
  · rename_i stopped
    simp only [List.not_mem_nil, false_and, exists_false, false_iff]
    exact fun closed => stopped ⟨closed.1.1, closed.2⟩

private theorem Waiting.closed_admittedBy_iff (waiting : state.Waiting)
    (address : SocketId × Drive) :
    (∃ socket ∈ state.admittedBy address, socket.isOpen = false) ↔
      ∃ pending, state.Slips address.1 address.2 pending := by
  obtain ⟨id, drive⟩ := address
  cases found : state.pending? id with
  | none =>
      unfold admittedBy
      rw [found]
      refine iff_of_false (fun some => absurd some.choose_spec.1 List.not_mem_nil) ?_
      rintro ⟨pending, slips⟩
      exact absurd (slips.found.symm.trans found) nofun
  | some pending =>
      have waits := waiting.waits _ _ (pending?_eq_some_iff.mp found).1
      have moves := waits.stopped.moves pending.socket drive
      have fresh : pending.pipeline.state ≠ .completed := by
        rw [waits.held]
        decide
      have through := moves.closed_completed_iff
      rw [and_iff_right fresh] at through
      rw [admittedBy_of_found found, closed_admitted_told]
      constructor
      · rintro ⟨completed, matched⟩
        obtain ⟨overlooks, last⟩ := through.mp completed
        unfold PendingSocket.told PendingSocket.stepped at matched
        dsimp only at matched
        rw [overlooks.apply_of_last last] at matched
        exact ⟨pending, found, overlooks, last, matched⟩
      · rintro ⟨other, slips⟩
        obtain rfl := Option.some.inj (found.symm.trans slips.found)
        refine ⟨through.mpr ⟨slips.overlooks, slips.last⟩, ?_⟩
        unfold PendingSocket.told PendingSocket.stepped
        dsimp only
        rw [slips.overlooks.apply_of_last slips.last]
        exact slips.matched

/-- Where there are no filters, a socket is as it came. -/
theorem arrival_socket (none : state.config.filters = []) (socket : Socket) (now : Nat) :
    (state.arrival socket now).socket = socket := by
  have runs : (Pipeline.new state.config.filters).Runs socket [] _ :=
    .through (by rw [none]; rfl)
  exact congrArg (·.2) runs.eq

private theorem closed_accepted_iff (state : ListenerState σ) (socket : Socket) (now : Nat) :
    (∃ admitted ∈ state.admitted (state.arrival socket now), admitted.isOpen = false) ↔
      state.AdmitsClosed (.accept socket now) := by
  have through := (overseen_driven state.config.filters socket [] (.data [])).through_start
  rw [closed_admitted_told]
  constructor
  · rintro ⟨completed, matched⟩
    obtain ⟨closed, none⟩ := through.mp completed
    rw [state.arrival_socket none] at matched
    exact ⟨none, closed, matched⟩
  · rintro ⟨none, closed, matched⟩
    refine ⟨through.mpr ⟨closed, none⟩, ?_⟩
    rw [state.arrival_socket none]
    exact matched

private theorem Waiting.closed_admissions_iff (waiting : state.Waiting) (operation : Operation) :
    (∃ socket ∈ state.admissions operation, socket.isOpen = false) ↔
      state.AdmitsClosed operation := by
  have addressed : (∃ socket ∈ (state.addressed operation).flatMap state.admittedBy,
      socket.isOpen = false) ↔ ∃ address ∈ state.addressed operation, ∃ pending,
        state.Slips address.1 address.2 pending := by
    simp only [← waiting.closed_admittedBy_iff, List.mem_flatMap]
    constructor
    · rintro ⟨socket, ⟨address, listed, there⟩, closed⟩
      exact ⟨address, listed, socket, there, closed⟩
    · rintro ⟨address, listed, socket, there, closed⟩
      exact ⟨socket, ⟨address, listed, there⟩, closed⟩
  cases operation with
  | accept socket now => exact state.closed_accepted_iff socket now
  | _ => exact addressed

/-! ## Runs in which only filters close sockets -/

/-- Every socket in listener filters is open. -/
def AllOpen (state : ListenerState σ) : Prop :=
  ∀ id pending, state.pending? id = some pending → pending.socket.isOpen = true

/-- A socket that a filter holds is open if it was before and is not closed from outside. -/
theorem open_of_told {pending : PendingSocket σ} (stopped : pending.pipeline.Stopped)
    (drive : Drive) (inside : drive ≠ .setOpen false) (opened : pending.socket.isOpen = true)
    (held : (pending.told drive).pipeline.state = .suspended) :
    (pending.told drive).socket.isOpen = true := by
  have told := (stopped.moves pending.socket drive).openUnlessTerminated (.inr opened) inside
  exact told.resolve_left fun ended => absurd (held.symm.trans ended) (by decide)

private theorem AllOpen.told (allOpen : state.AllOpen) (waiting : state.Waiting) (id : SocketId)
    (drive : Drive) (inside : drive ≠ .setOpen false)
    (after : (state.stepPending id fun pipeline socket => drive.apply (pipeline, socket)).2.Waiting) :
    (state.stepPending id fun pipeline socket => drive.apply (pipeline, socket)).2.AllOpen := by
  intro other later found
  have stepped := state.stepped_stepPending id fun pipeline socket => drive.apply (pipeline, socket)
  have held := (after.waits _ _ (pending?_eq_some_iff.mp found).1).held
  by_cases same : other = id
  · rw [same, stepped.pending?_self] at found
    split at found
    · obtain ⟨earlier, here, rfl⟩ := Option.map_eq_some_iff.mp found
      have stopped := (waiting.waits _ _ (pending?_eq_some_iff.mp here).1).stopped
      exact open_of_told stopped drive inside (allOpen id earlier here) held
    · cases found
  · rw [stepped.pending?_of_id_ne same] at found
    exact allOpen other later found

private theorem AllOpen.accept (allOpen : state.AllOpen) (waiting : state.Waiting) {socket : Socket}
    (opened : socket.isOpen = true) (now : Nat) (after : (state.accept socket now).2.Waiting) :
    (state.accept socket now).2.AllOpen := by
  intro id later found
  have held := (after.waits _ _ (pending?_eq_some_iff.mp found).1).held
  rw [(state.arrived_accept socket now).pending? waiting.slots rfl id] at found
  split at found
  · rw [← Option.some.inj found] at held ⊢
    have started :=
      ((Pipeline.new state.config.filters).runs_iterate socket).openUnlessTerminated opened
    exact started.resolve_left fun ended => absurd (held.symm.trans ended) (by decide)
  · exact allOpen id later found

private theorem AllOpen.pollTimeouts (allOpen : state.AllOpen) (waiting : state.Waiting) (now : Nat)
    (after : (state.pollTimeouts now).2.Waiting) : (state.pollTimeouts now).2.AllOpen := by
  intro id later found
  have held := (after.waits _ _ (pending?_eq_some_iff.mp found).1).held
  rw [waiting.pending?_pollTimeouts now id] at found
  obtain ⟨earlier, here, stays⟩ := Option.bind_eq_some_iff.mp found
  have opened := allOpen id earlier here
  unfold PendingSocket.polled at stays
  split at stays
  · rw [← Option.some.inj stays] at held ⊢
    have stopped := (waiting.waits _ _ (pending?_eq_some_iff.mp here).1).stopped
    exact open_of_told stopped (.resume true) nofun opened held
  · split at stays
    · cases stays
    · rw [← Option.some.inj stays]
      exact opened

private theorem AllOpen.setOpen (allOpen : state.AllOpen) (opened : SocketId) :
    (state.setOpen opened true).AllOpen := by
  intro id later found
  unfold ListenerState.setOpen at found
  split at found
  · obtain ⟨inSlot, same⟩ := pending?_eq_some_iff.mp found
    dsimp only at inSlot
    rw [Slab.get?_modify] at inSlot
    split at inSlot
    · obtain ⟨earlier, here, rfl⟩ := Option.map_eq_some_iff.mp inSlot
      rfl
    · exact allOpen id later (pending?_eq_some_iff.mpr ⟨inSlot, same⟩)
  · exact allOpen id later found

theorem AllOpen.step (allOpen : state.AllOpen) (housed : state.Housed)
    {operation : Operation} (inside : operation.leavesOpen = true)
    (after : (state.step operation).Waiting) :
    (state.step operation).AllOpen := by
  have still (same : (state.step operation).pending = state.pending) :
      (state.step operation).AllOpen := by
    intro id later found
    unfold ListenerState.pending? at found
    rw [same] at found
    exact allOpen id later found
  cases operation with
  | accept socket now => exact allOpen.accept housed.waiting inside now after
  | data id bytes => exact allOpen.told housed.waiting id (.data bytes) nofun after
  | resume id success => exact allOpen.told housed.waiting id (.resume success) nofun after
  | poll now => exact allOpen.pollTimeouts housed.waiting now after
  | setOpen changed isOpen =>
      obtain rfl : isOpen = true := inside
      exact allOpen.setOpen changed
  | shutdown =>
      intro id later found
      exact absurd (found.symm.trans (housed.pending?_shutdown id)) nofun
  | clear => exact still (housed.pending_step (.inr rfl))
  | _ => exact still (housed.pending_step (.inl rfl))

theorem allOpen_ran (config : ListenerConfig σ) (carrier : Carrier)
    {operations : List Operation} (inside : ∀ operation ∈ operations, operation.leavesOpen = true) :
    (ran config carrier operations).AllOpen := by
  induction operations using List.reverseRecOn with
  | nil => exact fun id pending found => absurd found nofun
  | append_singleton operations operation inductionHypothesis =>
      have before := inductionHypothesis fun operation listed =>
        inside operation (List.mem_append_left _ listed)
      have after := (housed_ran config carrier (operations ++ [operation])).waiting
      rw [ran_concat] at after ⊢
      exact before.step (housed_ran config carrier operations)
        (inside operation (List.mem_append_right _ List.mem_cons_self)) after

private theorem AllOpen.not_admitsClosed (allOpen : state.AllOpen) {operation : Operation}
    (inside : operation.leavesOpen = true) : ¬state.AdmitsClosed operation := by
  have opened : ¬∃ address ∈ state.addressed operation, ∃ pending,
      state.Slips address.1 address.2 pending := by
    rintro ⟨address, _, pending, slips⟩
    have closed := slips.overlooks.closed
    exact absurd (closed.symm.trans (allOpen _ pending slips.found)) (by decide)
  cases operation with
  | accept socket now => exact fun closed => absurd (closed.2.1.symm.trans inside) (by decide)
  | _ => exact opened

/-- What becomes of a socket that was closed. A filter is reached with a closed socket, and a pipeline
is through with one, in two ways only. The socket comes closed: then the first filter is reached all
the same, or there is none. Or the filter that holds the pipeline is passed over, resumed or out of
time, while its socket is closed: then the next filter is reached all the same, or it was the last
one. A listener makes connections of the admitted sockets, in order, and of nothing else: each is that
of the chain which the listener finds for its socket, under the next number. It admits closed sockets
in just these two ways, provided that a chain matches them. Where no socket comes closed or is closed
from outside, the filters may close what they like: no filter is reached with a closed socket, and
none is admitted. -/
theorem closed_admitted_iff (filters : List (ListenerFilter σ)) (socket : Socket)
    (drives : List Drive) (drive : Drive) (config : ListenerConfig σ) (carrier : Carrier)
    (operations : List Operation) (operation : Operation) :
    let before := ran config carrier operations
    Overseen filters socket drives drive ∧
      GainsConnectionsOf (before.admissions operation) before
        (ran config carrier (operations ++ [operation])) ∧
      ((∃ admitted ∈ before.admissions operation, admitted.isOpen = false) ↔
        before.AdmitsClosed operation) ∧
      ((∀ earlier ∈ operations ++ [operation], earlier.leavesOpen = true) →
        ¬before.AdmitsClosed operation) := by
  intro before
  have housed := housed_ran config carrier operations
  refine ⟨overseen_driven filters socket drives drive, ?_,
    housed.waiting.closed_admissions_iff operation, ?_⟩
  · rw [ran_concat]
    exact housed.gainsConnectionsOf_step operation
  · intro inside
    have allOpen := allOpen_ran config carrier fun operation listed =>
      inside operation (List.mem_append_left _ listed)
    exact allOpen.not_admitsClosed (inside operation (List.mem_append_right _ List.mem_cons_self))

/-- A listener with one filter, which waits for bytes. -/
def attentive : ListenerConfig Nat :=
  { (ListenerConfig.new "listener" (.internal "here") : ListenerConfig Nat) with
    filters := [.plain "first"] }

/-- A socket is closed while the only filter holds it, and that filter is resumed with success: the
pipeline is through and there is a live connection. With two filters the second one is reached. -/
theorem closed_gets_through :
    let socket := Socket.between (.internal "here") (.internal "there")
    let held := ran attentive .recorded
      [.apply [answering .anything] (BuildScript.builder ⟨none, false, []⟩), .accept socket 0,
        .setOpen ⟨0, 1⟩ false]
    let lone : List (ListenerFilter Nat) := [.plain "first"]
    let pair : List (ListenerFilter Nat) := [.plain "first", .plain "second"]
    ((held.pending? ⟨0, 1⟩).map (·.socket.isOpen) = some false ∧ held.connections = [] ∧
        (held.continueSocket ⟨0, 1⟩ true).2.connections.map (·.state) = [.live]) ∧
      ((driven lone socket [.setOpen false, .resume true]).1.state = .completed ∧
        (driven lone socket [.setOpen false, .resume true]).2.isOpen = false) ∧
      (history pair socket [.setOpen false, .resume true]).any (·.reachesClosed) = true := by
  decide +kernel

end ListenerState

end Admission.Listener
