import Admission.Proofs.Listener.Naming
import Admission.Proofs.Listener.Progress
import Admission.Proofs.Server.Run

/-!
Contract: which bytes of a socket in listener filters the server waits for.

A watch goes off once the stream holds more bytes than the watch has seen. What the filter that holds
the socket has been given is told from the turns alone, and compared with that.

Owns:
- `Handing`, `given` and `lapses`, what happened to a socket in the listener filters;
- `Observed`, how the watch on a socket stands to what happened to it, and `Watching`, the same for a
  server, kept by every turn;
- `reported_exactly`, which bytes a filter is sure to get, and `bytes_withheld`, some that it is not.
-/

namespace Admission.Server

open Admission.Chain Admission.Listener Admission.Config

/-- Bytes that a listener filter was handed: which filter of its socket it is, and how many. -/
structure Handing where
  position : Nat
  count : Nat
  deriving DecidableEq

/-- How many bytes were handed last, to whichever filter. -/
def lastCount (handed : List Handing) : Nat :=
  (handed.getLast?.map (·.count)).getD 0

/-- How many bytes the filter of a position has been given. Each handing begins with the first byte of
the stream. -/
def given (handed : List Handing) (position : Nat) : Nat :=
  ((handed.filter (·.position = position)).map (·.count)).max?.getD 0

@[simp] theorem lastCount_concat (handed : List Handing) (last : Handing) :
    lastCount (handed ++ [last]) = last.count := by
  unfold lastCount
  rw [List.getLast?_concat]
  rfl

private theorem count_le_given {handed : List Handing} {handing : Handing}
    (listed : handing ∈ handed) :
    handing.count ≤ given handed handing.position := by
  have among : handing.count ∈ (handed.filter (·.position = handing.position)).map (·.count) :=
    List.mem_map_of_mem (List.mem_filter.mpr ⟨listed, decide_eq_true rfl⟩)
  exact List.le_max?_getD_of_mem among

private theorem given_of_forall_ne {handed : List Handing} {position : Nat}
    (others : ∀ handing ∈ handed, handing.position ≠ position) : given handed position = 0 := by
  unfold given
  rw [List.filter_eq_nil_iff.mpr fun handing listed => by simpa using others handing listed]
  rfl

/-- While filters are passed in order, the last bytes were not too many for the filter at the cursor
only if they were handed to it. -/
theorem lastCount_le_given_iff {handed : List Handing} {cursor : Nat}
    (ordered : (handed.map (·.position) ++ [cursor]).Pairwise (· ≤ ·)) :
    lastCount handed ≤ given handed cursor ↔
      ∀ last ∈ handed.getLast?, last.position = cursor ∨ last.count = 0 := by
  induction handed using List.reverseRecOn with
  | nil => simp [lastCount]
  | append_singleton earlier last _ =>
      rw [lastCount_concat, List.getLast?_concat]
      constructor
      · rintro enough _ ⟨⟩
        by_cases here : last.position = cursor
        · exact .inl here
        · -- No earlier filter is further on than the last one.
          have before : ∀ handing ∈ earlier ++ [last], handing.position ≠ cursor := by
            intro handing listed same
            rw [List.map_append, List.append_assoc] at ordered
            obtain ⟨_, ends, ascend⟩ := List.pairwise_append.mp ordered
            have reached : last.position ≤ cursor :=
              (List.pairwise_cons.mp ends).1 cursor (List.mem_singleton_self _)
            rcases List.mem_append.mp listed with early | late
            · have upTo : handing.position ≤ last.position :=
                ascend handing.position (List.mem_map_of_mem early) last.position List.mem_cons_self
              omega
            · rw [List.mem_singleton.mp late] at same
              exact here same
          rw [given_of_forall_ne before] at enough
          exact .inr (Nat.le_zero.mp enough)
      · intro told
        rcases told last rfl with here | none
        · rw [← here]
          exact count_le_given (List.mem_append_right _ (List.mem_singleton_self _))
        · rw [none]
          exact Nat.zero_le _

/-! ## One socket -/

/-- The watch on a socket, if it is in listener filters and has had time so far, has seen what was
handed to it last; and it was handed to filters in their order. -/
structure Observed (watch : Option Watch) (pending : Option (PendingSocket Unit))
    (handed : List Handing) (lapsed : Bool) : Prop where
  watched : watch = pending.bind fun socket =>
    if lapsed then none
    else socket.socket.stream.map fun stream => ⟨stream, lastCount handed⟩
  ordered : ∀ socket ∈ pending,
    (handed.map (·.position) ++ [socket.pipeline.cursor]).Pairwise (· ≤ ·)
  passed : ∀ socket ∈ pending, lapsed = true → 0 < socket.pipeline.cursor

namespace Observed

variable {watch : Option Watch} {earlier later : PendingSocket Unit} {handed : List Handing}
  {lapsed : Bool}

private theorem gone (handed : List Handing) (lapsed : Bool) :
    Observed none none handed lapsed where
  watched := rfl
  ordered := fun _ none => absurd none (Option.not_mem_none _)
  passed := fun _ none => absurd none (Option.not_mem_none _)

private theorem arrived (pending : PendingSocket Unit) :
    Observed (pending.socket.stream.map (⟨·, 0⟩)) (some pending) [] false where
  watched := rfl
  ordered := fun _ _ => List.pairwise_singleton _ _
  passed := fun _ _ late => absurd late (by decide)

/-- The filters stay in order while the socket gets on. -/
theorem ordered_of_le {cursor next : Nat} (onward : cursor ≤ next)
    (ordered : (handed.map (·.position) ++ [cursor]).Pairwise (· ≤ ·)) :
    (handed.map (·.position) ++ [cursor] ++ [next]).Pairwise (· ≤ ·) := by
  refine List.pairwise_append.mpr ⟨ordered, List.pairwise_singleton _ _, ?_⟩
  intro position listed other here
  rw [List.mem_singleton.mp here]
  rcases List.mem_append.mp listed with before | last
  · have upTo := (List.pairwise_append.mp ordered).2.2 position before cursor
      (List.mem_singleton_self _)
    exact Nat.le_trans upTo onward
  · rw [List.mem_singleton.mp last]
    exact onward

private theorem fed (observed : Observed watch (some earlier) handed lapsed)
    (advanced : earlier.Advanced 0 later) (count : Nat) :
    Observed (watch.map ({ · with seen := count })) (some later)
      (handed ++ [⟨earlier.pipeline.cursor, count⟩]) lapsed where
  watched := by
    rw [observed.watched, Option.bind_some, Option.bind_some, lastCount_concat, advanced.stream]
    split
    · rfl
    · rw [Option.map_map]
      rfl
  ordered := by
    rintro _ ⟨⟩
    rw [List.map_append]
    exact ordered_of_le advanced.cursor (observed.ordered earlier rfl)
  passed := by
    rintro _ ⟨⟩ late
    exact Nat.lt_of_lt_of_le (observed.passed earlier rfl late) advanced.cursor

private theorem lapse (observed : Observed watch (some earlier) handed lapsed)
    (advanced : earlier.Advanced 1 later) : Observed none (some later) handed true where
  watched := rfl
  ordered := by
    rintro _ ⟨⟩
    have onward : earlier.pipeline.cursor ≤ later.pipeline.cursor :=
      Nat.le_of_succ_le advanced.cursor
    refine (ordered_of_le onward (observed.ordered earlier rfl)).sublist ?_
    rw [List.append_assoc]
    exact (List.sublist_append_right _ _).append_left _
  passed := by
    rintro _ ⟨⟩ _
    exact Nat.lt_of_lt_of_le (Nat.succ_pos _) advanced.cursor

/-- The watch on a socket is on its stream and has seen what was handed over last. -/
theorem of_watch {there : Watch} (observed : Observed (some there) (some earlier) handed lapsed) :
    earlier.socket.stream = some there.stream ∧ there.seen = lastCount handed := by
  have watched := observed.watched
  rw [Option.bind_some] at watched
  split at watched
  · cases watched
  · obtain ⟨stream, streamed, rfl⟩ := Option.map_eq_some_iff.mp watched.symm
    exact ⟨streamed, rfl⟩

private theorem reported_iff (observed : Observed watch (some earlier) handed lapsed) :
    (∃ there, watch = some there ∧ there.seen ≤ given handed earlier.pipeline.cursor) ↔
      earlier.socket.stream.isSome ∧ lapsed = false ∧
        ∀ last ∈ handed.getLast?, last.position = earlier.pipeline.cursor ∨ last.count = 0 := by
  have watched := observed.watched
  rw [Option.bind_some] at watched
  rw [← lastCount_le_given_iff (observed.ordered earlier rfl), watched]
  constructor
  · rintro ⟨there, found, enough⟩
    split at found
    · cases found
    · rename_i inTime
      obtain ⟨stream, streamed, rfl⟩ := Option.map_eq_some_iff.mp found
      exact ⟨Option.isSome_of_eq_some streamed, eq_false_of_ne_true inTime, enough⟩
  · rintro ⟨streamed, inTime, enough⟩
    obtain ⟨stream, streamed⟩ := Option.isSome_iff_exists.mp streamed
    refine ⟨⟨stream, lastCount handed⟩, ?_, enough⟩
    rw [if_neg (by rw [inTime]; exact Bool.false_ne_true), streamed]
    rfl

/-- The first filter that holds a socket has been handed all that was handed over. -/
theorem at_first (observed : Observed watch (some earlier) handed lapsed)
    (first : earlier.pipeline.cursor = 0) :
    lapsed = false ∧ ∀ last ∈ handed.getLast?, last.position = earlier.pipeline.cursor := by
  refine ⟨eq_false_of_ne_true fun late => ?_, ?_⟩
  · have passed := observed.passed earlier rfl late
    omega
  · intro last listed
    have among : last.position ∈ handed.map (·.position) :=
      List.mem_map_of_mem (List.mem_of_getLast? listed)
    have upTo : last.position ≤ earlier.pipeline.cursor :=
      (List.pairwise_append.mp (observed.ordered earlier rfl)).2.2 last.position among _
        (List.mem_singleton_self _)
    omega

end Observed

namespace ServerState

/-- What a turn hands to the filter that holds a socket. -/
def handings (id : SocketId) (server : ServerState) (turn : Turn) : List Handing :=
  match turn.event with
  | .peeked other data =>
      if other = id then
        (server.core.pending? id).toList.map fun pending => ⟨pending.pipeline.cursor, data.length⟩
      else []
  | _ => []

/-- The sockets that run out of time in a turn. -/
def lapses (server : ServerState) (turn : Turn) : List SocketId :=
  match turn.event with
  | .deadline => server.core.expired turn.now
  | _ => []

/-- The watch on a socket goes off as soon as the stream holds more bytes than the filter that holds
the socket has been given. -/
def Reported (server : ServerState) (turns : List Turn) (id : SocketId)
    (pending : PendingSocket Unit) : Prop :=
  ∃ watch, (server.run turns).watches.get? id = some watch ∧
    watch.seen ≤ given (server.collect (handings id) turns) pending.pipeline.cursor

/-- Every watch of a server stands to its socket as what happened so far says. -/
structure Watching (server : ServerState) (handed : SocketId → List Handing)
    (lapsed : List SocketId) : Prop where
  distinct : server.watches.Distinct
  sockets : ∀ id, Observed (server.watches.get? id) (server.core.pending? id) (handed id)
    (decide (id ∈ lapsed))
  unused : ∀ id, server.core.nextSerial ≤ id.serial → handed id = [] ∧ id ∉ lapsed

/-! ## The watches after an event -/

section Accepted

variable (server : ServerState) (socket : Socket) (now : Nat)

private theorem distinct_onAccept (distinct : server.watches.Distinct) :
    (server.onAccept socket now).watches.Distinct := by
  unfold onAccept
  dsimp only
  split
  · exact distinct.insert _ _
  · rw [watches_track]
    exact distinct

private theorem watches_onAccept
    (unwatched : server.watches.get? (server.core.arrival socket now).id = none) (id : SocketId) :
    let new := server.core.arrival socket now
    (server.onAccept socket now).watches.get? id =
      if id = new.id ∧ (server.core.accept socket now).1 = .pending new.id then
        new.socket.stream.map (⟨·, 0⟩)
      else server.watches.get? id := by
  have arrived := server.core.arrived_accept socket now
  unfold onAccept
  dsimp only
  split
  · rename_i fresh stream waits streamed
    obtain ⟨rfl, held⟩ := arrived.held_of_pending waits
    rw [Table.get?_insert, waits, ListenerState.stream_arrival held, streamed]
    by_cases same : id = (server.core.arrival socket now).id
    · rw [if_pos same, if_pos ⟨same, rfl⟩]
      rfl
    · rw [if_neg same, if_neg fun both => same both.1]
  · rename_i unstreamed
    rw [watches_track]
    split
    · rename_i here
      obtain ⟨rfl, waits⟩ := here
      have streamless : socket.stream = none := by
        cases streamed : socket.stream with
        | none => rfl
        | some stream => exact absurd streamed (unstreamed _ _ waits)
      rw [unwatched, ListenerState.stream_arrival (arrived.held_of_pending waits).2, streamless]
      rfl
    · rfl

end Accepted

section Peeked

variable (server : ServerState) (id : SocketId) (data : List UInt8)

private theorem distinct_onPeek (distinct : server.watches.Distinct) :
    (server.onPeek id data).watches.Distinct := by
  have erased := distinct.erase id
  unfold onPeek
  dsimp only
  split
  · exact erased.insert _ _
  · exact erased
  · rw [watches_track]
    exact erased

/-- A socket that the data did not move on is watched again, behind what the data held. -/
theorem watches_onPeek (other : SocketId) :
    (server.onPeek id data).watches.get? other =
      if other = id then
        if (server.core.onSocketData id data).1 = .pending id then
          (server.watches.get? id).map ({ · with seen := data.length })
        else none
      else server.watches.get? other := by
  have stepped : ListenerState.Stepped server.core id
      (fun pipeline socket => pipeline.onData socket data) (server.core.onSocketData id data) :=
    server.core.stepped_stepPending id _
  unfold onPeek
  dsimp only
  split
  · rename_i there watch waits found
    obtain ⟨rfl, _⟩ := stepped.held_of_pending waits
    rw [Table.get?_insert, Table.get?_erase, if_pos waits, found]
    split <;> rfl
  · rename_i there waits found
    obtain ⟨rfl, _⟩ := stepped.held_of_pending waits
    rw [Table.get?_erase, if_pos waits, found]
    rfl
  · rename_i watched unwatched
    have moved : (server.core.onSocketData id data).1 ≠ .pending id := by
      intro waits
      cases found : server.watches.get? id with
      | none => exact unwatched id waits found
      | some watch => exact watched id watch waits found
    rw [watches_track, Table.get?_erase, if_neg moved]

end Peeked

section Expires

variable (server : ServerState) (results : List (SocketId × SocketOutcome))

private theorem watches_expires (id : SocketId) :
    (results.foldl expire server).watches.get? id =
      if id ∈ results.map (·.1) then none else server.watches.get? id := by
  induction results generalizing server with
  | nil => rfl
  | cons result rest inductionHypothesis =>
      have first : (expire server result).watches.get? id =
          if id = result.1 then none else server.watches.get? id := by
        unfold expire
        rw [watches_track]
        exact Table.get?_erase _ _ _
      rw [List.foldl_cons, inductionHypothesis, first, List.map_cons]
      by_cases later : id ∈ rest.map (·.1)
      · rw [if_pos later, if_pos (List.mem_cons_of_mem _ later)]
      · rw [if_neg later]
        simp only [List.mem_cons, later, or_false]

private theorem distinct_expires (distinct : server.watches.Distinct) :
    (results.foldl expire server).watches.Distinct := by
  induction results generalizing server with
  | nil => exact distinct
  | cons result rest inductionHypothesis =>
      refine inductionHypothesis (expire server result) ?_
      unfold expire
      rw [watches_track]
      exact distinct.erase result.1

end Expires

section Turns

variable {server : ServerState} {handed : SocketId → List Handing} {lapsed : List SocketId}
  (watching : Watching server handed lapsed)

include watching

private theorem Watching.quiet {after : ServerState} (watches : after.watches = server.watches)
    (pending : after.core.pending = server.core.pending)
    (serials : server.core.nextSerial ≤ after.core.nextSerial) : Watching after handed lapsed where
  distinct := by
    rw [watches]
    exact watching.distinct
  sockets := by
    intro id
    have same : after.core.pending? id = server.core.pending? id := by
      unfold ListenerState.pending?
      rw [pending]
    rw [watches, same]
    exact watching.sockets id
  unused := fun id later => watching.unused id (Nat.le_trans serials later)

variable (reachable : server.core.Reachable)

include reachable

/-- A server whose listener was told of chains and connections only. -/
theorem Watching.still {after : ServerState} (operation : Operation)
    (still : operation.shelves = true ∨ operation = .clear)
    (watches : after.watches = server.watches)
    (core : after.core = server.core.step operation) : Watching after handed lapsed := by
  refine watching.quiet watches ?_ ?_
  · rw [core]
    exact reachable.housed.pending_step still
  · rw [core]
    exact reachable.housed.serials_step operation

private theorem Watching.onAccept (socket : Socket) (now : Nat) :
    Watching (server.onAccept socket now) handed lapsed := by
  have slots := reachable.housed.waiting.slots
  have arrived := server.core.arrived_accept socket now
  have serials := reachable.housed.serials_step (.accept socket now)
  let new := server.core.arrival socket now
  have absent : server.core.pending? new.id = none := by
    unfold ListenerState.pending?
    rw [show new.id.slot = server.core.pending.vacant from rfl, slots.get?_vacant]
    rfl
  have unwatched : server.watches.get? new.id = none := by
    rw [(watching.sockets new.id).watched, absent]
    rfl
  refine ⟨server.distinct_onAccept socket now watching.distinct, ?_, ?_⟩
  · intro id
    have pending := arrived.pending? slots rfl id
    rw [core_onAccept, server.watches_onAccept socket now unwatched]
    rw [show (server.core.step (.accept socket now)).pending? id = _ from pending]
    split
    · rename_i here
      obtain ⟨none, inTime⟩ := watching.unused id (by rw [here.1]; exact Nat.le_refl _)
      rw [none, decide_eq_false inTime]
      exact Observed.arrived new
    · exact watching.sockets id
  · intro id later
    rw [core_onAccept] at later
    exact watching.unused id (Nat.le_trans serials later)

omit watching in
/-- What is handed in a turn goes to a socket that is there. -/
theorem handings_unused {turn : Turn} {id : SocketId}
    (later : server.core.nextSerial ≤ id.serial) : server.handings id turn = [] := by
  have absent : server.core.pending? id = none := by
    rw [Option.eq_none_iff_forall_not_mem]
    intro pending found
    exact absurd (reachable.numbered.socket_lt found) (Nat.not_lt_of_le later)
  unfold handings
  rw [absent]
  split
  · split <;> rfl
  · rfl

private theorem Watching.onPeek (now : Nat) (id : SocketId) (data : List UInt8) :
    Watching (server.onPeek id data)
      (fun other => handed other ++ server.handings other ⟨now, .peeked id data⟩) lapsed := by
  have housed := reachable.housed
  have waitingAfter := (reachable.step (.data id data)).housed.waiting
  have serials := housed.serials_step (.data id data)
  have stepped : ListenerState.Stepped server.core id
      (fun pipeline socket => pipeline.onData socket data) (server.core.onSocketData id data) :=
    server.core.stepped_stepPending id _
  refine ⟨server.distinct_onPeek id data watching.distinct, ?_, ?_⟩
  · intro other
    rw [core_onPeek, watches_onPeek]
    by_cases same : other = id
    · rw [if_pos same, same]
      by_cases waits : (server.core.onSocketData id data).1 = .pending id
      · obtain ⟨_, earlier, before, after⟩ := stepped.held_of_pending waits
        have held := (waitingAfter.waits id.slot _
          (ListenerState.pending?_eq_some_iff.mp after).1).held
        have onward := earlier.pipeline.onward_onData earlier.socket data
        have observed := watching.sockets id
        rw [before] at observed
        have handing : server.handings id ⟨now, .peeked id data⟩ =
            [⟨earlier.pipeline.cursor, data.length⟩] := by
          unfold handings
          dsimp only
          rw [if_pos rfl, before]
          rfl
        rw [if_pos waits, handing,
          show (server.core.step (.data id data)).pending? id = _ from after]
        exact observed.fed ⟨onward.cursor, onward.stream held⟩ data.length
      · have gone := stepped.pending?_self
        rw [if_neg waits] at gone
        rw [if_neg waits, show (server.core.step (.data id data)).pending? id = none from gone]
        exact Observed.gone _ _
    · have none : server.handings other ⟨now, .peeked id data⟩ = [] := by
        unfold handings
        dsimp only
        rw [if_neg (Ne.symm same)]
      rw [if_neg same, none, List.append_nil,
        show (server.core.step (.data id data)).pending? other = _ from
          stepped.pending?_of_id_ne same]
      exact watching.sockets other
  · intro other later
    rw [core_onPeek] at later
    have earlier := Nat.le_trans serials later
    have unused := watching.unused other earlier
    rw [handings_unused reachable earlier, List.append_nil]
    exact unused

private theorem Watching.onPeerClosed (id : SocketId) :
    Watching (server.onPeerClosed id) handed lapsed := by
  have housed := reachable.housed
  have serials := housed.serials_step (.resume id false)
  have stepped : ListenerState.Stepped server.core id
      (fun pipeline socket => pipeline.resume socket false) (server.core.continueSocket id false) :=
    server.core.stepped_stepPending id _
  refine ⟨watching.distinct.erase id, ?_, fun other later =>
    watching.unused other (Nat.le_trans serials later)⟩
  intro other
  show Observed ((server.watches.erase id).get? other)
    ((server.core.continueSocket id false).2.pending? other) (handed other) _
  rw [Table.get?_erase]
  by_cases same : other = id
  · have moved : (server.core.continueSocket id false).1 ≠ .pending id := by
      rcases housed.waiting.resume_false_cases id with unknown | closed
      · rw [unknown]
        nofun
      · rw [closed]
        nofun
    rw [if_pos same, same, stepped.pending?_self, if_neg moved]
    exact Observed.gone _ _
  · rw [if_neg same, stepped.pending?_of_id_ne same]
    exact watching.sockets other

private theorem Watching.onDeadline (now : Nat) :
    Watching (server.onDeadline now) handed (lapsed ++ server.core.expired now) := by
  have housed := reachable.housed
  have serials := housed.serials_step (.poll now)
  have polled := housed.waiting.polled_pollTimeouts now
  obtain ⟨present, slots⟩ := housed.waiting.expired_present now
  refine ⟨?_, ?_, ?_⟩
  · rw [onDeadline_eq]
    exact distinct_expires { server with core := (server.core.pollTimeouts now).2 } _
      watching.distinct
  · intro id
    rw [core_onDeadline, onDeadline_eq, watches_expires, polled.ids_eq]
    show Observed _ ((server.core.pollTimeouts now).2.pending? id) _ _
    by_cases late : id ∈ server.core.expired now
    · rw [if_pos late, decide_eq_true (List.mem_append_right lapsed late)]
      cases found : (server.core.pollTimeouts now).2.pending? id with
      | none => exact Observed.gone _ _
      | some later =>
          obtain ⟨earlier, before, advanced⟩ :=
            polled.advanced housed.waiting (slots.of_map _) late found
          have observed := watching.sockets id
          rw [before] at observed
          exact observed.lapse advanced
    · have same : decide (id ∈ lapsed ++ server.core.expired now) = decide (id ∈ lapsed) := by
        simp only [List.mem_append, late, or_false]
      rw [if_neg late, same, polled.pending?_of_not_mem late]
      exact watching.sockets id
  · intro id later
    rw [core_onDeadline] at later
    have earlier := Nat.le_trans serials later
    obtain ⟨none, inTime⟩ := watching.unused id earlier
    refine ⟨none, ?_⟩
    rw [List.mem_append, not_or]
    refine ⟨inTime, ?_⟩
    intro late
    obtain ⟨pending, found⟩ := Option.isSome_iff_exists.mp (present id late)
    exact absurd (reachable.numbered.socket_lt found) (Nat.not_lt_of_le earlier)

private theorem Watching.onReport (connection : Nat) (event : ConnectionEvent) :
    Watching (server.onReport connection event) handed lapsed := by
  rcases server.onReport_cases connection event with same | ⟨ended, _, reported⟩
  · rw [same]
    exact watching
  · rw [reported]
    exact watching.still reachable (.remove ended) (.inl rfl) rfl rfl

private theorem Watching.reload (contents : Option (List UInt8)) :
    Watching (server.reload contents).2 handed lapsed := by
  obtain ⟨digest, same | ⟨file, applied⟩⟩ := server.reload_cases contents
  · rw [same]
    exact watching.quiet rfl rfl (Nat.le_refl _)
  · rw [applied]
    exact watching.still reachable _ (.inl rfl) (watches_applyFile _ file) (core_applyFile _ file)

private theorem Watching.endTurn : Watching server.endTurn handed lapsed := by
  have dispatched : Watching { server with core := server.core.step .dispatch } handed lapsed :=
    watching.still reachable .dispatch (.inl rfl) rfl rfl
  exact dispatched.still (reachable.step .dispatch) .clear (.inr rfl) server.watches_endTurn
    server.core_endTurn

/-- A turn adds to what happened to sockets, and the watches follow. -/
theorem Watching.step (turn : Turn) :
    Watching (server.step turn) (fun id => handed id ++ server.handings id turn)
      (lapsed ++ server.lapses turn) := by
  obtain ⟨now, event⟩ := turn
  have handled : Watching (server.handle now event)
      (fun id => handed id ++ server.handings id ⟨now, event⟩)
      (lapsed ++ server.lapses ⟨now, event⟩) := by
    have unchanged {event : LoopEvent} (after : Watching (server.handle now event) handed lapsed)
        (none : ∀ id, server.handings id ⟨now, event⟩ = [])
        (inTime : server.lapses ⟨now, event⟩ = []) :
        Watching (server.handle now event)
          (fun id => handed id ++ server.handings id ⟨now, event⟩)
          (lapsed ++ server.lapses ⟨now, event⟩) := by
      have same : (fun id => handed id ++ server.handings id ⟨now, event⟩) = handed := by
        funext id
        rw [none, List.append_nil]
      rw [same, inTime, List.append_nil]
      exact after
    cases event with
    | accepted socket => exact unchanged (watching.onAccept reachable socket now) (fun _ => rfl) rfl
    | peeked id data =>
        rw [show server.lapses ⟨now, .peeked id data⟩ = [] from rfl, List.append_nil]
        exact watching.onPeek reachable now id data
    | peerClosed id => exact unchanged (watching.onPeerClosed reachable id) (fun _ => rfl) rfl
    | reported connection event =>
        exact unchanged (watching.onReport reachable connection event) (fun _ => rfl) rfl
    | deadline =>
        have same : (fun id => handed id ++ server.handings id ⟨now, .deadline⟩) = handed :=
          funext fun id => List.append_nil _
        rw [same]
        exact watching.onDeadline reachable now
    | fileSeen contents => exact unchanged (watching.reload reachable contents) (fun _ => rfl) rfl
  exact handled.endTurn (reachable_handle reachable now event)

end Turns

/-! ## Runs -/

section Runs

variable {server : ServerState} (begins : server.Begins) (turns : List Turn)

include begins

theorem watching_run :
    Watching (server.run turns) (fun id => server.collect (handings id) turns)
      (server.collect lapses turns) := by
  induction turns using List.reverseRecOn with
  | nil =>
      have nothing := begins.quiet.1
      have empty : ∀ id, server.core.pending? id = none := by
        intro id
        unfold ListenerState.pending?
        rw [nothing]
        rfl
      refine ⟨?_, ?_, fun _ _ => ⟨rfl, List.not_mem_nil⟩⟩
      · rw [run, List.foldl_nil, begins.watches]
        exact Table.distinct_empty
      · intro id
        rw [run, List.foldl_nil, begins.watches, empty]
        exact Observed.gone _ _
  | append_singleton turns turn inductionHypothesis =>
      have after := inductionHypothesis.step (reachable_run begins turns) turn
      rw [run_concat, collect_concat]
      simp only [collect_concat]
      exact after

/-- The watches of a server are those on its sockets in listener filters, at most one on each. It is on
the stream of the socket and has seen what was handed over last. So the bytes that the filter which
holds a socket has not been given are reported exactly if the socket has a stream and was never passed
over a filter by a time-out, and nothing was handed over yet, or the last of it to that filter. A
socket with one listener filter gets all of its bytes. -/
theorem reported_exactly :
    let after := server.run turns
    after.watches.Distinct ∧
    (∀ id, after.core.pending? id = none → after.watches.get? id = none) ∧
    ∀ id pending, after.core.pending? id = some pending →
      (∀ watch, after.watches.get? id = some watch →
        pending.socket.stream = some watch.stream ∧
          watch.seen = lastCount (server.collect (handings id) turns)) ∧
      (server.Reported turns id pending ↔
        pending.socket.stream.isSome ∧ id ∉ server.collect lapses turns ∧
          ∀ last ∈ (server.collect (handings id) turns).getLast?,
            last.position = pending.pipeline.cursor ∨ last.count = 0) ∧
      (pending.pipeline.filters.length = 1 → pending.socket.stream.isSome →
        server.Reported turns id pending) := by
  have watching := watching_run begins turns
  have waiting := (reachable_run begins turns).housed.waiting
  refine ⟨watching.distinct, ?_, ?_⟩
  · intro id absent
    rw [(watching.sockets id).watched, absent]
    rfl
  · intro id pending found
    have observed := watching.sockets id
    rw [found] at observed
    refine ⟨?_, ?_, ?_⟩
    · intro watch there
      rw [there] at observed
      exact observed.of_watch
    · rw [← decide_eq_false_iff_not]
      exact observed.reported_iff
    · intro single streamed
      have inside := (waiting.waits id.slot pending
        (ListenerState.pending?_eq_some_iff.mp found).1).inside
      obtain ⟨inTime, there⟩ := observed.at_first (by omega)
      exact observed.reported_iff.mpr ⟨streamed, inTime, fun last listed => .inl (there last listed)⟩

end Runs

/-- A server that looks for a ClientHello twice. -/
def inspecting : ServerState :=
  echoing [Tls.inspector Tls.defaultInspectorLimit (), Tls.inspector Tls.defaultInspectorLimit ()]

/-- The first byte of a record is handed to the filter that waits for more. -/
theorem reported_exactly_inspecting :
    let turns : List Turn := [⟨0, .accepted (caller 1)⟩, ⟨1, .peeked ⟨0, 1⟩ [0x16]⟩]
    inspecting.Begins ∧ ∃ pending, (inspecting.run turns).core.pending? ⟨0, 1⟩ = some pending ∧
      inspecting.Reported turns ⟨0, 1⟩ pending := by
  intro turns
  have begins : inspecting.Begins := begins_echoing _
  have waits : ((inspecting.run turns).core.pending? ⟨0, 1⟩).map
      (fun pending => (pending.socket.stream.isSome, pending.pipeline.cursor)) = some (true, 0) := by
    decide +kernel
  have handed : inspecting.collect (handings ⟨0, 1⟩) turns = [⟨0, 1⟩] := by decide +kernel
  have inTime : ⟨0, 1⟩ ∉ inspecting.collect lapses turns := by decide +kernel
  obtain ⟨pending, found, facts⟩ := Option.map_eq_some_iff.mp waits
  obtain ⟨streamed, first⟩ := Prod.mk.inj facts
  have exactly := ((reported_exactly begins turns).2.2 ⟨0, 1⟩ pending found).2.1
  rw [handed, first] at exactly
  refine ⟨begins, pending, found, exactly.mpr ⟨streamed, inTime, ?_⟩⟩
  rintro _ ⟨⟩
  exact .inl rfl

/-- Bytes that are no TLS make the first filter pass its socket on to the second, which holds it
without them, and the watch waits for still more. -/
theorem bytes_withheld :
    ¬ ∀ (turns : List Turn) (id : SocketId) (pending : PendingSocket Unit),
      (inspecting.run turns).core.pending? id = some pending →
      inspecting.Reported turns id pending := by
  intro claim
  let turns : List Turn :=
    [⟨0, .accepted (caller 1)⟩, ⟨1, .peeked ⟨0, 1⟩ [0x68, 0x65, 0x6C, 0x6C, 0x6F]⟩]
  have waits : ((inspecting.run turns).core.pending? ⟨0, 1⟩).map (·.pipeline.cursor) = some 1 := by
    decide +kernel
  have watched : (inspecting.run turns).watches.get? ⟨0, 1⟩ = some ⟨⟨1⟩, 5⟩ := by decide +kernel
  have handed : given (inspecting.collect (handings ⟨0, 1⟩) turns) 1 = 0 := by decide +kernel
  obtain ⟨pending, found, second⟩ := Option.map_eq_some_iff.mp waits
  obtain ⟨watch, there, enough⟩ := claim turns ⟨0, 1⟩ pending found
  rw [watched] at there
  obtain rfl := Option.some.inj there
  rw [second, handed] at enough
  exact absurd enough (by decide)

/-- A time-out that passes over a filter ends the watch, though the next filter waits for bytes. -/
example :
    (inspecting.run [⟨0, .accepted (caller 1)⟩, ⟨15000, .deadline⟩]).core.isPending ⟨0, 1⟩ = true ∧
      (inspecting.run [⟨0, .accepted (caller 1)⟩, ⟨15000, .deadline⟩]).watches.get? ⟨0, 1⟩ =
        none := by
  decide +kernel

end ServerState

end Admission.Server
