import Admission.Listener.State
import Admission.Proofs.Stream.Exchange

/-!
Contract: a relay passes on two streams as they are, whatever the size of its buffer.

Without a peer that goes away and without a time-out, what comes out of a direction is what went in,
in the same order, each byte once. The end of a stream is passed on behind its last byte, and it ends
this direction alone; the relay is over when both streams have ended, and it counts their lengths.

Owns:
- `room_of_connect`, by which the buffer of every session has room for a byte;
- `Exchange.turn`, the copying of one turn, as a series of single steps that ends at rest;
- `Transparent` and `relays_streams_as_they_are`, the contract itself;
- `reads_every_split`, by which the streams come in in every way in which they can be cut.
-/

namespace Admission.Listener

open Admission.Chain

/-! ## The buffer of a session -/

namespace Connection

/-- What the factories of a chain leave as it is on a connection without a session. -/
theorem keeps_of_factories {connection : Connection} (factories : List NetworkFilterFactory)
    (fresh : connection.session = none) :
    (factories.foldl apply connection).bufferLimit = connection.bufferLimit ∧
      (factories.foldl apply connection).session = none := by
  induction factories generalizing connection with
  | nil => exact ⟨rfl, fresh⟩
  | cons factory rest inductionHypothesis =>
      have kept : (connection.apply factory).bufferLimit = connection.bufferLimit ∧
          (connection.apply factory).session = none := by
        unfold apply
        split
        · exact ⟨rfl, fresh⟩
        · exact ⟨rfl, fresh⟩
        · unfold close
          split
          · exact ⟨rfl, fresh⟩
          · exact ⟨rfl, fresh⟩
          · split
            · exact ⟨rfl, fresh⟩
            · exact ⟨rfl, rfl⟩
      obtain ⟨limit, session⟩ := inductionHypothesis kept.2
      exact ⟨limit.trans kept.1, session⟩

/-- A session takes the buffer limit of its connection. -/
theorem bufferSize_of_start {connection : Connection} {session : Session}
    (fresh : connection.session = none)
    (opened : connection.startReadFilters.1.session = some session) :
    session.bufferSize = connection.bufferLimit.getD maxBuffer := by
  unfold startReadFilters at opened
  split at opened
  · exact absurd (fresh.symm.trans opened) (by simp)
  · exact absurd (fresh.symm.trans opened) (by simp)
  · split at opened
    · exact absurd (fresh.symm.trans opened) (by simp)
    · obtain rfl := Option.some.inj opened
      rfl

private theorem session_of_close {connection : Connection} {kind : CloseType} {session : Session}
    (opened : (connection.close kind).session = some session) :
    connection.session = some session := by
  unfold close at opened
  split at opened
  · exact opened
  · exact opened
  · split at opened
    · exact opened
    · cases opened

end Connection

/-- The buffer of a session has room for a byte, whatever the limit of the listener. -/
theorem room_of_connect {σ : Type} {state : ListenerState σ} {socket : Socket} {chain : FilterChain}
    {session : Session} (carried : state.carrier = .tcp)
    (opened : (state.connect socket chain).1.session = some session) :
    0 < session.bufferSize ∧ session.bufferSize ≤ Connection.maxBuffer := by
  let prepared := { Connection.ofSocket (state.connections.length + 1) state.carrier socket
    chain.transport.protocol with connectTimeout := chain.connectTimeout }.setBufferLimit
      state.config.bufferLimit
  obtain ⟨limit, fresh⟩ : (chain.filters.foldl Connection.apply prepared).bufferLimit =
      prepared.bufferLimit ∧ (chain.filters.foldl Connection.apply prepared).session = none :=
    Connection.keeps_of_factories chain.filters rfl
  have limited : prepared.bufferLimit =
      some (min (max state.config.bufferLimit 1) Connection.maxBuffer) := by
    simp [prepared, Connection.setBufferLimit, Connection.ofSocket, carried]
  have shape : (state.connect socket chain).1 =
      if (prepared.installFilters chain.filters).2 then (prepared.installFilters chain.filters).1
      else (prepared.installFilters chain.filters).1.close .noFlush := rfl
  have installed : (prepared.installFilters chain.filters).1.session = some session := by
    rw [shape] at opened
    split at opened
    · exact opened
    · exact Connection.session_of_close opened
  have size := Connection.bufferSize_of_start fresh installed
  rw [limit, limited, Option.getD_some] at size
  have positive : 0 < Connection.maxBuffer := by decide
  omega

end Admission.Listener

namespace Admission.Stream

open Admission.Chain Admission.Listener

/-! ## One turn -/

namespace Lane

variable {lane next : Lane} {now limit : Nat}

/-- A direction after as many steps of the relay as there are, and at most `limit`. -/
def steps (lane : Lane) (now limit : Nat) : Lane :=
  let (flow, source, sink) := Flow.steps now limit lane.flow lane.source lane.sink
  { lane with flow, source, sink }

/-- The number of steps that the relay can still take, if nothing more is sent. -/
def remaining (lane : Lane) : Nat :=
  if lane.flow.state = .copying then lane.source.unread.length + 1 else 0

private theorem steps_of_none (waits : lane.step? now .copies = none) :
    lane.steps now limit = lane := by
  cases limit with
  | zero => rfl
  | succ limit =>
      have still := Option.map_eq_none_iff.mp waits
      simp [steps, Flow.steps, still]

private theorem steps_of_some (stepped : lane.step? now .copies = some next) :
    lane.steps now (limit + 1) = next.steps now limit := by
  obtain ⟨_, moved, rfl⟩ := Option.map_eq_some_iff.mp stepped
  simp [steps, Flow.steps, moved]

private theorem Copied.remaining_lt (copied : Copied now lane next)
    (busy : lane.flow.state = .copying) :
    next.remaining < lane.remaining := by
  unfold remaining
  rw [if_pos busy]
  cases copied with
  | ended drained finished => simp [Flow.stop]
  | moved read written =>
      rw [if_pos busy, (Pipe.unread_read read).1, List.length_append, List.length_cons]
      dsimp only
      omega
  | refused read unwritten => simp [Flow.stop]
  | idled drained unfinished overdue => simp [Flow.stop]

private theorem Copied.bufferSize_eq (copied : Copied now lane next) :
    next.flow.bufferSize = lane.flow.bufferSize := by
  cases copied <;> rfl

/-- With as many steps as remain, a direction comes to rest. -/
theorem step?_steps (room : 0 < lane.flow.bufferSize) (enough : lane.remaining ≤ limit) :
    (lane.steps now limit).step? now .copies = none := by
  -- Each step that is taken leaves fewer that remain.
  induction limit generalizing lane with
  | zero =>
      rcases step?_copies_cases lane now room with ⟨waits, _⟩ | ⟨busy, _, _, copied⟩
      · rw [steps_of_none waits]
        exact waits
      · exact absurd (copied.remaining_lt busy) (by omega)
  | succ limit inductionHypothesis =>
      rcases step?_copies_cases lane now room with ⟨waits, _⟩ | ⟨busy, next, stepped, copied⟩
      · rw [steps_of_none waits]
        exact waits
      · have fewer := copied.remaining_lt busy
        rw [steps_of_some stepped]
        exact inductionHypothesis (copied.bufferSize_eq ▸ room) (by omega)

end Lane

namespace Exchange

variable {exchange : Exchange} {limit : Nat} {sender : Peer}

private theorem withLane_lane (exchange : Exchange) (sender : Peer) :
    exchange.withLane (exchange.lane sender) sender = exchange := by
  cases sender <;> rfl

private theorem withLane_withLane (exchange : Exchange) (lane other : Lane) (sender : Peer) :
    (exchange.withLane lane sender).withLane other sender = exchange.withLane other sender := by
  cases sender <;> rfl

/-- The steps of one direction are things that happen one after another. -/
theorem run?_copies (exchange : Exchange) (limit : Nat) (sender : Peer) :
    ∃ count, exchange.run? (List.replicate count (.moves sender .copies)) =
      some (exchange.withLane ((exchange.lane sender).steps exchange.clock limit) sender) := by
  induction limit generalizing exchange with
  | zero => exact ⟨0, congrArg some (withLane_lane exchange sender).symm⟩
  | succ limit inductionHypothesis =>
      cases stepped : (exchange.lane sender).step? exchange.clock .copies with
      | none =>
          rw [Lane.steps_of_none stepped, withLane_lane]
          exact ⟨0, rfl⟩
      | some next =>
          obtain ⟨count, ran⟩ := inductionHypothesis (exchange.withLane next sender)
          rw [lane_withLane, if_pos rfl, clock_withLane, withLane_withLane] at ran
          refine ⟨count + 1, ?_⟩
          rw [List.replicate_succ, ← List.singleton_append, run?_append, Lane.steps_of_some stepped,
            ← ran]
          show ((exchange.step? (.moves sender .copies)).bind _).bind _ = _
          rw [step?_moves, stepped]
          rfl

/-- The relay copies in both directions as far as it goes without waiting. -/
def turn (exchange : Exchange) : Exchange :=
  let (relay, pipes) := exchange.relay.run exchange.clock exchange.pipes
  { exchange with relay, pipes }

/-- The steps of the relay alone. -/
def OnlyCopies (happenings : List Happening) : Prop :=
  ∀ happening ∈ happenings, ∃ sender, happening = .moves sender .copies

private theorem onlyCopies_replicate (count : Nat) (sender : Peer) :
    OnlyCopies (List.replicate count (.moves sender .copies)) := by
  intro happening listed
  exact ⟨sender, List.eq_of_mem_replicate listed⟩

/-- A turn is a series of single steps, after which there is nothing more to do. -/
theorem run?_turn (exchange : Exchange)
    (room : ∀ sender, 0 < (exchange.relay.flow sender).bufferSize) :
    ∃ copies, OnlyCopies copies ∧ exchange.run? copies = some exchange.turn ∧
      ∀ sender, exchange.turn.step? (.moves sender .copies) = none := by
  let forward := (exchange.lane .client).steps exchange.clock
    ((exchange.lane .client).source.unread.length + 1)
  let backward := (exchange.lane .backend).steps exchange.clock
    ((exchange.lane .backend).source.unread.length + 1)
  have shape : exchange.turn = (exchange.withLane forward .client).withLane backward .backend := rfl
  have enough : ∀ lane : Lane, lane.remaining ≤ lane.source.unread.length + 1 := by
    intro lane
    unfold Lane.remaining
    split <;> omega
  obtain ⟨first, ranForward⟩ := run?_copies exchange
    ((exchange.lane .client).source.unread.length + 1) .client
  obtain ⟨second, ranBackward⟩ := run?_copies (exchange.withLane forward .client)
    ((exchange.lane .backend).source.unread.length + 1) .backend
  refine ⟨List.replicate first (.moves .client .copies) ++
    List.replicate second (.moves .backend .copies), ?_, ?_, ?_⟩
  · intro happening listed
    rcases List.mem_append.mp listed with listed | listed
    · exact onlyCopies_replicate _ _ _ listed
    · exact onlyCopies_replicate _ _ _ listed
  · rw [run?_append, ranForward]
    exact ranBackward
  · intro sender
    rw [step?_moves, Option.map_eq_none_iff, shape, clock_withLane, clock_withLane, lane_withLane]
    cases sender with
    | client => exact Lane.step?_steps (room .client) (enough _)
    | backend => exact Lane.step?_steps (room .backend) (enough _)

end Exchange

/-! ## Streams as they are -/

section

variable {bufferSize now : Nat} {idleTimeout : Option Nat} {sender : Peer}
  {happenings copies : List Happening} {lane : Lane} {exchange : Exchange}

/-- A direction that has come to the end of its stream. -/
structure Lane.Complete (sender : Peer) (happenings : List Happening) (lane : Lane) : Prop where
  stopped : lane.flow.state = .finished
  shown : lane.sink.isFinished = true
  finished : HasFinished sender happenings
  delivered : lane.received ++ lane.sink.unread = sentBy sender happenings
  total : lane.flow.total = (sentBy sender happenings).length

/-- Without errors and time-outs, a direction copies or has come to the end. -/
theorem Lane.Sound.copies_or_complete
    (sound : lane.Sound bufferSize idleTimeout sender happenings)
    (present : ¬ IsDeserted sender happenings) (awake : lane.flow.state ≠ .idle) :
    (lane.flow.state = .copying ∧ lane.sink.isFinished = false) ∨
      lane.Complete sender happenings := by
  cases state : lane.flow.state with
  | copying => exact .inl ⟨rfl, sound.unclosed state⟩
  | finished =>
      obtain ⟨ended, drained⟩ := sound.drained state
      have delivered : lane.received ++ lane.sink.unread = sentBy sender happenings := by
        rw [← sound.kept present, drained, List.append_nil]
      refine .inr ⟨state, sound.closed.mpr state, sound.finished.mp ended, delivered, ?_⟩
      rw [Flow.total, if_pos state, sound.counted present, delivered]
  | idle => exact absurd state awake
  | failed => exact absurd (sound.refused state) present

/-- A direction that waits has passed on all that was sent, and its end if there is one. -/
theorem Lane.Sound.settled (sound : lane.Sound bufferSize idleTimeout sender happenings)
    (room : 0 < bufferSize) (present : ¬ IsDeserted sender happenings)
    (awake : lane.flow.state ≠ .idle) (waits : lane.step? now .copies = none) :
    lane.received ++ lane.sink.unread = sentBy sender happenings ∧
      (HasFinished sender happenings → lane.Complete sender happenings) := by
  rcases sound.copies_or_complete present awake with ⟨busy, _⟩ | complete
  · obtain ⟨drained, unfinished, _⟩ := drained_of_waits (sound.bufferSize ▸ room) busy waits
    constructor
    · rw [← sound.kept present, drained, List.append_nil]
    · intro finished
      exact absurd (sound.finished.mpr finished) (by simp [unfinished])
  · exact ⟨complete.delivered, fun _ => complete⟩

/-- A stream that ended does not run out of time any more. -/
theorem Exchange.awake_of_finished (room : 0 < bufferSize)
    (ran : (start bufferSize idleTimeout now).run? happenings = some exchange)
    (finished : HasFinished sender happenings)
    (awake : (exchange.relay.flow sender).state ≠ .idle) {later : Exchange}
    (onlyCopies : OnlyCopies copies) (went : exchange.run? copies = some later) :
    (later.relay.flow sender).state ≠ .idle := by
  induction copies using List.reverseRecOn generalizing later with
  | nil =>
      obtain rfl := Option.some.inj went
      exact awake
  | append_singleton copies happening inductionHypothesis =>
      rw [run?_concat] at went
      obtain ⟨earlier, before, stepped⟩ := Option.bind_eq_some_iff.mp went
      have earlierAwake := inductionHypothesis
        (fun other listed => onlyCopies other (List.mem_append_left _ listed)) before
      have whole : (start bufferSize idleTimeout now).run? (happenings ++ copies) = some earlier := by
        rw [run?_append, ran]
        exact before
      have sound := sound_of_run room sender whole
      have ended : (earlier.lane sender).source.isFinished = true :=
        sound.finished.mpr (List.mem_append_left _ finished)
      obtain ⟨peer, rfl⟩ := onlyCopies happening (List.mem_append_right _ (List.mem_singleton_self _))
      rcases lane_step stepped sender with ⟨move, same, moved⟩ | ⟨_, same⟩
      · obtain ⟨rfl, rfl⟩ := Happening.moves.inj same
        obtain ⟨busy, copied⟩ := Lane.copied_of_step (sound.bufferSize ▸ room) moved
        show (later.lane peer).flow.state ≠ .idle
        generalize later.lane peer = after at copied
        cases copied with
        | ended drained finished => simp [Flow.stop]
        | moved read written => simp [busy]
        | refused read unwritten => simp [Flow.stop]
        | idled drained unfinished overdue => exact absurd ended (by simp [unfinished])
      · show (later.lane sender).flow.state ≠ .idle
        rw [same]
        exact earlierAwake

private theorem sentBy_append_copies (onlyCopies : Exchange.OnlyCopies copies) :
    sentBy sender (happenings ++ copies) = sentBy sender happenings := by
  have silent : copies.flatMap (·.piece sender) = [] := by
    refine List.flatMap_eq_nil_iff.mpr fun happening listed => ?_
    obtain ⟨_, rfl⟩ := onlyCopies happening listed
    rfl
  unfold sentBy
  rw [List.flatMap_append, silent, List.append_nil]

private theorem isDeserted_append_copies (onlyCopies : Exchange.OnlyCopies copies) :
    IsDeserted sender (happenings ++ copies) ↔ IsDeserted sender happenings := by
  unfold IsDeserted
  rw [List.mem_append, or_iff_left]
  intro listed
  obtain ⟨_, same⟩ := onlyCopies _ listed
  cases same

/-- Behind the ends of both streams, one turn brings both directions to their ends. -/
theorem Exchange.complete_of_turn (room : 0 < bufferSize)
    (ran : (start bufferSize idleTimeout now).run? happenings = some exchange)
    (present : ∀ sender, ¬ IsDeserted sender happenings)
    (awake : ∀ sender, (exchange.relay.flow sender).state ≠ .idle)
    (finished : ∀ sender, HasFinished sender happenings) (sender : Peer) :
    (exchange.turn.lane sender).Complete sender happenings := by
  have sizes : ∀ sender, (exchange.relay.flow sender).bufferSize = bufferSize :=
    fun sender => (sound_of_run room sender ran).bufferSize
  obtain ⟨copies, onlyCopies, went, rest⟩ := exchange.run?_turn fun sender => sizes sender ▸ room
  -- The turn lengthens the history by steps of the relay, so what every run keeps to holds after it.
  have whole : (start bufferSize idleTimeout now).run? (happenings ++ copies) =
      some exchange.turn := by
    rw [run?_append, ran]
    exact went
  have waits := rest sender
  rw [step?_moves, Option.map_eq_none_iff] at waits
  have settled := (sound_of_run room sender whole).settled room
    (mt (isDeserted_append_copies onlyCopies).mp (present sender))
    (awake_of_finished room ran (finished sender) (awake sender) onlyCopies went) waits
  obtain ⟨stopped, shown, _, delivered, total⟩ :=
    settled.2 (List.mem_append_left _ (finished sender))
  rw [sentBy_append_copies onlyCopies] at delivered total
  exact ⟨stopped, shown, finished sender, delivered, total⟩

private theorem Relay.isOver_iff {relay : Relay} :
    relay.isOver = true ↔ ∀ sender, (relay.flow sender).state ≠ .copying := by
  constructor
  · intro ended sender
    cases sender <;> simp_all [isOver, Flow.isCopying, flow]
  · intro stopped
    have forward := stopped .client
    have backward := stopped .backend
    simp_all [isOver, Flow.isCopying, flow]

/-- Two directions that have come to their ends make a relay that is over and has counted both
streams. -/
theorem Exchange.over_of_complete
    (complete : ∀ sender, (exchange.lane sender).Complete sender happenings) :
    exchange.relay.isOver = true ∧
      exchange.relay.totals =
        ((sentBy .client happenings).length, (sentBy .backend happenings).length) := by
  constructor
  · refine Relay.isOver_iff.mpr fun sender => ?_
    rw [show (exchange.relay.flow sender).state = .finished from (complete sender).stopped]
    simp
  · exact Prod.ext (complete .client).total (complete .backend).total

end

/-- What a relay has done for two peers of which none went away, if no read ran out of time. -/
structure Transparent (happenings : List Happening) (exchange : Exchange) : Prop where
  /-- What was sent comes out in order, and what has not come out is still to be read. -/
  relayed : ∀ sender, exchange.delivered sender ++ (exchange.pipes.source sender).unread =
    sentBy sender happenings
  /-- The other peer is shown the end of a stream behind its last byte. -/
  ended : ∀ sender, (exchange.pipes.sink sender).isFinished = true →
    HasFinished sender happenings ∧ exchange.delivered sender = sentBy sender happenings
  /-- Up to then a direction goes on, whatever became of the other one. -/
  goesOn : ∀ sender, (exchange.pipes.sink sender).isFinished = false →
    (exchange.relay.flow sender).isCopying = true
  /-- A direction waits only for its own sender. -/
  settles : ∀ sender, exchange.step? (.moves sender .copies) = none →
    exchange.delivered sender = sentBy sender happenings ∧
      (HasFinished sender happenings → (exchange.pipes.sink sender).isFinished = true)
  /-- It takes a step for each byte at most, and one for the end. -/
  bounded : ∀ sender, happenings.count (.moves sender .copies) ≤
    (sentBy sender happenings).length + 1
  isOver_iff : exchange.relay.isOver = true ↔
    ∀ sender, (exchange.pipes.sink sender).isFinished = true
  totals : exchange.relay.isOver = true → exchange.relay.totals =
    ((sentBy .client happenings).length, (sentBy .backend happenings).length)
  /-- When both peers have finished, the relay is over after one turn. -/
  concludes : (∀ sender, HasFinished sender happenings) →
    exchange.turn.relay.isOver = true ∧
      exchange.turn.relay.totals =
        ((sentBy .client happenings).length, (sentBy .backend happenings).length) ∧
      ∀ sender, exchange.turn.delivered sender = sentBy sender happenings

/-- A relay passes on both streams as they are, in every order of events and with every limit of the
listener for the buffers of its connections. -/
theorem relays_streams_as_they_are {σ : Type} {state : ListenerState σ} {socket : Socket}
    {chain : FilterChain} {session : Session} {idleTimeout : Option Nat} {now : Nat}
    {happenings : List Happening} {exchange : Exchange} (carried : state.carrier = .tcp)
    (opened : (state.connect socket chain).1.session = some session)
    (ran : (Exchange.start session.bufferSize idleTimeout now).run? happenings = some exchange)
    (present : ∀ sender, ¬ IsDeserted sender happenings)
    (awake : ∀ sender, (exchange.relay.flow sender).state ≠ .idle) :
    Transparent happenings exchange := by
  have room := (room_of_connect carried opened).1
  have sound := fun sender => Exchange.sound_of_run room sender ran
  have stands := fun sender => (sound sender).copies_or_complete (present sender) (awake sender)
  have complete_of_shown : ∀ sender, (exchange.pipes.sink sender).isFinished = true →
      (exchange.lane sender).Complete sender happenings := by
    intro sender shown
    refine (stands sender).resolve_left fun ⟨_, hidden⟩ => ?_
    exact absurd (hidden.symm.trans shown) (by simp)
  have isOver_iff : exchange.relay.isOver = true ↔
      ∀ sender, (exchange.pipes.sink sender).isFinished = true := by
    rw [Relay.isOver_iff]
    constructor
    · intro stopped sender
      exact ((stands sender).resolve_left fun busy => stopped sender busy.1).shown
    · intro shown
      exact Relay.isOver_iff.mp
        (Exchange.over_of_complete fun sender => complete_of_shown sender (shown sender)).1
  refine ⟨fun sender => (sound sender).kept (present sender), ?_, ?_, ?_, ?_, isOver_iff, ?_, ?_⟩
  · intro sender shown
    have complete := complete_of_shown sender shown
    exact ⟨complete.finished, complete.delivered⟩
  · intro sender hidden
    rcases stands sender with ⟨busy, _⟩ | complete
    · exact decide_eq_true busy
    · exact absurd (hidden.symm.trans complete.shown) (by simp)
  · intro sender waits
    rw [Exchange.step?_moves, Option.map_eq_none_iff] at waits
    obtain ⟨delivered, ends⟩ := (sound sender).settled room (present sender) (awake sender) waits
    exact ⟨delivered, fun finished => (ends finished).shown⟩
  · intro sender
    have bounded := (sound sender).bounded
    split at bounded <;> omega
  · intro isOver
    exact (Exchange.over_of_complete fun sender =>
      complete_of_shown sender (isOver_iff.mp isOver sender)).2
  · intro finished
    have complete := Exchange.complete_of_turn room ran present awake finished
    obtain ⟨isOver, totals⟩ := Exchange.over_of_complete complete
    exact ⟨isOver, totals, fun sender => (complete sender).delivered⟩

/-- A listener that sets the smallest limit for the buffers of its connections. -/
def unbuffered : ListenerState Unit :=
  .new { ListenerConfig.new "listener" (.internal "here") with bufferLimit := 0 } .tcp

/-- A chain that relays to a backend. -/
def relaying : FilterChain :=
  { name := "relay"
    transport := ⟨"raw_buffer", "raw_buffer", false⟩
    filters := [⟨"tcp_proxy", .install ⟨"tcp_proxy", .proxy ⟨.v4 0x7F000001#32 9000, 1000, none⟩⟩⟩]
    connectTimeout := none
    id := ⟨1⟩ }

/-- Both peers send at the same time, and the backend is the first to finish. -/
def conversation : List Happening :=
  [.moves .client (.sends [1, 2]), .moves .backend (.sends [3]), .moves .client .copies,
    .moves .backend .finishes, .moves .backend .copies, .moves .backend .copies,
    .moves .client .copies, .moves .client (.receives 5), .moves .client (.sends [4]),
    .moves .client .finishes]

theorem relays_streams_as_they_are_unbuffered :
    ∃ exchange, (Exchange.start 1 none 0).run? conversation = some exchange ∧
      Transparent conversation exchange := by
  refine ⟨((Exchange.start 1 none 0).run? conversation).get (by decide), (Option.some_get _).symm, ?_⟩
  have opened : (unbuffered.connect
      { Socket.between (.internal "here") (.internal "there") with stream := some ⟨0⟩ }
      relaying).1.session = some ⟨⟨0⟩, .proxy ⟨.v4 0x7F000001#32 9000, 1000, none⟩, 1⟩ := by
    decide
  refine relays_streams_as_they_are rfl opened (Option.some_get _).symm ?_ ?_
  · intro sender
    cases sender <;> decide
  · intro sender
    cases sender <;> decide

/-! ## Splits -/

/-- A direction that has read everything, and has written it in certain pieces. -/
structure Lane.Wrote (bufferSize : Nat) (pieces : List (List UInt8)) (lane : Lane) : Prop where
  busy : lane.flow.state = .copying
  size : lane.flow.bufferSize = bufferSize
  drained : lane.source = .empty
  unclosed : lane.sink.isFinished = false
  attended : lane.sink.isAbandoned = false
  written : lane.sink.back = pieces.reverse

/-- A piece that the buffer has room for, sent when everything before it was read, is read at once and
written as it is. -/
theorem Lane.Wrote.piece {lane : Lane} {bufferSize : Nat} {pieces : List (List UInt8)}
    (wrote : lane.Wrote bufferSize pieces) {piece : List UInt8} (now : Nat) (filled : piece ≠ [])
    (fits : piece.length ≤ bufferSize) :
    ∃ sent next, lane.step? now (.sends piece) = some sent ∧ sent.step? now .copies = some next ∧
      next.Wrote bufferSize (pieces ++ [piece]) := by
  obtain ⟨busy, rfl, drained, unclosed, attended, written⟩ := wrote
  obtain ⟨byte, bytes, rfl⟩ := List.exists_cons_of_ne_nil filled
  have room : lane.flow.bufferSize ≠ 0 := by
    rw [List.length_cons] at fits
    omega
  have sent : lane.step? now (.sends (byte :: bytes)) =
      some { lane with source := ⟨[], [byte :: bytes], false, false⟩ } := by
    simp [step?, drained, Pipe.write?, Pipe.empty]
  have read : Pipe.read? ⟨[], [byte :: bytes], false, false⟩ lane.flow.bufferSize =
      some (byte :: bytes, .empty) := by
    simp [Pipe.read?, Pipe.settle, Pipe.empty, room, List.take_of_length_le fits,
      List.drop_of_length_le fits]
  have accepted : lane.sink.write? (byte :: bytes) =
      some { lane.sink with back := (byte :: bytes) :: lane.sink.back } :=
    Pipe.write?_eq_some_iff.mpr ⟨unclosed, attended, rfl⟩
  have copies : lane.flow.isCopying = true := decide_eq_true busy
  refine ⟨_, { lane with
    flow := { lane.flow with
      count := lane.flow.count + (byte :: bytes).length
      deadline := lane.flow.idleTimeout.map (now + ·) }
    source := .empty
    sink := { lane.sink with back := (byte :: bytes) :: lane.sink.back } }, sent, ?_,
    ⟨busy, rfl, rfl, unclosed, attended, ?_⟩⟩
  · simp [step?, Flow.step?, copies, read, accepted]
  · rw [List.reverse_concat, written]

/-- However a stream is cut into pieces that the buffer has room for, there is a run in which the relay
reads it in these pieces and writes them so. -/
theorem reads_every_split {bufferSize : Nat} (idleTimeout : Option Nat) (now : Nat) (sender : Peer)
    {pieces : List (List UInt8)}
    (fit : ∀ piece ∈ pieces, piece ≠ [] ∧ piece.length ≤ bufferSize) :
    ∃ exchange, (Exchange.start bufferSize idleTimeout now).run?
        (pieces.flatMap fun piece => [.moves sender (.sends piece), .moves sender .copies]) =
          some exchange ∧
      (exchange.pipes.sink sender).back = pieces.reverse := by
  suffices ∃ exchange, (Exchange.start bufferSize idleTimeout now).run?
        (pieces.flatMap fun piece => [.moves sender (.sends piece), .moves sender .copies]) =
          some exchange ∧ (exchange.lane sender).Wrote bufferSize pieces by
    obtain ⟨exchange, ran, wrote⟩ := this
    exact ⟨exchange, ran, wrote.written⟩
  induction pieces using List.reverseRecOn with
  | nil =>
      refine ⟨_, rfl, ?_⟩
      rw [Exchange.lane_start]
      exact ⟨rfl, rfl, rfl, rfl, rfl, rfl⟩
  | append_singleton pieces piece inductionHypothesis =>
      obtain ⟨exchange, ran, wrote⟩ :=
        inductionHypothesis fun other listed => fit other (List.mem_append_left _ listed)
      obtain ⟨filled, fits⟩ := fit piece (List.mem_append_right _ (List.mem_singleton_self _))
      obtain ⟨sent, next, sends, copies, after⟩ := wrote.piece exchange.clock filled fits
      refine ⟨exchange.withLane next sender, ?_, ?_⟩
      · rw [List.flatMap_append, Exchange.run?_append, ran, List.flatMap_singleton]
        show ((exchange.step? (.moves sender (.sends piece))).bind fun middle =>
          (middle.step? (.moves sender .copies)).bind some) = _
        rw [Exchange.step?_moves, sends, Option.map_some, Option.bind_some, Exchange.step?_moves,
          Exchange.lane_withLane, if_pos rfl, Exchange.clock_withLane, copies, Option.map_some,
          Option.bind_some, Exchange.withLane_withLane]
      · rw [Exchange.lane_withLane, if_pos rfl]
        exact after

end Admission.Stream
