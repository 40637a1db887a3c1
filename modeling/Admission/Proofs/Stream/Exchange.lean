import Mathlib.Data.List.Induction
import Admission.Stream.Relay

/-!
Contract: a relay at work between two peers that send, read, stop and wait as they like.

Things happen one after another and in any order: a peer sends a piece of any size or says that
nothing more comes, the relay takes one step for one of the directions, a peer reads or goes away,
time passes. A read of the relay gets what was sent before it, up to the size of its buffer; so a
stream comes in in reads of all sizes.

Owns:
- `Exchange` with `Happening`, its steps and its runs;
- `Lane`, what an exchange comes down to in one direction, and `step?_moves`, by which the
  directions share nothing but the clock;
- what a history says by itself: `sentBy`, `HasFinished`, `IsDeserted`;
- `Copied`, all that one step of the relay can do, and `Sound`, what every run keeps to.
-/

namespace Admission.Stream

/-! ## Pipes -/

namespace Pipe

variable {pipe rest : Pipe} {limit : Nat} {bytes : List UInt8}

private theorem settle_front_eq_nil_iff : pipe.settle.front = [] ↔ pipe.unread = [] := by
  rw [← unread_settle]
  unfold settle unread
  split
  · simp
  · rename_i byte more front
    simp [front]

private theorem isFinished_settle : pipe.settle.isFinished = pipe.isFinished := by
  unfold settle
  split <;> rfl

private theorem isAbandoned_settle : pipe.settle.isAbandoned = pipe.isAbandoned := by
  unfold settle
  split <;> rfl

/-- A reader with room waits, meets the end, or gets bytes. -/
theorem read?_cases (pipe : Pipe) (room : 0 < limit) :
    (pipe.read? limit = none ∧ pipe.unread = [] ∧ pipe.isFinished = false) ∨
    (pipe.read? limit = some ([], pipe.settle) ∧ pipe.unread = [] ∧ pipe.isFinished = true) ∨
    ∃ byte bytes rest, pipe.read? limit = some (byte :: bytes, rest) ∧
      pipe.unread = byte :: bytes ++ rest.unread := by
  have enough : limit ≠ 0 := Nat.ne_of_gt room
  cases front : pipe.settle.front with
  | nil =>
      have nothing := settle_front_eq_nil_iff.mp front
      cases ended : pipe.isFinished with
      | false => exact .inl ⟨by simp [read?, enough, front, ended], nothing, rfl⟩
      | true => exact .inr (.inl ⟨by simp [read?, enough, front, ended], nothing, rfl⟩)
  | cons byte more =>
      obtain ⟨count, rfl⟩ := Nat.exists_eq_succ_of_ne_zero enough
      have read : pipe.read? (count + 1) =
          some (byte :: more.take count, { pipe.settle with front := more.drop count }) := by
        simp [read?, front]
      exact .inr (.inr ⟨_, _, _, read, (unread_read read).1⟩)

/-- Reading changes nothing but what is unread. -/
theorem flags_of_read (read : pipe.read? limit = some (bytes, rest)) :
    rest.isFinished = pipe.isFinished ∧ rest.isAbandoned = pipe.isAbandoned := by
  simp only [read?] at read
  split at read
  · simp_all
  · split at read
    · split at read
      · obtain ⟨_, rfl⟩ := Prod.mk.inj (Option.some.inj read)
        exact ⟨isFinished_settle, isAbandoned_settle⟩
      · cases read
    · obtain ⟨_, rfl⟩ := Prod.mk.inj (Option.some.inj read)
      exact ⟨isFinished_settle, isAbandoned_settle⟩

/-- Writing goes well exactly before the end of the stream and with a reader, and changes nothing but
what is unread. -/
theorem write?_eq_some_iff {piece : List UInt8} :
    pipe.write? piece = some rest ↔ pipe.isFinished = false ∧ pipe.isAbandoned = false ∧
      rest = { pipe with back := piece :: pipe.back } := by
  unfold write?
  cases pipe.isFinished <;> cases pipe.isAbandoned <;> simp [eq_comm]

private theorem write?_eq_none_iff {piece : List UInt8} :
    pipe.write? piece = none ↔ pipe.isFinished = true ∨ pipe.isAbandoned = true := by
  unfold write?
  cases pipe.isFinished <;> cases pipe.isAbandoned <;> simp

end Pipe

/-! ## Directions -/

/-- The copying of what a peer sends. -/
def Relay.flow (relay : Relay) : Peer → Flow
  | .client => relay.toBackend
  | .backend => relay.toClient

namespace PeerPipes

/-- The pipe that a peer writes to. -/
def source (pipes : PeerPipes) : Peer → Pipe
  | .client => pipes.fromClient
  | .backend => pipes.fromBackend

/-- The pipe that what a peer sends is copied to. -/
def sink (pipes : PeerPipes) : Peer → Pipe
  | .client => pipes.toBackend
  | .backend => pipes.toClient

def withSource (pipes : PeerPipes) (source : Pipe) : Peer → PeerPipes
  | .client => { pipes with fromClient := source }
  | .backend => { pipes with fromBackend := source }

def withSink (pipes : PeerPipes) (sink : Pipe) : Peer → PeerPipes
  | .client => { pipes with toBackend := sink }
  | .backend => { pipes with toClient := sink }

end PeerPipes

/-- What happens in the direction from a sender to the other peer. -/
inductive Move where
  | sends (piece : List UInt8)
  /-- The sender says that nothing more comes. -/
  | finishes
  /-- The relay takes one step. -/
  | copies
  /-- The other peer reads. -/
  | receives (limit : Nat)
  /-- The other peer goes away. -/
  | deserts
  deriving DecidableEq, Repr

inductive Happening where
  | moves (sender : Peer) (move : Move)
  | passes (duration : Nat)
  deriving DecidableEq, Repr

/-- A relay with its clock, its pipes, and what the peers have read so far. -/
structure Exchange where
  clock : Nat
  relay : Relay
  pipes : PeerPipes
  readByBackend : List UInt8
  readByClient : List UInt8
  deriving DecidableEq, Repr

namespace Exchange

/-- A relay begins, and nothing was sent yet. -/
def start (bufferSize : Nat) (idleTimeout : Option Nat) (now : Nat) : Exchange where
  clock := now
  relay := .start bufferSize idleTimeout now
  pipes := ⟨.empty, .empty, .empty, .empty⟩
  readByBackend := []
  readByClient := []

/-- What the other peer has read of what a sender sent. -/
def received (exchange : Exchange) : Peer → List UInt8
  | .client => exchange.readByBackend
  | .backend => exchange.readByClient

/-- What was relayed to the other peer of what a sender sent, and is read or can be read. -/
def delivered (exchange : Exchange) (sender : Peer) : List UInt8 :=
  exchange.received sender ++ (exchange.pipes.sink sender).unread

def receive (exchange : Exchange) (bytes : List UInt8) : Peer → Exchange
  | .client => { exchange with readByBackend := exchange.readByBackend ++ bytes }
  | .backend => { exchange with readByClient := exchange.readByClient ++ bytes }

/-- The exchange after something happened; nothing if it cannot happen. -/
def step? (exchange : Exchange) : Happening → Option Exchange
  | .moves sender (.sends piece) =>
      ((exchange.pipes.source sender).write? piece).map fun source =>
        { exchange with pipes := exchange.pipes.withSource source sender }
  | .moves sender .finishes =>
      let source := (exchange.pipes.source sender).finish
      some { exchange with pipes := exchange.pipes.withSource source sender }
  | .moves sender .copies =>
      (exchange.relay.step? exchange.clock exchange.pipes sender).map fun (relay, pipes) =>
        { exchange with relay, pipes }
  | .moves sender (.receives limit) =>
      ((exchange.pipes.sink sender).read? limit).map fun (bytes, sink) =>
        { exchange with pipes := exchange.pipes.withSink sink sender }.receive bytes sender
  | .moves sender .deserts =>
      let sink := (exchange.pipes.sink sender).abandon
      some { exchange with pipes := exchange.pipes.withSink sink sender }
  | .passes duration => some { exchange with clock := exchange.clock + duration }

/-- The exchange after things happened one after another; nothing if one of them cannot happen. -/
def run? (exchange : Exchange) (happenings : List Happening) : Option Exchange :=
  happenings.foldlM step? exchange

theorem run?_append (exchange : Exchange) (happenings more : List Happening) :
    exchange.run? (happenings ++ more) = (exchange.run? happenings).bind (·.run? more) :=
  List.foldlM_append

theorem run?_concat (exchange : Exchange) (happenings : List Happening) (happening : Happening) :
    exchange.run? (happenings ++ [happening]) =
      (exchange.run? happenings).bind (·.step? happening) := by
  rw [run?_append]
  congr 1
  funext next
  exact bind_pure _

end Exchange

/-! ## Lanes -/

/-- One direction of an exchange. -/
structure Lane where
  flow : Flow
  source : Pipe
  sink : Pipe
  received : List UInt8

namespace Lane

def start (bufferSize : Nat) (idleTimeout : Option Nat) (now : Nat) : Lane :=
  ⟨.start bufferSize idleTimeout now, .empty, .empty, []⟩

def step? (lane : Lane) (now : Nat) : Move → Option Lane
  | .sends piece => (lane.source.write? piece).map fun source => { lane with source }
  | .finishes => some { lane with source := lane.source.finish }
  | .copies =>
      (lane.flow.step? now lane.source lane.sink).map fun (flow, source, sink) =>
        { lane with flow, source, sink }
  | .receives limit =>
      (lane.sink.read? limit).map fun (bytes, sink) =>
        { lane with sink, received := lane.received ++ bytes }
  | .deserts => some { lane with sink := lane.sink.abandon }

end Lane

namespace Exchange

def lane (exchange : Exchange) (sender : Peer) : Lane where
  flow := exchange.relay.flow sender
  source := exchange.pipes.source sender
  sink := exchange.pipes.sink sender
  received := exchange.received sender

/-- The exchange with another state of one direction. -/
def withLane (exchange : Exchange) (lane : Lane) : Peer → Exchange
  | .client => { exchange with
      relay := { exchange.relay with toBackend := lane.flow }
      pipes := { exchange.pipes with fromClient := lane.source, toBackend := lane.sink }
      readByBackend := lane.received }
  | .backend => { exchange with
      relay := { exchange.relay with toClient := lane.flow }
      pipes := { exchange.pipes with fromBackend := lane.source, toClient := lane.sink }
      readByClient := lane.received }

variable (exchange : Exchange) (lane : Lane) (sender other : Peer)

theorem lane_start (bufferSize : Nat) (idleTimeout : Option Nat) (now : Nat) :
    (start bufferSize idleTimeout now).lane sender = .start bufferSize idleTimeout now := by
  cases sender <;> rfl

theorem lane_withLane :
    (exchange.withLane lane sender).lane other =
      if other = sender then lane else exchange.lane other := by
  cases sender <;> cases other <;> rfl

@[simp]
theorem clock_withLane : (exchange.withLane lane sender).clock = exchange.clock := by
  cases sender <;> rfl

/-- What happens in one direction is told by this direction and the clock alone, and leaves the other
direction as it is. -/
theorem step?_moves (move : Move) :
    exchange.step? (.moves sender move) =
      ((exchange.lane sender).step? exchange.clock move).map (exchange.withLane · sender) := by
  cases move with
  | sends piece => cases sender <;> simp [step?, Lane.step?, Function.comp_def] <;> rfl
  | finishes => cases sender <;> rfl
  | copies => cases sender <;> simp [step?, Lane.step?, Relay.step?, Function.comp_def] <;> rfl
  | receives limit => cases sender <;> simp [step?, Lane.step?, Function.comp_def] <;> rfl
  | deserts => cases sender <;> rfl

end Exchange

/-! ## Histories -/

/-- What a sender sends when something happens. -/
def Happening.piece (sender : Peer) : Happening → List UInt8
  | .moves peer (.sends piece) => if peer = sender then piece else []
  | _ => []

/-- The stream of a sender in a history. -/
def sentBy (sender : Peer) (happenings : List Happening) : List UInt8 :=
  happenings.flatMap (·.piece sender)

/-- A sender has said that nothing more comes. -/
def HasFinished (sender : Peer) (happenings : List Happening) : Prop :=
  .moves sender .finishes ∈ happenings

/-- The peer that a sender's stream goes to has gone away. -/
def IsDeserted (sender : Peer) (happenings : List Happening) : Prop :=
  .moves sender .deserts ∈ happenings

instance (sender : Peer) (happenings : List Happening) :
    Decidable (HasFinished sender happenings) :=
  inferInstanceAs (Decidable (_ ∈ happenings))

instance (sender : Peer) (happenings : List Happening) : Decidable (IsDeserted sender happenings) :=
  inferInstanceAs (Decidable (_ ∈ happenings))

section Histories

variable {sender : Peer} {happenings : List Happening} {happening : Happening}

/-- What happens elsewhere sends nothing. -/
theorem Happening.piece_of_foreign (foreign : ∀ move, happening ≠ .moves sender move) :
    happening.piece sender = [] := by
  unfold piece
  split
  · rename_i peer piece
    refine if_neg ?_
    rintro rfl
    exact foreign _ rfl
  · rfl

private theorem sentBy_concat :
    sentBy sender (happenings ++ [happening]) =
      sentBy sender happenings ++ happening.piece sender := by
  unfold sentBy
  rw [List.flatMap_append, List.flatMap_singleton]

private theorem hasFinished_concat_iff :
    HasFinished sender (happenings ++ [happening]) ↔
      HasFinished sender happenings ∨ happening = .moves sender .finishes := by
  unfold HasFinished
  rw [List.mem_append, List.mem_singleton, eq_comm]

theorem isDeserted_concat_iff :
    IsDeserted sender (happenings ++ [happening]) ↔
      IsDeserted sender happenings ∨ happening = .moves sender .deserts := by
  unfold IsDeserted
  rw [List.mem_append, List.mem_singleton, eq_comm]

private theorem sentBy_moves {move : Move} (other : ∀ piece, move ≠ .sends piece) :
    sentBy sender (happenings ++ [.moves sender move]) = sentBy sender happenings := by
  rw [sentBy_concat]
  unfold Happening.piece
  split
  · rename_i same
    exact absurd (Happening.moves.inj same).2 (other _)
  · exact List.append_nil _

private theorem hasFinished_moves_iff {move : Move} (other : move ≠ .finishes) :
    HasFinished sender (happenings ++ [.moves sender move]) ↔ HasFinished sender happenings := by
  rw [hasFinished_concat_iff, or_iff_left]
  exact fun same => other (Happening.moves.inj same).2

private theorem isDeserted_moves_iff {move : Move} (other : move ≠ .deserts) :
    IsDeserted sender (happenings ++ [.moves sender move]) ↔ IsDeserted sender happenings := by
  rw [isDeserted_concat_iff, or_iff_left]
  exact fun same => other (Happening.moves.inj same).2

private theorem count_copies_concat :
    (happenings ++ [happening]).count (.moves sender .copies) =
      happenings.count (.moves sender .copies) +
        if happening = .moves sender .copies then 1 else 0 := by
  rw [List.count_append, List.count_singleton]
  simp

end Histories

/-! ## One step of the relay -/

namespace Lane

variable {lane next : Lane} {now : Nat}

/-- What one step of the relay can do to a direction in which it copies: pass on the end of the stream
or some of its bytes, have its bytes refused, or give up waiting. -/
inductive Copied (now : Nat) (lane : Lane) : Lane → Prop
  | ended (drained : lane.source.unread = []) (finished : lane.source.isFinished = true) :
      Copied now lane { lane with
        flow := lane.flow.stop .finished
        source := lane.source.settle
        sink := lane.sink.finish }
  | moved {byte : UInt8} {bytes : List UInt8} {rest sink : Pipe}
      (read : lane.source.read? lane.flow.bufferSize = some (byte :: bytes, rest))
      (written : lane.sink.write? (byte :: bytes) = some sink) :
      Copied now lane { lane with
        flow := { lane.flow with
          count := lane.flow.count + (byte :: bytes).length
          deadline := lane.flow.idleTimeout.map (now + ·) }
        source := rest
        sink }
  | refused {byte : UInt8} {bytes : List UInt8} {rest : Pipe}
      (read : lane.source.read? lane.flow.bufferSize = some (byte :: bytes, rest))
      (unwritten : lane.sink.write? (byte :: bytes) = none) :
      Copied now lane { lane with flow := lane.flow.stop .failed, source := rest }
  | idled (drained : lane.source.unread = []) (unfinished : lane.source.isFinished = false)
      (overdue : lane.flow.deadline.any (· ≤ now) = true) :
      Copied now lane { lane with flow := lane.flow.stop .idle }

/-- The relay takes a step where it copies and there is something to read, the end of the stream, or a
deadline that has passed; and it does one of four things. -/
theorem step?_copies_cases (lane : Lane) (now : Nat) (room : 0 < lane.flow.bufferSize) :
    (lane.step? now .copies = none ∧
      (lane.flow.state = .copying → lane.source.unread = [] ∧ lane.source.isFinished = false ∧
        lane.flow.deadline.any (· ≤ now) = false)) ∨
    (lane.flow.state = .copying ∧ ∃ next, lane.step? now .copies = some next ∧
      Copied now lane next) := by
  by_cases busy : lane.flow.state = .copying
  · have copies : lane.flow.isCopying = true := decide_eq_true busy
    rcases lane.source.read?_cases room with
      ⟨read, drained, unfinished⟩ | ⟨read, drained, finished⟩ | ⟨byte, bytes, rest, read, _⟩
    · cases overdue : lane.flow.deadline.any (· ≤ now) with
      | false =>
          refine .inl ⟨?_, fun _ => ⟨drained, unfinished, rfl⟩⟩
          simp [step?, Flow.step?, copies, read, overdue]
      | true =>
          refine .inr ⟨busy, _, ?_, .idled drained unfinished overdue⟩
          simp [step?, Flow.step?, copies, read, overdue]
    · refine .inr ⟨busy, _, ?_, .ended drained finished⟩
      simp [step?, Flow.step?, copies, read]
    · cases written : lane.sink.write? (byte :: bytes) with
      | none =>
          refine .inr ⟨busy, _, ?_, .refused read written⟩
          simp [step?, Flow.step?, copies, read, written]
      | some sink =>
          refine .inr ⟨busy, _, ?_, .moved read written⟩
          simp [step?, Flow.step?, copies, read, written]
  · refine .inl ⟨?_, fun copies => absurd copies busy⟩
    have stopped : lane.flow.isCopying = false := decide_eq_false busy
    simp [step?, Flow.step?, stopped]

theorem copied_of_step (room : 0 < lane.flow.bufferSize)
    (stepped : lane.step? now .copies = some next) :
    lane.flow.state = .copying ∧ Copied now lane next := by
  rcases step?_copies_cases lane now room with ⟨none, _⟩ | ⟨busy, other, some, copied⟩
  · exact absurd (none.symm.trans stepped) (by simp)
  · obtain rfl := Option.some.inj (some.symm.trans stepped)
    exact ⟨busy, copied⟩

/-- A direction that waits has read everything, not met the end, and still has time. -/
theorem drained_of_waits (room : 0 < lane.flow.bufferSize) (busy : lane.flow.state = .copying)
    (waits : lane.step? now .copies = none) :
    lane.source.unread = [] ∧ lane.source.isFinished = false ∧
      lane.flow.deadline.any (· ≤ now) = false := by
  rcases step?_copies_cases lane now room with ⟨_, idle⟩ | ⟨_, _, stepped, _⟩
  · exact idle busy
  · exact absurd (waits.symm.trans stepped) (by simp)

/-! ## What every run keeps to -/

/-- How the state of a direction hangs together with the history of an exchange, and within itself. -/
structure Sound (bufferSize : Nat) (idleTimeout : Option Nat) (sender : Peer)
    (happenings : List Happening) (lane : Lane) : Prop where
  bufferSize : lane.flow.bufferSize = bufferSize
  idleTimeout : lane.flow.idleTimeout = idleTimeout
  /-- The relay reads the stream as long as it lasts. -/
  attended : lane.source.isAbandoned = false
  finished : lane.source.isFinished = true ↔ HasFinished sender happenings
  deserted : lane.sink.isAbandoned = true ↔ IsDeserted sender happenings
  /-- What was sent is read by the other peer, or on its way in order. -/
  kept : ¬ IsDeserted sender happenings →
    lane.received ++ lane.sink.unread ++ lane.source.unread = sentBy sender happenings
  counted : ¬ IsDeserted sender happenings →
    lane.flow.count = (lane.received ++ lane.sink.unread).length
  /-- The other peer sees the end exactly when the relay has come to it. -/
  closed : lane.sink.isFinished = true ↔ lane.flow.state = .finished
  drained : lane.flow.state = .finished → lane.source.isFinished = true ∧ lane.source.unread = []
  refused : lane.flow.state = .failed → IsDeserted sender happenings
  /-- Each step takes a byte, but for the last one. -/
  bounded : happenings.count (.moves sender .copies) + lane.source.unread.length ≤
    (sentBy sender happenings).length + if lane.flow.state = .copying then 0 else 1

end Lane

section Steps

variable {bufferSize : Nat} {idleTimeout : Option Nat} {sender : Peer}
  {happenings : List Happening} {lane next : Lane} {now : Nat}

private theorem Lane.sound_start (bufferSize : Nat) (idleTimeout : Option Nat) (now : Nat)
    (sender : Peer) :
    (Lane.start bufferSize idleTimeout now).Sound bufferSize idleTimeout sender [] where
  bufferSize := rfl
  idleTimeout := rfl
  attended := rfl
  finished := by simp [Lane.start, Pipe.empty, HasFinished]
  deserted := by simp [Lane.start, Pipe.empty, IsDeserted]
  kept := fun _ => rfl
  counted := fun _ => rfl
  closed := by simp [Lane.start, Pipe.empty, Flow.start]
  drained := by simp [Lane.start, Flow.start]
  refused := by simp [Lane.start, Flow.start]
  bounded := Nat.le_refl _

namespace Lane.Sound

/-- What happens elsewhere says nothing about a direction. -/
theorem elsewhere (sound : lane.Sound bufferSize idleTimeout sender happenings)
    {happening : Happening} (foreign : ∀ move, happening ≠ .moves sender move) :
    lane.Sound bufferSize idleTimeout sender (happenings ++ [happening]) := by
  have silent := Happening.piece_of_foreign foreign
  have sent : sentBy sender (happenings ++ [happening]) = sentBy sender happenings := by
    rw [sentBy_concat, silent, List.append_nil]
  have finishes : HasFinished sender (happenings ++ [happening]) ↔ HasFinished sender happenings := by
    rw [hasFinished_concat_iff, or_iff_left (foreign _)]
  have deserts : IsDeserted sender (happenings ++ [happening]) ↔ IsDeserted sender happenings := by
    rw [isDeserted_concat_iff, or_iff_left (foreign _)]
  have copies : (happenings ++ [happening]).count (.moves sender .copies) =
      happenings.count (.moves sender .copies) := by
    rw [count_copies_concat, if_neg (foreign _), Nat.add_zero]
  obtain ⟨buffer, timeout, attended, finished, deserted, kept, counted, closed, drained, refused,
    bounded⟩ := sound
  rw [← finishes] at finished
  rw [← sent, ← copies] at bounded
  rw [← deserts] at deserted kept counted refused
  rw [← sent] at kept
  exact ⟨buffer, timeout, attended, finished, deserted, kept, counted, closed, drained, refused,
    bounded⟩

private theorem sends (sound : lane.Sound bufferSize idleTimeout sender happenings)
    {piece : List UInt8} {source : Pipe} (written : lane.source.write? piece = some source) :
    Sound bufferSize idleTimeout sender (happenings ++ [.moves sender (.sends piece)])
      { lane with source } := by
  have unread := Pipe.unread_write written
  obtain ⟨unfinished, _, rfl⟩ := Pipe.write?_eq_some_iff.mp written
  have stays : IsDeserted sender (happenings ++ [.moves sender (.sends piece)]) ↔
      IsDeserted sender happenings := isDeserted_moves_iff (by simp)
  have sent : sentBy sender (happenings ++ [.moves sender (.sends piece)]) =
      sentBy sender happenings ++ piece := by
    rw [sentBy_concat]
    simp [Happening.piece]
  refine ⟨sound.bufferSize, sound.idleTimeout, sound.attended, ?_, ?_, ?_, ?_, sound.closed, ?_, ?_,
    ?_⟩
  · rw [hasFinished_moves_iff (by simp)]
    exact sound.finished
  · rw [stays]
    exact sound.deserted
  · intro present
    rw [unread, sent, ← List.append_assoc, sound.kept (mt stays.mpr present)]
  · intro present
    exact sound.counted (mt stays.mpr present)
  · intro done
    exact absurd (sound.drained done).1 (by simp [unfinished])
  · intro failed
    exact stays.mpr (sound.refused failed)
  · have bounded := sound.bounded
    rw [count_copies_concat, if_neg (by simp), sent, unread, List.length_append,
      List.length_append]
    dsimp only
    omega

private theorem finishes (sound : lane.Sound bufferSize idleTimeout sender happenings) :
    Sound bufferSize idleTimeout sender (happenings ++ [.moves sender .finishes])
      { lane with source := lane.source.finish } := by
  have stays : IsDeserted sender (happenings ++ [.moves sender .finishes]) ↔
      IsDeserted sender happenings := isDeserted_moves_iff (by simp)
  have sent : sentBy sender (happenings ++ [.moves sender .finishes]) =
      sentBy sender happenings := sentBy_moves (by simp)
  refine ⟨sound.bufferSize, sound.idleTimeout, sound.attended, ?_, ?_, ?_, ?_, sound.closed, ?_, ?_,
    ?_⟩
  · exact iff_of_true rfl (hasFinished_concat_iff.mpr (.inr rfl))
  · rw [stays]
    exact sound.deserted
  · intro present
    rw [sent, Pipe.unread_finish]
    exact sound.kept (mt stays.mpr present)
  · intro present
    exact sound.counted (mt stays.mpr present)
  · intro done
    exact ⟨rfl, (sound.drained done).2⟩
  · intro failed
    exact stays.mpr (sound.refused failed)
  · rw [count_copies_concat, if_neg (by simp), sent]
    exact sound.bounded

private theorem receives (sound : lane.Sound bufferSize idleTimeout sender happenings) {limit : Nat}
    {bytes : List UInt8} {sink : Pipe} (read : lane.sink.read? limit = some (bytes, sink)) :
    Sound bufferSize idleTimeout sender (happenings ++ [.moves sender (.receives limit)])
      { lane with sink, received := lane.received ++ bytes } := by
  have unread := (Pipe.unread_read read).1
  obtain ⟨finished, abandoned⟩ := Pipe.flags_of_read read
  have stays : IsDeserted sender (happenings ++ [.moves sender (.receives limit)]) ↔
      IsDeserted sender happenings := isDeserted_moves_iff (by simp)
  have sent : sentBy sender (happenings ++ [.moves sender (.receives limit)]) =
      sentBy sender happenings := sentBy_moves (by simp)
  have same : lane.received ++ bytes ++ sink.unread = lane.received ++ lane.sink.unread := by
    rw [unread, List.append_assoc]
  refine ⟨sound.bufferSize, sound.idleTimeout, sound.attended, ?_, ?_, ?_, ?_, ?_, sound.drained, ?_,
    ?_⟩
  · rw [hasFinished_moves_iff (by simp)]
    exact sound.finished
  · rw [stays, abandoned]
    exact sound.deserted
  · intro present
    rw [same, sent]
    exact sound.kept (mt stays.mpr present)
  · intro present
    rw [same]
    exact sound.counted (mt stays.mpr present)
  · rw [finished]
    exact sound.closed
  · intro failed
    exact stays.mpr (sound.refused failed)
  · rw [count_copies_concat, if_neg (by simp), sent]
    exact sound.bounded

private theorem deserts (sound : lane.Sound bufferSize idleTimeout sender happenings) :
    Sound bufferSize idleTimeout sender (happenings ++ [.moves sender .deserts])
      { lane with sink := lane.sink.abandon } := by
  have gone : IsDeserted sender (happenings ++ [.moves sender .deserts]) :=
    isDeserted_concat_iff.mpr (.inr rfl)
  refine ⟨sound.bufferSize, sound.idleTimeout, sound.attended, ?_, iff_of_true rfl gone,
    absurd gone, absurd gone, sound.closed, sound.drained, fun _ => gone, ?_⟩
  · rw [hasFinished_moves_iff (by simp)]
    exact sound.finished
  · rw [count_copies_concat, if_neg (by simp), sentBy_moves (by simp)]
    exact sound.bounded

/-- Where the relay still copies, the other peer has not been shown an end. -/
theorem unclosed (sound : lane.Sound bufferSize idleTimeout sender happenings)
    (busy : lane.flow.state = .copying) : lane.sink.isFinished = false := by
  refine Bool.eq_false_iff.mpr ?_
  rw [Ne, sound.closed, busy]
  simp

/-- The bound leaves room for one more step, as long as the relay copies. -/
theorem bounded_copying (sound : lane.Sound bufferSize idleTimeout sender happenings)
    (busy : lane.flow.state = .copying) :
    (happenings ++ [Happening.moves sender .copies]).count (.moves sender .copies) +
        lane.source.unread.length ≤
      (sentBy sender (happenings ++ [.moves sender .copies])).length + 1 := by
  have bounded := sound.bounded
  rw [if_pos busy] at bounded
  rw [count_copies_concat, if_pos rfl, sentBy_moves (by simp)]
  omega

private theorem copies_ended (sound : lane.Sound bufferSize idleTimeout sender happenings)
    (busy : lane.flow.state = .copying) (drained : lane.source.unread = [])
    (finished : lane.source.isFinished = true) :
    Sound bufferSize idleTimeout sender (happenings ++ [.moves sender .copies]) { lane with
      flow := lane.flow.stop .finished
      source := lane.source.settle
      sink := lane.sink.finish } := by
  have stays : IsDeserted sender (happenings ++ [.moves sender .copies]) ↔
      IsDeserted sender happenings := isDeserted_moves_iff (by simp)
  refine ⟨sound.bufferSize, sound.idleTimeout, ?_, ?_, ?_, ?_, ?_, iff_of_true rfl rfl, ?_, ?_, ?_⟩
  · exact Pipe.isAbandoned_settle.trans sound.attended
  · rw [hasFinished_moves_iff (by simp), Pipe.isFinished_settle]
    exact sound.finished
  · rw [stays]
    exact sound.deserted
  · intro present
    rw [sentBy_moves (by simp), Pipe.unread_settle, Pipe.unread_finish]
    exact sound.kept (mt stays.mpr present)
  · intro present
    exact sound.counted (mt stays.mpr present)
  · intro _
    exact ⟨Pipe.isFinished_settle.trans finished, Pipe.unread_settle _ |>.trans drained⟩
  · intro failed
    cases failed
  · rw [Pipe.unread_settle, if_neg (by simp [Flow.stop])]
    exact sound.bounded_copying busy

private theorem copies_moved (sound : lane.Sound bufferSize idleTimeout sender happenings)
    (busy : lane.flow.state = .copying) {byte : UInt8} {bytes : List UInt8} {rest sink : Pipe}
    (read : lane.source.read? lane.flow.bufferSize = some (byte :: bytes, rest))
    (written : lane.sink.write? (byte :: bytes) = some sink) :
    Sound bufferSize idleTimeout sender (happenings ++ [.moves sender .copies]) { lane with
      flow := { lane.flow with
        count := lane.flow.count + (byte :: bytes).length
        deadline := lane.flow.idleTimeout.map (now + ·) }
      source := rest
      sink } := by
  have stays : IsDeserted sender (happenings ++ [.moves sender .copies]) ↔
      IsDeserted sender happenings := isDeserted_moves_iff (by simp)
  have unread := (Pipe.unread_read read).1
  have grown := Pipe.unread_write written
  obtain ⟨ends, attended⟩ := Pipe.flags_of_read read
  obtain ⟨_, _, rfl⟩ := Pipe.write?_eq_some_iff.mp written
  refine ⟨sound.bufferSize, sound.idleTimeout, attended.trans sound.attended, ?_, ?_, ?_, ?_,
    sound.closed, ?_, ?_, ?_⟩
  · rw [hasFinished_moves_iff (by simp), ends]
    exact sound.finished
  · rw [stays]
    exact sound.deserted
  · intro present
    rw [sentBy_moves (by simp), ← sound.kept (mt stays.mpr present), grown, unread]
    simp only [List.append_assoc]
  · intro present
    rw [sound.counted (mt stays.mpr present), grown]
    simp only [List.length_append, Nat.add_assoc]
  · intro done
    exact absurd (busy.symm.trans done) (by simp)
  · intro failed
    exact absurd (busy.symm.trans failed) (by simp)
  · have bounded := sound.bounded_copying busy
    rw [unread, List.length_append, List.length_cons] at bounded
    rw [if_pos busy]
    dsimp only
    omega

/-- Bytes are refused only where the other peer is gone. -/
theorem copies_refused (sound : lane.Sound bufferSize idleTimeout sender happenings)
    (busy : lane.flow.state = .copying) {byte : UInt8} {bytes : List UInt8} {rest : Pipe}
    (read : lane.source.read? lane.flow.bufferSize = some (byte :: bytes, rest))
    (unwritten : lane.sink.write? (byte :: bytes) = none) :
    Sound bufferSize idleTimeout sender (happenings ++ [.moves sender .copies])
      { lane with flow := lane.flow.stop .failed, source := rest } := by
  have stays : IsDeserted sender (happenings ++ [.moves sender .copies]) ↔
      IsDeserted sender happenings := isDeserted_moves_iff (by simp)
  have unread := (Pipe.unread_read read).1
  obtain ⟨ends, attended⟩ := Pipe.flags_of_read read
  have abandoned : lane.sink.isAbandoned = true :=
    (Pipe.write?_eq_none_iff.mp unwritten).resolve_left (by simp [sound.unclosed busy])
  have gone := stays.mpr (sound.deserted.mp abandoned)
  refine ⟨sound.bufferSize, sound.idleTimeout, attended.trans sound.attended, ?_,
    iff_of_true abandoned gone, absurd gone, absurd gone, ?_, ?_, fun _ => gone, ?_⟩
  · rw [hasFinished_moves_iff (by simp), ends]
    exact sound.finished
  · rw [sound.unclosed busy]
    simp [Flow.stop]
  · intro done
    cases done
  · have bounded := sound.bounded_copying busy
    rw [unread, List.length_append] at bounded
    rw [if_neg (by simp [Flow.stop])]
    dsimp only
    omega

private theorem copies_idled (sound : lane.Sound bufferSize idleTimeout sender happenings)
    (busy : lane.flow.state = .copying) :
    Sound bufferSize idleTimeout sender (happenings ++ [.moves sender .copies])
      { lane with flow := lane.flow.stop .idle } := by
  have stays : IsDeserted sender (happenings ++ [.moves sender .copies]) ↔
      IsDeserted sender happenings := isDeserted_moves_iff (by simp)
  refine ⟨sound.bufferSize, sound.idleTimeout, sound.attended, ?_, ?_, ?_, ?_, ?_, ?_, ?_, ?_⟩
  · rw [hasFinished_moves_iff (by simp)]
    exact sound.finished
  · rw [stays]
    exact sound.deserted
  · intro present
    rw [sentBy_moves (by simp)]
    exact sound.kept (mt stays.mpr present)
  · intro present
    exact sound.counted (mt stays.mpr present)
  · rw [sound.unclosed busy]
    simp [Flow.stop]
  · intro done
    cases done
  · intro failed
    cases failed
  · rw [if_neg (by simp [Flow.stop])]
    exact sound.bounded_copying busy

private theorem copies (sound : lane.Sound bufferSize idleTimeout sender happenings)
    (busy : lane.flow.state = .copying) (copied : Copied now lane next) :
    next.Sound bufferSize idleTimeout sender (happenings ++ [.moves sender .copies]) := by
  cases copied with
  | ended drained finished => exact sound.copies_ended busy drained finished
  | moved read written => exact sound.copies_moved busy read written
  | refused read unwritten => exact sound.copies_refused busy read unwritten
  | idled _ _ _ => exact sound.copies_idled busy

/-- Whatever happens in a direction keeps it sound. -/
theorem step (sound : lane.Sound bufferSize idleTimeout sender happenings) (room : 0 < bufferSize)
    {move : Move} (stepped : lane.step? now move = some next) :
    next.Sound bufferSize idleTimeout sender (happenings ++ [.moves sender move]) := by
  cases move with
  | sends piece =>
      obtain ⟨source, written, rfl⟩ := Option.map_eq_some_iff.mp stepped
      exact sound.sends written
  | finishes =>
      obtain rfl := Option.some.inj stepped
      exact sound.finishes
  | copies =>
      obtain ⟨busy, copied⟩ := copied_of_step (by rw [sound.bufferSize]; exact room) stepped
      exact sound.copies busy copied
  | receives limit =>
      obtain ⟨⟨bytes, sink⟩, read, rfl⟩ := Option.map_eq_some_iff.mp stepped
      exact sound.receives read
  | deserts =>
      obtain rfl := Option.some.inj stepped
      exact sound.deserts

end Lane.Sound

end Steps

/-! ## Runs -/

namespace Exchange

variable {exchange next : Exchange} {happenings : List Happening} {bufferSize now : Nat}
  {idleTimeout : Option Nat}

/-- What one thing that happens does to each of the directions. -/
theorem lane_step {happening : Happening} (stepped : exchange.step? happening = some next)
    (sender : Peer) :
    (∃ move, happening = .moves sender move ∧
      (exchange.lane sender).step? exchange.clock move = some (next.lane sender)) ∨
    ((∀ move, happening ≠ .moves sender move) ∧ next.lane sender = exchange.lane sender) := by
  cases happening with
  | moves peer move =>
      rw [step?_moves] at stepped
      obtain ⟨lane, moved, rfl⟩ := Option.map_eq_some_iff.mp stepped
      rw [lane_withLane]
      by_cases own : sender = peer
      · subst own
        exact .inl ⟨move, rfl, by rw [if_pos rfl]; exact moved⟩
      · refine .inr ⟨fun _ same => own ?_, if_neg own⟩
        exact (Happening.moves.inj same).1.symm
  | passes duration =>
      obtain rfl := Option.some.inj stepped
      exact .inr ⟨by simp, by cases sender <;> rfl⟩

/-- Every run keeps both directions sound. -/
theorem sound_of_run (room : 0 < bufferSize) (sender : Peer)
    (ran : (start bufferSize idleTimeout now).run? happenings = some exchange) :
    (exchange.lane sender).Sound bufferSize idleTimeout sender happenings := by
  -- Histories grow at their end, so the last thing that happened is taken off.
  induction happenings using List.reverseRecOn generalizing exchange with
  | nil =>
      obtain rfl := Option.some.inj ran
      rw [lane_start]
      exact Lane.sound_start bufferSize idleTimeout now sender
  | append_singleton happenings happening inductionHypothesis =>
      rw [run?_concat] at ran
      obtain ⟨earlier, before, stepped⟩ := Option.bind_eq_some_iff.mp ran
      have sound := inductionHypothesis before
      rcases lane_step stepped sender with ⟨move, rfl, moved⟩ | ⟨foreign, same⟩
      · exact sound.step room moved
      · rw [same]
        exact sound.elsewhere foreign

end Exchange

end Admission.Stream
