import Admission.Proofs.Stream.Transparency

/-!
Contract: when a relay stops for idleness.

Each direction has a timer of its own, which only the bytes of its own sender put back. So a direction
stops when its sender was silent for the timeout, whatever the other peer sent in the meantime; and what
that sender sends later is not relayed, though the other direction goes on.

Owns:
- `silence`, how long a sender has sent nothing, told by the history alone;
- `Exchange.runPromptly?`, the runs in which the relay is never late;
- `StopsOnOwnSilence` and `directions_stop_on_their_own_silence`, with a run in which a byte gets lost
  although the peers were never silent at the same time.
-/

namespace Admission.Stream

/-! ## Silence -/

def Happening.duration : Happening → Nat
  | .moves _ _ => 0
  | .passes duration => duration

/-- The time since the last byte of a sender, or since the beginning. -/
def silence (sender : Peer) (happenings : List Happening) : Nat :=
  happenings.foldl
    (fun past happening =>
      if happening.piece sender = [] then past + happening.duration else 0) 0

section

variable {sender : Peer} {happenings : List Happening} {happening : Happening}

private theorem silence_concat :
    silence sender (happenings ++ [happening]) =
      if happening.piece sender = [] then silence sender happenings + happening.duration else 0 := by
  unfold silence
  rw [List.foldl_append]
  rfl

private theorem silence_of_silent (silent : happening.piece sender = []) :
    silence sender (happenings ++ [happening]) =
      silence sender happenings + happening.duration := by
  rw [silence_concat, if_pos silent]

end

/-! ## Single steps -/

namespace Lane

variable {lane next : Lane} {now : Nat} {move : Move}

/-- Only the relay changes how far it has come. -/
theorem flow_of_step (other : move ≠ .copies) (stepped : lane.step? now move = some next) :
    next.flow = lane.flow := by
  cases move with
  | sends piece =>
      obtain ⟨_, _, rfl⟩ := Option.map_eq_some_iff.mp stepped
      rfl
  | finishes =>
      obtain rfl := Option.some.inj stepped
      rfl
  | copies => exact absurd rfl other
  | receives limit =>
      obtain ⟨_, _, rfl⟩ := Option.map_eq_some_iff.mp stepped
      rfl
  | deserts =>
      obtain rfl := Option.some.inj stepped
      rfl

/-- Only sending adds to what the relay has to read. -/
theorem unread_of_step (other : move ≠ .copies) (sender : Peer)
    (stepped : lane.step? now move = some next) :
    next.source.unread = lane.source.unread ++ (Happening.moves sender move).piece sender := by
  cases move with
  | sends piece =>
      obtain ⟨source, written, rfl⟩ := Option.map_eq_some_iff.mp stepped
      simpa [Happening.piece] using Pipe.unread_write written
  | finishes =>
      obtain rfl := Option.some.inj stepped
      exact (List.append_nil _).symm
  | copies => exact absurd rfl other
  | receives limit =>
      obtain ⟨_, _, rfl⟩ := Option.map_eq_some_iff.mp stepped
      exact (List.append_nil _).symm
  | deserts =>
      obtain rfl := Option.some.inj stepped
      exact (List.append_nil _).symm

/-- What came out stays what came out, unless the reader goes away. -/
theorem delivered_of_step (other : move ≠ .copies) (stays : move ≠ .deserts)
    (stepped : lane.step? now move = some next) :
    next.received ++ next.sink.unread = lane.received ++ lane.sink.unread := by
  cases move with
  | sends piece =>
      obtain ⟨_, _, rfl⟩ := Option.map_eq_some_iff.mp stepped
      rfl
  | finishes =>
      obtain rfl := Option.some.inj stepped
      rfl
  | copies => exact absurd rfl other
  | receives limit =>
      obtain ⟨⟨bytes, sink⟩, read, rfl⟩ := Option.map_eq_some_iff.mp stepped
      dsimp only
      rw [(Pipe.unread_read read).1, List.append_assoc]
  | deserts => exact absurd rfl stays

end Lane

theorem Exchange.clock_of_step {exchange next : Exchange} {happening : Happening}
    (stepped : exchange.step? happening = some next) :
    next.clock = exchange.clock + happening.duration := by
  cases happening with
  | moves sender move =>
      rw [step?_moves] at stepped
      obtain ⟨lane, _, rfl⟩ := Option.map_eq_some_iff.mp stepped
      rw [clock_withLane]
      rfl
  | passes duration =>
      obtain rfl := Option.some.inj stepped
      rfl

/-! ## Timers -/

/-- The timer of a direction runs from the last read of the relay, which is not before the last byte of
the sender, once everything is read. -/
structure Lane.Timed (timeout clock silence : Nat) (lane : Lane) : Prop where
  limited : lane.flow.idleTimeout = some timeout
  runs : lane.flow.state = .copying → ∃ deadline, lane.flow.deadline = some deadline ∧
    (lane.source.unread = [] → clock + timeout ≤ deadline + silence)

section Timers

variable {bufferSize timeout clock silent : Nat} {lane next : Lane} {move : Move}

private theorem Lane.timed_start (bufferSize timeout now : Nat) :
    (Lane.start bufferSize (some timeout) now).Timed timeout now 0 where
  limited := rfl
  runs := fun _ => ⟨now + timeout, rfl, fun _ => Nat.le_refl _⟩

/-- Time passes for the clock and for the silence alike. -/
theorem Lane.Timed.pass (timed : lane.Timed timeout clock silent) (duration : Nat) :
    lane.Timed timeout (clock + duration) (silent + duration) := by
  refine ⟨timed.limited, fun busy => ?_⟩
  obtain ⟨deadline, set, runs⟩ := timed.runs busy
  refine ⟨deadline, set, fun drained => ?_⟩
  have order := runs drained
  omega

private theorem Lane.Timed.copies (timed : lane.Timed timeout clock silent)
    (copied : Copied clock lane next) : next.Timed timeout clock silent := by
  cases copied with
  | ended drained finished => exact ⟨timed.limited, fun busy => absurd busy (by simp [Flow.stop])⟩
  | moved read written =>
      refine ⟨timed.limited, fun _ => ⟨clock + timeout, ?_, fun _ => Nat.le_add_right _ _⟩⟩
      simp [timed.limited]
  | refused read unwritten => exact ⟨timed.limited, fun busy => absurd busy (by simp [Flow.stop])⟩
  | idled drained unfinished overdue =>
      exact ⟨timed.limited, fun busy => absurd busy (by simp [Flow.stop])⟩

theorem Lane.Timed.step {sender : Peer} {happenings : List Happening}
    (timed : lane.Timed timeout clock (silence sender happenings))
    (room : 0 < lane.flow.bufferSize) (stepped : lane.step? clock move = some next) :
    next.Timed timeout clock (silence sender (happenings ++ [.moves sender move])) := by
  by_cases copies : move = .copies
  · subst copies
    rw [silence_of_silent (show (Happening.moves sender .copies).piece sender = [] from rfl)]
    exact timed.copies (copied_of_step room stepped).2
  · have flow := flow_of_step copies stepped
    have unread := unread_of_step copies sender stepped
    refine ⟨by rw [flow]; exact timed.limited, fun busy => ?_⟩
    rw [flow] at busy ⊢
    obtain ⟨deadline, set, runs⟩ := timed.runs busy
    refine ⟨deadline, set, fun drained => ?_⟩
    rw [unread, List.append_eq_nil_iff] at drained
    rw [silence_of_silent drained.2]
    exact runs drained.1

/-- In every run, timers run from the last read. -/
theorem Exchange.timed_of_run {now : Nat} {happenings : List Happening} {exchange : Exchange}
    (room : 0 < bufferSize) (sender : Peer)
    (ran : (start bufferSize (some timeout) now).run? happenings = some exchange) :
    (exchange.lane sender).Timed timeout exchange.clock (silence sender happenings) := by
  induction happenings using List.reverseRecOn generalizing exchange with
  | nil =>
      obtain rfl := Option.some.inj ran
      rw [lane_start]
      exact Lane.timed_start bufferSize timeout now
  | append_singleton happenings happening inductionHypothesis =>
      rw [run?_concat] at ran
      obtain ⟨earlier, before, stepped⟩ := Option.bind_eq_some_iff.mp ran
      have timed := inductionHypothesis before
      have sound := sound_of_run room sender before
      rw [clock_of_step stepped]
      rcases lane_step stepped sender with ⟨move, rfl, moved⟩ | ⟨foreign, same⟩
      · exact timed.step (sound.bufferSize ▸ room) moved
      · rw [same, silence_of_silent (Happening.piece_of_foreign foreign)]
        exact timed.pass happening.duration

end Timers

/-! ## Relays that are never late -/

namespace Exchange

/-- The relay has nothing left to do for now. -/
def isAtRest (exchange : Exchange) : Bool :=
  [Peer.client, Peer.backend].all fun sender => (exchange.step? (.moves sender .copies)).isNone

/-- Time passes only when the relay is at rest, and not beyond its deadline. -/
def isInTime (exchange : Exchange) : Happening → Bool
  | .moves _ _ => true
  | .passes duration =>
      exchange.isAtRest && exchange.relay.deadline.all (exchange.clock + duration ≤ ·)

def stepPromptly? (exchange : Exchange) (happening : Happening) : Option Exchange :=
  if exchange.isInTime happening then exchange.step? happening else none

/-- The exchange after things happened to a relay that was never late. -/
def runPromptly? (exchange : Exchange) (happenings : List Happening) : Option Exchange :=
  happenings.foldlM stepPromptly? exchange

private theorem runPromptly?_concat (exchange : Exchange) (happenings : List Happening)
    (happening : Happening) :
    exchange.runPromptly? (happenings ++ [happening]) =
      (exchange.runPromptly? happenings).bind (·.stepPromptly? happening) := by
  unfold runPromptly?
  rw [List.foldlM_append]
  congr 1
  funext next
  exact bind_pure _

private theorem stepPromptly?_eq_some_iff {exchange next : Exchange} {happening : Happening} :
    exchange.stepPromptly? happening = some next ↔
      exchange.isInTime happening = true ∧ exchange.step? happening = some next := by
  unfold stepPromptly?
  split <;> simp_all

private theorem isAtRest_iff {exchange : Exchange} :
    exchange.isAtRest = true ↔ ∀ sender, exchange.step? (.moves sender .copies) = none := by
  unfold isAtRest
  rw [List.all_eq_true]
  constructor
  · intro rest sender
    refine Option.isNone_iff_eq_none.mp (rest sender ?_)
    cases sender <;> simp
  · intro rest sender _
    exact Option.isNone_iff_eq_none.mpr (rest sender)

/-- A relay that is not beyond its deadline is not beyond that of either direction. -/
theorem deadline_le {relay : Relay} {sender : Peer} {deadline bound : Nat}
    (set : (relay.flow sender).deadline = some deadline)
    (within : relay.deadline.all (bound ≤ ·) = true) : bound ≤ deadline := by
  have listed : deadline ∈ [relay.toBackend, relay.toClient].filterMap (·.deadline) := by
    rw [List.mem_filterMap]
    cases sender with
    | client => exact ⟨relay.toBackend, by simp, set⟩
    | backend => exact ⟨relay.toClient, by simp, set⟩
  cases least : relay.deadline with
  | none =>
      rw [Relay.deadline, List.min?_eq_none_iff] at least
      rw [least] at listed
      cases listed
  | some first =>
      rw [least, Option.all_some, decide_eq_true_iff] at within
      exact Nat.le_trans within ((List.min?_eq_some_iff.mp least).2 _ listed)

end Exchange

/-- If the relay is never late, a timer that has not run out tells how long the sender was silent. -/
structure Lane.Punctual (timeout clock silence : Nat) (lane : Lane) : Prop where
  limited : lane.flow.idleTimeout = some timeout
  runs : lane.flow.state = .copying → ∃ deadline, lane.flow.deadline = some deadline ∧
    clock ≤ deadline ∧
    (lane.source.unread = [] → deadline + silence = clock + timeout) ∧
    (lane.source.unread ≠ [] → silence = 0)

section Punctual

variable {bufferSize timeout clock silent : Nat} {lane next : Lane} {move : Move}

private theorem Lane.punctual_start (bufferSize timeout now : Nat) :
    (Lane.start bufferSize (some timeout) now).Punctual timeout now 0 where
  limited := rfl
  runs := fun _ => ⟨now + timeout, rfl, Nat.le_add_right _ _, fun _ => rfl, fun _ => rfl⟩

private theorem Lane.Punctual.pass (punctual : lane.Punctual timeout clock silent) {duration : Nat}
    (room : 0 < lane.flow.bufferSize) (waits : lane.step? clock .copies = none)
    (within : ∀ deadline, lane.flow.deadline = some deadline → clock + duration ≤ deadline) :
    lane.Punctual timeout (clock + duration) (silent + duration) := by
  refine ⟨punctual.limited, fun busy => ?_⟩
  obtain ⟨deadline, set, _, runs, _⟩ := punctual.runs busy
  -- A direction that waits has read everything, so the silence began at its last read.
  have drained := (drained_of_waits room busy waits).1
  have order := runs drained
  refine ⟨deadline, set, within deadline set, fun _ => ?_, absurd drained⟩
  omega

private theorem Lane.Punctual.copies (punctual : lane.Punctual timeout clock silent)
    (busy : lane.flow.state = .copying) (copied : Copied clock lane next) :
    next.Punctual timeout clock silent := by
  cases copied with
  | ended drained finished =>
      exact ⟨punctual.limited, fun busy => absurd busy (by simp [Flow.stop])⟩
  | moved read written =>
      obtain ⟨_, _, _, _, fresh⟩ := punctual.runs busy
      have spoke : silent = 0 := by
        refine fresh ?_
        rw [(Pipe.unread_read read).1]
        simp
      refine ⟨punctual.limited, fun _ => ⟨clock + timeout, ?_, Nat.le_add_right _ _, ?_, ?_⟩⟩
      · simp [punctual.limited]
      · intro _
        rw [spoke]
        rfl
      · exact fun _ => spoke
  | refused read unwritten =>
      exact ⟨punctual.limited, fun busy => absurd busy (by simp [Flow.stop])⟩
  | idled drained unfinished overdue =>
      exact ⟨punctual.limited, fun busy => absurd busy (by simp [Flow.stop])⟩

theorem Lane.Punctual.step {sender : Peer} {happenings : List Happening}
    (punctual : lane.Punctual timeout clock (silence sender happenings))
    (room : 0 < lane.flow.bufferSize) (stepped : lane.step? clock move = some next) :
    next.Punctual timeout clock (silence sender (happenings ++ [.moves sender move])) := by
  by_cases copies : move = .copies
  · subst copies
    obtain ⟨busy, copied⟩ := copied_of_step room stepped
    rw [silence_of_silent (show (Happening.moves sender .copies).piece sender = [] from rfl)]
    exact punctual.copies busy copied
  · have flow := flow_of_step copies stepped
    have unread := unread_of_step copies sender stepped
    refine ⟨by rw [flow]; exact punctual.limited, fun busy => ?_⟩
    rw [flow] at busy ⊢
    obtain ⟨deadline, set, ahead, runs, fresh⟩ := punctual.runs busy
    refine ⟨deadline, set, ahead, fun drained => ?_, fun waiting => ?_⟩
    · rw [unread, List.append_eq_nil_iff] at drained
      rw [silence_of_silent drained.2]
      exact runs drained.1
    · rw [silence_concat]
      split
      · rename_i silent
        rw [unread, silent, List.append_nil] at waiting
        rw [fresh waiting]
        rfl
      · rfl

/-- Where a direction copies, its sender has been silent for the timeout at most. -/
theorem Lane.Punctual.silence_le (punctual : lane.Punctual timeout clock silent)
    (busy : lane.flow.state = .copying) : silent ≤ timeout := by
  obtain ⟨deadline, _, ahead, runs, fresh⟩ := punctual.runs busy
  by_cases drained : lane.source.unread = []
  · have order := runs drained
    omega
  · rw [fresh drained]
    exact Nat.zero_le _

/-- Where it also waits, for less than that. -/
theorem Lane.Punctual.silence_lt (punctual : lane.Punctual timeout clock silent)
    (room : 0 < lane.flow.bufferSize) (busy : lane.flow.state = .copying)
    (waits : lane.step? clock .copies = none) : silent < timeout := by
  obtain ⟨deadline, set, _, runs, _⟩ := punctual.runs busy
  obtain ⟨drained, _, early⟩ := drained_of_waits room busy waits
  have order := runs drained
  rw [set, Option.any_some, decide_eq_false_iff_not] at early
  omega

/-- In every run of a relay that is never late, timers tell how long the senders were silent. -/
theorem Exchange.punctual_of_run {now : Nat} {happenings : List Happening} {exchange : Exchange}
    (room : 0 < bufferSize) (sender : Peer)
    (ran : (start bufferSize (some timeout) now).runPromptly? happenings = some exchange) :
    (start bufferSize (some timeout) now).run? happenings = some exchange ∧
      (exchange.lane sender).Punctual timeout exchange.clock (silence sender happenings) := by
  induction happenings using List.reverseRecOn generalizing exchange with
  | nil =>
      obtain rfl := Option.some.inj ran
      rw [lane_start]
      exact ⟨rfl, Lane.punctual_start bufferSize timeout now⟩
  | append_singleton happenings happening inductionHypothesis =>
      rw [runPromptly?_concat] at ran
      obtain ⟨earlier, before, stepped⟩ := Option.bind_eq_some_iff.mp ran
      obtain ⟨inTime, stepped⟩ := stepPromptly?_eq_some_iff.mp stepped
      obtain ⟨went, punctual⟩ := inductionHypothesis before
      have sound := sound_of_run room sender went
      have roomy : 0 < (earlier.lane sender).flow.bufferSize := sound.bufferSize ▸ room
      refine ⟨by rw [run?_concat, went]; exact stepped, ?_⟩
      rw [clock_of_step stepped]
      rcases lane_step stepped sender with ⟨move, rfl, moved⟩ | ⟨foreign, same⟩
      · exact punctual.step roomy moved
      · rw [same, silence_of_silent (Happening.piece_of_foreign foreign)]
        cases happening with
        | moves peer move => exact punctual
        | passes duration =>
            obtain ⟨rest, within⟩ := Bool.and_eq_true_iff.mp inTime
            have waits := isAtRest_iff.mp rest sender
            rw [step?_moves, Option.map_eq_none_iff] at waits
            exact punctual.pass roomy waits fun deadline set => deadline_le set within

end Punctual

/-! ## The end of a direction -/

/-- A direction stopped when its sender had been silent for the timeout; what had been sent by then came
out, and nothing else will. -/
structure StoppedBy (timeout : Nat) (sender : Peer) (before : List Happening) (lane : Lane) :
    Prop where
  unfinished : ¬ HasFinished sender before
  silent : timeout ≤ silence sender before
  delivered : lane.received ++ lane.sink.unread = sentBy sender before

section

variable {bufferSize timeout now : Nat} {sender : Peer} {happenings : List Happening}
  {exchange : Exchange}

/-- A direction that idles was stopped by a single step, after its sender's own silence. -/
private theorem Exchange.stopped_of_idle (room : 0 < bufferSize)
    (ran : (start bufferSize (some timeout) now).run? happenings = some exchange)
    (present : ¬ IsDeserted sender happenings)
    (idle : (exchange.lane sender).flow.state = .idle) :
    ∃ before after, happenings = before ++ .moves sender .copies :: after ∧
      StoppedBy timeout sender before (exchange.lane sender) := by
  induction happenings using List.reverseRecOn generalizing exchange with
  | nil =>
      obtain rfl := Option.some.inj ran
      rw [lane_start] at idle
      cases idle
  | append_singleton happenings happening inductionHypothesis =>
      rw [run?_concat] at ran
      obtain ⟨earlier, before, stepped⟩ := Option.bind_eq_some_iff.mp ran
      have stayed : ¬ IsDeserted sender happenings :=
        mt (fun gone => isDeserted_concat_iff.mpr (.inl gone)) present
      have sound := sound_of_run room sender before
      -- What the direction did earlier stands, if this step left its state and its output alone.
      have lasting : (exchange.lane sender).flow = (earlier.lane sender).flow →
          (exchange.lane sender).received ++ (exchange.lane sender).sink.unread =
            (earlier.lane sender).received ++ (earlier.lane sender).sink.unread →
          ∃ past after, happenings ++ [happening] = past ++ .moves sender .copies :: after ∧
            StoppedBy timeout sender past (exchange.lane sender) := by
        intro flow output
        rw [flow] at idle
        obtain ⟨past, after, rfl, unfinished, silent, delivered⟩ :=
          inductionHypothesis before stayed idle
        exact ⟨past, after ++ [happening], by simp, unfinished, silent, output.trans delivered⟩
      rcases lane_step stepped sender with ⟨move, rfl, moved⟩ | ⟨_, same⟩
      · by_cases copies : move = .copies
        · subst copies
          obtain ⟨busy, copied⟩ := Lane.copied_of_step (sound.bufferSize ▸ room) moved
          have timed := timed_of_run room sender before
          obtain ⟨deadline, set, runs⟩ := timed.runs busy
          have kept := sound.kept stayed
          refine ⟨happenings, [], rfl, ?_⟩
          generalize exchange.lane sender = after at copied idle
          cases copied with
          | ended drained finished => cases idle
          | moved read written => exact absurd (busy.symm.trans idle) (by simp)
          | refused read unwritten => cases idle
          | idled drained unfinished overdue =>
              rw [set, Option.any_some, decide_eq_true_iff] at overdue
              have order := runs drained
              refine ⟨?_, by omega, ?_⟩
              · rw [← sound.finished, unfinished]
                simp
              · rw [← kept, drained, List.append_nil]
        · have stays : move ≠ .deserts := by
            rintro rfl
            exact present (isDeserted_concat_iff.mpr (.inr rfl))
          exact lasting (Lane.flow_of_step copies moved)
            (Lane.delivered_of_step copies stays moved)
      · exact lasting (by rw [same]) (by rw [same])

end

/-- How a direction with an idle timeout stands to the silence of its sender. -/
structure StopsOnOwnSilence (bufferSize timeout now : Nat) (sender : Peer)
    (happenings : List Happening) (exchange : Exchange) : Prop where
  /-- It stops in a single step after a silence of its own sender; all that was sent before came out, and
  nothing that is sent later. -/
  stopped : (exchange.relay.flow sender).state = .idle →
    ∃ before after, happenings = before ++ .moves sender .copies :: after ∧
      ¬ HasFinished sender before ∧ timeout ≤ silence sender before ∧
      exchange.delivered sender = sentBy sender before
  /-- If it has not stopped, nothing is lost, and all of it comes out when the relay comes to rest. -/
  relayed : (exchange.relay.flow sender).state ≠ .idle →
    exchange.delivered sender ++ (exchange.pipes.source sender).unread = sentBy sender happenings ∧
      (exchange.isAtRest = true → exchange.delivered sender = sentBy sender happenings)
  /-- If the relay is never late, it stops as soon as the silence has lasted for the timeout. -/
  punctual : (Exchange.start bufferSize (some timeout) now).runPromptly? happenings = some exchange →
    ¬ HasFinished sender happenings → (exchange.relay.flow sender).state ≠ .idle →
    silence sender happenings ≤ timeout ∧
      (exchange.isAtRest = true → silence sender happenings < timeout)

/-- Each direction stops on the silence of its own sender and on nothing else: the other peer neither
keeps it going nor stops it. -/
theorem directions_stop_on_their_own_silence {bufferSize timeout now : Nat} {sender : Peer}
    {happenings : List Happening} {exchange : Exchange} (room : 0 < bufferSize)
    (ran : (Exchange.start bufferSize (some timeout) now).run? happenings = some exchange)
    (present : ¬ IsDeserted sender happenings) :
    StopsOnOwnSilence bufferSize timeout now sender happenings exchange := by
  have sound := Exchange.sound_of_run room sender ran
  have waits_of_rest : exchange.isAtRest = true →
      (exchange.lane sender).step? exchange.clock .copies = none := by
    intro rest
    have waits := Exchange.isAtRest_iff.mp rest sender
    rwa [Exchange.step?_moves, Option.map_eq_none_iff] at waits
  refine ⟨?_, ?_, ?_⟩
  · intro idle
    obtain ⟨before, after, split, unfinished, silent, delivered⟩ :=
      Exchange.stopped_of_idle room ran present idle
    exact ⟨before, after, split, unfinished, silent, delivered⟩
  · intro awake
    refine ⟨sound.kept present, fun rest => ?_⟩
    exact (sound.settled room present awake (waits_of_rest rest)).1
  · intro prompt unfinished awake
    have punctual := (Exchange.punctual_of_run room sender prompt).2
    rcases sound.copies_or_complete present awake with ⟨busy, _⟩ | complete
    · refine ⟨punctual.silence_le busy, fun rest => ?_⟩
      exact punctual.silence_lt (sound.bufferSize ▸ room) busy (waits_of_rest rest)
    · exact absurd complete.finished unfinished

/-- Only the client sends, the last time when the backend has been silent for a while. -/
def oneSided : List Happening :=
  [.moves .client (.sends [97]), .moves .client .copies, .passes 200,
    .moves .client (.sends [98]), .moves .client .copies, .passes 100, .moves .backend .copies]

theorem directions_stop_on_their_own_silence_oneSided :
    ∃ exchange, (Exchange.start 8 (some 300) 0).run? oneSided = some exchange ∧
      (exchange.relay.flow .backend).state = .idle ∧
      StopsOnOwnSilence 8 300 0 .backend oneSided exchange := by
  refine ⟨((Exchange.start 8 (some 300) 0).run? oneSided).get (by decide),
    (Option.some_get _).symm, by decide, ?_⟩
  exact directions_stop_on_their_own_silence (by decide) (Option.some_get _).symm (by decide)

/-- A byte that the backend sends 100 after a byte of the client is not relayed, with an idle timeout of
300, before either of them has finished: the silence of the backend alone has stopped its direction. -/
theorem byte_lost_between_bytes_of_the_other_peer :
    ∃ exchange,
      (Exchange.start 8 (some 300) 0).runPromptly? (oneSided ++ [.moves .backend (.sends [99])]) =
        some exchange ∧
      silence .client oneSided = 100 ∧
      (∀ sender, ¬ HasFinished sender oneSided) ∧
      exchange.isAtRest = true ∧
      (exchange.relay.flow .client).state = .copying ∧
      (exchange.relay.flow .backend).state = .idle ∧
      sentBy .backend (oneSided ++ [.moves .backend (.sends [99])]) = [99] ∧
      exchange.delivered .backend = [] := by
  refine ⟨((Exchange.start 8 (some 300) 0).runPromptly?
    (oneSided ++ [.moves .backend (.sends [99])])).get (by decide), (Option.some_get _).symm,
    by decide, fun sender => by cases sender <;> decide, by decide, by decide, by decide, by decide,
    by decide⟩

end Admission.Stream
