import Admission.Proofs.Tls.Stability
import Admission.Tls.Inspector

/-!
Contract: how the bytes of a stream are cut into pieces does not matter to the TLS inspector.

Owns:
- `Pipeline.feed`, a pipeline to which the first bytes of a stream are handed time after time;
- `Decides`, that the inspector has seen enough, and `feed_inspection`, that it acts on the whole
  stream as soon as it does;
- `chunking_is_invisible`.
-/

namespace Admission.Listener.Pipeline

variable {σ : Type}

/-- A pipeline and its socket after all readable bytes have been handed over several times, each time
the first so many bytes of a stream. -/
def feed (held : Pipeline σ × Socket) (stream : List UInt8) (lengths : List Nat) :
    Pipeline σ × Socket :=
  lengths.foldl (fun held length => held.1.onData held.2 (stream.take length)) held

private theorem onData_of_not_suspended {pipeline : Pipeline σ} (done : pipeline.state ≠ .suspended)
    (socket : Socket) (data : List UInt8) : pipeline.onData socket data = (pipeline, socket) :=
  if_pos done

/-- A pipeline that no filter holds takes no notice of bytes. -/
theorem feed_of_not_suspended {held : Pipeline σ × Socket} (done : held.1.state ≠ .suspended)
    (stream : List UInt8) (lengths : List Nat) : feed held stream lengths = held := by
  induction lengths with
  | nil => rfl
  | cons length rest inductionHypothesis =>
      unfold feed at inductionHypothesis ⊢
      rw [List.foldl_cons, onData_of_not_suspended done]
      exact inductionHypothesis

/-- Behind the last filter the pipeline is through. -/
theorem iterate_of_length_le {pipeline : Pipeline σ}
    (passed : pipeline.filters.length ≤ pipeline.cursor) (socket : Socket) :
    pipeline.iterate socket = (pipeline.enter .completed, socket) := by
  rw [iterate]
  split
  · rfl
  · rename_i filter found
    rw [List.getElem?_eq_none passed] at found
    exact absurd found (by simp)

/-- What the answer of the filter that holds the pipeline leads to. -/
theorem onData_of_suspended {pipeline : Pipeline σ} (held : pipeline.state = .suspended)
    {filter : ListenerFilter σ} (current : pipeline.filters[pipeline.cursor]? = some filter)
    {socket : Socket} {data : List UInt8} {reply : FilterReply σ}
    (answer : filter.onData filter.memory socket data = reply) :
    pipeline.onData socket data =
      let learned := socket.learn reply.findings
      if !learned.isOpen then ((pipeline.remember reply.memory).enter .terminated, learned)
      else match reply.status with
        | .hold => (pipeline.remember reply.memory, learned)
        | .proceed => (pipeline.remember reply.memory).advance.iterate learned := by
  subst answer
  unfold onData
  rw [if_neg (not_not_intro held)]
  generalize pipeline.filters[pipeline.cursor]? = found at current ⊢
  subst current
  rfl

end Admission.Listener.Pipeline

namespace Admission.Tls

open Admission.Listener

private theorem learn_nothing (socket : Socket) : socket.learn .nothing = socket := rfl

/-! ## The answer of the inspector -/

/-- The inspector does not wait for more bytes. -/
def Decides (limit : Nat) (data : List UInt8) : Prop :=
  inspect limit data ≠ (.nothing, .hold)

instance (limit : Nat) (data : List UInt8) : Decidable (Decides limit data) := by
  unfold Decides
  infer_instance

/-- Only the first bytes matter. -/
theorem inspect_of_take_eq {limit : Nat} {data other : List UInt8}
    (same : other.take limit = data.take limit) : inspect limit other = inspect limit data := by
  unfold inspect
  rw [same]

private theorem inspect_of_parse_ne {limit : Nat} {data : List UInt8}
    (decided : ClientHello.parse (data.take limit) ≠ .incomplete) (more : List UInt8) :
    inspect limit (data ++ more) = inspect limit data := by
  have again := ClientHello.parse_append decided (more.take (limit - data.length))
  rw [← List.take_append] at again
  unfold inspect
  dsimp only
  rw [again]
  cases verdict : ClientHello.parse (data.take limit) with
  | incomplete => exact absurd verdict decided
  | _ => rfl

/-- An answer other than to wait stays the same with more bytes. -/
theorem inspect_append {limit : Nat} {data : List UInt8} (decides : Decides limit data)
    (more : List UInt8) : inspect limit (data ++ more) = inspect limit data := by
  by_cases incomplete : ClientHello.parse (data.take limit) = .incomplete
  · by_cases full : limit ≤ (data.take limit).length
    · rw [List.length_take] at full
      exact inspect_of_take_eq (List.take_append_of_le_length (by omega))
    · refine absurd ?_ decides
      unfold inspect
      dsimp only
      rw [incomplete, if_neg full]
  · exact inspect_of_parse_ne incomplete more

private theorem decides_of_limit_le {limit : Nat} {data : List UInt8} (full : limit ≤ data.length) :
    Decides limit data := by
  have all : limit ≤ (data.take limit).length := by
    rw [List.length_take]
    omega
  unfold Decides inspect
  dsimp only
  rw [if_pos all]
  split <;> simp [Findings.rejection, Findings.nothing]

/-- What the inspector can answer: to wait, to close the socket, or to go on with its findings. -/
theorem inspect_cases (limit : Nat) (data : List UInt8) :
    inspect limit data = (.nothing, .hold) ∨ inspect limit data = (.rejection, .hold) ∨
      ∃ findings, inspect limit data = (findings, .proceed) ∧ findings.closes = false ∧
        (findings = .nothing ∨
          ∃ hello, ClientHello.parse (data.take limit) = .found hello) := by
  unfold inspect
  dsimp only
  cases verdict : ClientHello.parse (data.take limit) with
  | found hello => exact .inr (.inr ⟨hello.findings, rfl, rfl, .inr ⟨hello, rfl⟩⟩)
  | notTls => exact .inr (.inr ⟨.nothing, rfl, rfl, .inl rfl⟩)
  | malformed => exact .inr (.inl rfl)
  | incomplete =>
      dsimp only
      split
      · exact .inr (.inl rfl)
      · exact .inl rfl

/-! ## The pipeline of the inspector alone -/

section Inspection

variable {σ : Type} (limit : Nat) (memory : σ)

/-- A pipeline whose only filter is the inspector. -/
def inspection : Pipeline σ := Pipeline.new [inspector limit memory]

private theorem start_inspection (socket : Socket) :
    (inspection limit memory).start socket =
      ((inspection limit memory).enter (if socket.isOpen then .suspended else .terminated),
        socket) := by
  unfold Pipeline.start inspection Pipeline.new
  rw [Pipeline.iterate]
  dsimp only [List.getElem?_cons_zero, inspector]
  rw [learn_nothing]
  cases socket.isOpen with
  | true => rfl
  | false => rfl

variable {limit} {socket : Socket} {data : List UInt8}

private theorem reply_of_inspect {answer : Findings × FilterStatus}
    (shown : inspect limit data = answer) :
    (inspector limit memory).onData memory socket data = ⟨memory, answer.1, answer.2⟩ := by
  rw [← shown]
  rfl

private theorem onData_of_waits (isOpen : socket.isOpen = true)
    (waits : inspect limit data = (.nothing, .hold)) :
    ((inspection limit memory).enter .suspended).onData socket data =
      ((inspection limit memory).enter .suspended, socket) := by
  rw [Pipeline.onData_of_suspended rfl rfl (reply_of_inspect memory waits)]
  dsimp only
  rw [learn_nothing, isOpen]
  rfl

private theorem onData_of_rejects (rejects : inspect limit data = (.rejection, .hold)) :
    ((inspection limit memory).enter .suspended).onData socket data =
      ((inspection limit memory).enter .terminated, socket.close) := by
  rw [Pipeline.onData_of_suspended rfl rfl (reply_of_inspect memory rejects)]
  rfl

private theorem onData_of_proceeds (isOpen : socket.isOpen = true) {findings : Findings}
    (stays : findings.closes = false) (proceeds : inspect limit data = (findings, .proceed)) :
    ((inspection limit memory).enter .suspended).onData socket data =
      ((inspection limit memory).advance.enter .completed, socket.learn findings) := by
  have remains : (socket.learn findings).isOpen = true := by
    unfold Socket.learn
    rw [stays]
    exact isOpen
  have exhausted : ((inspection limit memory).enter .suspended).advance.filters.length ≤
      ((inspection limit memory).enter .suspended).advance.cursor := Nat.le_refl 1
  have through := Pipeline.iterate_of_length_le exhausted (socket.learn findings)
  rw [Pipeline.onData_of_suspended rfl rfl (reply_of_inspect memory proceeds)]
  dsimp only
  rw [remains]
  exact through

/-- Whoever gives the inspector the same answer leads to the same. -/
theorem onData_of_inspect_eq {other : List UInt8} (same : inspect limit other = inspect limit data) :
    ((inspection limit memory).enter .suspended).onData socket other =
      ((inspection limit memory).enter .suspended).onData socket data := by
  rw [Pipeline.onData_of_suspended rfl rfl (reply_of_inspect memory same),
    Pipeline.onData_of_suspended rfl rfl (reply_of_inspect memory rfl)]

private theorem not_suspended_of_decides (isOpen : socket.isOpen = true)
    (decides : Decides limit data) :
    (((inspection limit memory).enter .suspended).onData socket data).1.state ≠ .suspended := by
  rcases inspect_cases limit data with waits | rejects | ⟨findings, proceeds, stays, _⟩
  · exact absurd waits decides
  · rw [onData_of_rejects memory rejects]
    simp [Pipeline.enter]
  · rw [onData_of_proceeds memory isOpen stays proceeds]
    simp [Pipeline.enter]

/-- A held socket stays as it is until the inspector decides; what it decides on is as good as the
whole stream. -/
theorem feed_inspection (isOpen : socket.isOpen = true) (stream : List UInt8)
    (lengths : List Nat) :
    Pipeline.feed ((inspection limit memory).enter .suspended, socket) stream lengths =
      if ∃ enough ∈ lengths, Decides limit (stream.take enough) then
        ((inspection limit memory).enter .suspended).onData socket stream
      else ((inspection limit memory).enter .suspended, socket) := by
  induction lengths with
  | nil => simp [Pipeline.feed]
  | cons length rest inductionHypothesis =>
      have first : Pipeline.feed ((inspection limit memory).enter .suspended, socket) stream
          (length :: rest) =
        Pipeline.feed (((inspection limit memory).enter .suspended).onData socket
          (stream.take length)) stream rest := rfl
      rw [first]
      by_cases decides : Decides limit (stream.take length)
      · have same := inspect_append decides (stream.drop length)
        rw [List.take_append_drop] at same
        have here : ∃ enough ∈ length :: rest, Decides limit (stream.take enough) :=
          ⟨length, List.mem_cons_self, decides⟩
        rw [Pipeline.feed_of_not_suspended (not_suspended_of_decides memory isOpen decides),
          if_pos here]
        exact (onData_of_inspect_eq memory same).symm
      · have waits : inspect limit (stream.take length) = (.nothing, .hold) :=
          Decidable.of_not_not decides
        rw [onData_of_waits memory isOpen waits, inductionHypothesis]
        simp [decides]

end Inspection

/-! ## Sockets -/

variable {σ : Type}

/-- The pipeline and the socket after a stream has come in piece by piece, from the start on. -/
def inspected (limit : Nat) (memory : σ) (socket : Socket) (stream : List UInt8)
    (lengths : List Nat) : Pipeline σ × Socket :=
  Pipeline.feed ((inspection limit memory).start socket) stream lengths

private theorem inspected_of_closed (limit : Nat) (memory : σ) {socket : Socket}
    (closed : socket.isOpen = false) (stream : List UInt8) (lengths : List Nat) :
    inspected limit memory socket stream lengths =
      ((inspection limit memory).enter .terminated, socket) := by
  unfold inspected
  rw [start_inspection, closed]
  exact Pipeline.feed_of_not_suspended (by simp [Pipeline.enter]) stream lengths

private theorem inspected_of_open (limit : Nat) (memory : σ) {socket : Socket}
    (isOpen : socket.isOpen = true) (stream : List UInt8) (lengths : List Nat) :
    inspected limit memory socket stream lengths =
      if ∃ enough ∈ lengths, Decides limit (stream.take enough) then
        ((inspection limit memory).enter .suspended).onData socket stream
      else ((inspection limit memory).enter .suspended, socket) := by
  unfold inspected
  rw [start_inspection, isOpen]
  exact feed_inspection memory isOpen stream lengths

/-- Pieces that make up the whole stream are as good as the stream at once. -/
theorem inspected_of_whole (limit : Nat) (memory : σ) (socket : Socket) {stream : List UInt8}
    {lengths : List Nat} (whole : lengths.getLast? = some stream.length) :
    inspected limit memory socket stream lengths =
      if socket.isOpen then ((inspection limit memory).enter .suspended).onData socket stream
      else ((inspection limit memory).enter .terminated, socket) := by
  cases isOpen : socket.isOpen with
  | false => exact inspected_of_closed limit memory isOpen stream lengths
  | true =>
      rw [inspected_of_open limit memory isOpen, if_pos rfl]
      by_cases decides : Decides limit stream
      · have last : ∃ enough ∈ lengths, Decides limit (stream.take enough) := by
          refine ⟨stream.length, List.mem_of_getLast? whole, ?_⟩
          rw [List.take_length]
          exact decides
        rw [if_pos last]
      · have waits : inspect limit stream = (.nothing, .hold) := Decidable.of_not_not decides
        rw [onData_of_waits memory isOpen waits, ite_self]

private theorem inspected_of_limit_le (limit : Nat) (memory : σ) (socket : Socket)
    {stream : List UInt8} {lengths : List Nat} {length : Nat} (listed : length ∈ lengths)
    (full : limit ≤ (stream.take length).length) :
    (inspected limit memory socket stream lengths).1.state ≠ .suspended := by
  cases isOpen : socket.isOpen with
  | false =>
      rw [inspected_of_closed limit memory isOpen]
      simp [Pipeline.enter]
  | true =>
      have decides := decides_of_limit_le full
      have all : limit ≤ stream.length := by
        rw [List.length_take] at full
        omega
      rw [inspected_of_open limit memory isOpen, if_pos ⟨length, listed, decides⟩]
      exact not_suspended_of_decides memory isOpen (decides_of_limit_le all)

/-- Without a ClientHello the inspector puts nothing down. -/
theorem inspected_of_parse_ne (limit : Nat) (memory : σ) (socket : Socket) {stream : List UInt8}
    (unfound : ∀ hello, ClientHello.parse (stream.take limit) ≠ .found hello)
    (lengths : List Nat) :
    (inspected limit memory socket stream lengths).2 = socket ∨
      (inspected limit memory socket stream lengths).2 = socket.close := by
  cases isOpen : socket.isOpen with
  | false =>
      rw [inspected_of_closed limit memory isOpen]
      exact .inl rfl
  | true =>
      rw [inspected_of_open limit memory isOpen]
      split
      · rcases inspect_cases limit stream with
          waits | rejects | ⟨findings, proceeds, stays, nothing | ⟨hello, found⟩⟩
        · rw [onData_of_waits memory isOpen waits]
          exact .inl rfl
        · rw [onData_of_rejects memory rejects]
          exact .inr rfl
        · rw [onData_of_proceeds memory isOpen stays proceeds, nothing, learn_nothing]
          exact .inl rfl
        · exact absurd found (unfound hello)
      · exact .inl rfl

theorem inspected_of_found (limit : Nat) (memory : σ) {socket : Socket}
    (isOpen : socket.isOpen = true) {stream : List UInt8} {hello : ClientHello}
    (found : ClientHello.parse (stream.take limit) = .found hello) {lengths : List Nat}
    (whole : lengths.getLast? = some stream.length) :
    inspected limit memory socket stream lengths =
      ((inspection limit memory).advance.enter .completed, socket.learn hello.findings) := by
  have answer : inspect limit stream = (hello.findings, .proceed) := by
    unfold inspect
    dsimp only
    rw [found]
  rw [inspected_of_whole limit memory socket whole, if_pos isOpen]
  exact onData_of_proceeds memory isOpen rfl answer

/-- Only the first bytes of a stream matter to the inspector, however they come in: any pieces that
make up one of two streams with the same first bytes leave the pipeline and the socket as any pieces
that make up the other do. A verdict is final, at the latest when the limit is reached, and only a
ClientHello puts anything down. -/
theorem chunking_is_invisible (limit : Nat) (memory : σ) (socket : Socket) (stream : List UInt8) :
    (∀ lengths others : List Nat, lengths.getLast? = some stream.length →
      others.getLast? = some stream.length →
      inspected limit memory socket stream lengths =
        inspected limit memory socket stream others) ∧
    (ClientHello.parse stream ≠ .incomplete →
      ∀ more, ClientHello.parse (stream ++ more) = ClientHello.parse stream) ∧
    (∀ other : List UInt8, other.take limit = stream.take limit →
      ∀ lengths others : List Nat, lengths.getLast? = some stream.length →
      others.getLast? = some other.length →
      inspected limit memory socket stream lengths =
        inspected limit memory socket other others) ∧
    (∀ lengths : List Nat, ∀ length ∈ lengths, limit ≤ (stream.take length).length →
      (inspected limit memory socket stream lengths).1.state ≠ .suspended) ∧
    ((∀ hello, ClientHello.parse (stream.take limit) ≠ .found hello) →
      ∀ lengths : List Nat,
        (inspected limit memory socket stream lengths).2.serverName = socket.serverName ∧
        (inspected limit memory socket stream lengths).2.transportProtocol =
          socket.transportProtocol ∧
        (inspected limit memory socket stream lengths).2.applicationProtocols =
          socket.applicationProtocols) ∧
    (∀ hello, ClientHello.parse (stream.take limit) = .found hello → socket.isOpen = true →
      ∀ lengths : List Nat, lengths.getLast? = some stream.length →
      inspected limit memory socket stream lengths =
        ((inspection limit memory).advance.enter .completed, socket.learn hello.findings)) := by
  refine ⟨?_, ?_, ?_, ?_, ?_, ?_⟩
  · intro lengths others whole othersWhole
    rw [inspected_of_whole limit memory socket whole,
      inspected_of_whole limit memory socket othersWhole]
  · exact fun decided more => ClientHello.parse_append decided more
  · intro other same lengths others whole othersWhole
    rw [inspected_of_whole limit memory socket whole,
      inspected_of_whole limit memory socket othersWhole,
      onData_of_inspect_eq memory (inspect_of_take_eq same)]
  · intro lengths length listed full
    exact inspected_of_limit_le limit memory socket listed full
  · intro unfound lengths
    rcases inspected_of_parse_ne limit memory socket unfound lengths with same | closed
    · rw [same]
      exact ⟨rfl, rfl, rfl⟩
    · rw [closed]
      exact ⟨rfl, rfl, rfl⟩
  · intro hello found isOpen lengths whole
    exact inspected_of_found limit memory isOpen found whole

/-- A ClientHello for host `a` in two records, of which the first has only the header of the
message. -/
def splitHello : List UInt8 :=
  [0x16, 3, 1, 0, 4, 1, 0, 0, 50] ++ [0x16, 3, 1, 0, 50] ++ List.replicate 38 0 ++
    [0, 10, 0, 0, 0, 6, 0, 4, 0, 0, 1, 0x61]

def freshSocket : Socket := .between (.internal "here") (.internal "there")

/-- The pieces end within the headers of both records. The second stream is cut off before its end,
so that nothing is found. -/
theorem chunking_is_invisible_splitHello :
    inspected 64 () freshSocket splitHello [3, 12, 64] =
      ((inspection 64 ()).advance.enter .completed,
        { freshSocket with transportProtocol := "tls", serverName := "a" }) ∧
    inspected 64 () freshSocket splitHello [3, 12, 64] =
      inspected 64 () freshSocket splitHello [64] ∧
    inspected 64 () freshSocket splitHello [3, 12, 64] =
      inspected 64 () freshSocket (splitHello ++ [0xff]) [7, 65] ∧
    ClientHello.parse (splitHello ++ [0xff]) = .found ⟨some "a", []⟩ ∧
    (inspected 64 () freshSocket splitHello [3, 12, 64]).1.state ≠ .suspended ∧
    (inspected 64 () freshSocket (splitHello.take 63) [3, 12, 63]).2.serverName = "" := by
  have parsed : ClientHello.parse splitHello = .found ⟨some "a", []⟩ := by decide +kernel
  have unfinished : ClientHello.parse ((splitHello.take 63).take 64) = .incomplete := by
    decide +kernel
  obtain ⟨alike, lasting, bounded, released, _, found⟩ :=
    chunking_is_invisible 64 () freshSocket splitHello
  obtain ⟨_, _, _, _, silent, _⟩ := chunking_is_invisible 64 () freshSocket (splitHello.take 63)
  refine ⟨found ⟨some "a", []⟩ parsed rfl [3, 12, 64] rfl, alike [3, 12, 64] [64] rfl rfl,
    bounded (splitHello ++ [0xff]) rfl [3, 12, 64] [7, 65] rfl rfl, ?_,
    released [3, 12, 64] 64 (by decide) (by decide), (silent ?_ [3, 12, 63]).1⟩
  · rw [lasting (by rw [parsed]; decide), parsed]
  · intro hello claimed
    exact absurd (unfinished.symm.trans claimed) (by simp)

end Admission.Tls
