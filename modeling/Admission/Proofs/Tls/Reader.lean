import Admission.Proofs.Tls.Encoding

/-!
Contract: reading by positions, where each access to a buffer is told as it is made.

An access that has nothing to access is a `Fault`, as is a reader that moves behind the end of its
buffer, and a loop that takes more turns than its bytes allow. That bytes cannot be read is none.

Owns:
- `Reading` and `Refines`, what it means that a reading meets no fault and does what plain reading
  does;
- `Reader`, a position in a buffer, with one law for each of its reads;
- `loop`, turn by turn, and `Turns`, which asks of a turn that it consumes bytes.

Does not own: what is read.
-/

namespace Admission.Tls

/-! ## Accesses -/

inductive Fault where
  /-- A buffer of this length has no byte at the position. -/
  | index (position length : Nat)
  /-- A buffer of this length has no such part. -/
  | slice (first last length : Nat)
  /-- A reader has moved behind the end of its buffer. -/
  | overrun (position length : Nat)
  /-- A loop has taken all turns that its bytes allow and goes on. -/
  | endless
  deriving DecidableEq, Repr

/-- What is read from buffers. Bytes that cannot be read are no fault. -/
abbrev Reading := OptionT (Except Fault)

def byteAt (buffer : List UInt8) (position : Nat) : Except Fault UInt8 :=
  match buffer[position]? with
  | some byte => .ok byte
  | none => .error (.index position buffer.length)

/-- The bytes of a buffer from one position up to another, if it has them. -/
def part? (buffer : List UInt8) (first last : Nat) : Option (List UInt8) :=
  if first ≤ last ∧ last ≤ buffer.length then some ((buffer.take last).drop first) else none

/-- The bytes of a buffer from one position up to another, which it must have. -/
def part (buffer : List UInt8) (first last : Nat) : Except Fault (List UInt8) :=
  match part? buffer first last with
  | some bytes => .ok bytes
  | none => .error (.slice first last buffer.length)

theorem part_of_le {buffer : List UInt8} {first last : Nat} (ordered : first ≤ last)
    (inside : last ≤ buffer.length) :
    part buffer first last = .ok ((buffer.take last).drop first) := by
  simp [part, part?, ordered, inside]

theorem part_middle (before middle after : List UInt8) :
    part (before ++ (middle ++ after)) before.length (before.length + middle.length) =
      .ok middle := by
  rw [part_of_le (Nat.le_add_right _ _) (by simp), List.drop_take, List.drop_left,
    Nat.add_sub_cancel_left, List.take_left]

theorem part_end (before after : List UInt8) :
    part (before ++ after) before.length (before ++ after).length = .ok after := by
  rw [part_of_le (by simp) (Nat.le_refl _), List.take_length, List.drop_left]

/-- A reading meets no fault and comes to what plain reading comes to. -/
def Refines {α β : Type} (Same : α → β → Prop) (reading : Reading α) (plain : Option β) : Prop :=
  ∃ outcome, reading.run = .ok outcome ∧ Option.Rel Same outcome plain

section Refines

variable {α β γ δ : Type} {Same : α → β → Prop} {Alike : γ → δ → Prop}

theorem refines_failure : Refines Same failure none := ⟨none, rfl, .none⟩

theorem refines_pure {value : α} {plain : β} (same : Same value plain) :
    Refines Same (pure value) (some plain) := ⟨some value, rfl, .some same⟩

theorem refines_eq_iff {reading : Reading α} {plain : Option α} :
    Refines Eq reading plain ↔ reading.run = .ok plain := by
  constructor
  · intro refines
    obtain ⟨outcome, run, same⟩ := refines
    rw [run]
    cases same with
    | none => rfl
    | some equal => rw [equal]
  · intro run
    refine ⟨plain, run, ?_⟩
    cases plain with
    | none => exact .none
    | some value => exact .some rfl

theorem Refines.bind {reading : Reading α} {plain : Option β} {next : α → Reading γ}
    {plainNext : β → Option δ} (first : Refines Same reading plain)
    (rest : ∀ value plainValue, plain = some plainValue → Same value plainValue →
      Refines Alike (next value) (plainNext plainValue)) :
    Refines Alike (reading >>= next) (plain.bind plainNext) := by
  obtain ⟨outcome, run, same⟩ := first
  cases same with
  | none =>
      refine ⟨none, ?_, .none⟩
      rw [OptionT.run_bind, run]
      rfl
  | @some value plainValue same =>
      obtain ⟨last, lastRun, lastSame⟩ := rest value plainValue rfl same
      refine ⟨last, ?_, lastSame⟩
      rw [OptionT.run_bind, run]
      exact lastRun

/-- An access that has something to access is no obstacle. -/
@[simp]
theorem lift_ok_bind (value : α) (next : α → Reading γ) :
    ((liftM (Except.ok value : Except Fault α) : Reading α) >>= next) = next value := rfl

end Refines

/-! ## Readers -/

/-- A position in a buffer. -/
structure Reader where
  data : List UInt8
  pos : Nat

namespace Reader

def start (data : List UInt8) : Reader := ⟨data, 0⟩

def isEmpty (reader : Reader) : Bool := decide (reader.data.length ≤ reader.pos)

def moveTo (reader : Reader) (pos : Nat) : Except Fault Reader :=
  if pos ≤ reader.data.length then .ok { reader with pos }
  else .error (.overrun pos reader.data.length)

def u8 (reader : Reader) : Reading (UInt8 × Reader) :=
  match reader.data[reader.pos]? with
  | none => failure
  | some byte => do
      let next ← reader.moveTo (reader.pos + 1)
      return (byte, next)

def bytes (reader : Reader) (count : Nat) : Reading (List UInt8 × Reader) :=
  match part? reader.data reader.pos (reader.pos + count) with
  | none => failure
  | some bytes => do
      let next ← reader.moveTo (reader.pos + count)
      return (bytes, next)

def u16 (reader : Reader) : Reading (Nat × Reader) := do
  let (digits, next) ← reader.bytes 2
  let high ← byteAt digits 0
  let low ← byteAt digits 1
  return (high.toNat * 256 + low.toNat, next)

def u24 (reader : Reader) : Reading (Nat × Reader) := do
  let (digits, next) ← reader.bytes 3
  let high ← byteAt digits 0
  let middle ← byteAt digits 1
  let low ← byteAt digits 2
  return (high.toNat <<< 16 ||| middle.toNat <<< 8 ||| low.toNat, next)

/-- A block after its length in one byte. -/
def block8 (reader : Reader) : Reading (List UInt8 × Reader) := do
  let (length, next) ← reader.u8
  next.bytes length.toNat

/-- A block after its length in two bytes. -/
def block16 (reader : Reader) : Reading (List UInt8 × Reader) := do
  let (length, next) ← reader.u16
  next.bytes length

/-- The position is one of a buffer, or its end. -/
structure Inside (reader : Reader) (data : List UInt8) : Prop where
  same : reader.data = data
  pos_le : reader.pos ≤ data.length

/-- A reader has these bytes of a buffer before it. -/
structure Stands (data : List UInt8) (reader : Reader) (rest : List UInt8) : Prop
    extends reader.Inside data where
  drop_eq : data.drop reader.pos = rest

/-- A value was read and a reader left with the rest of the bytes before it. -/
def Read {α : Type} (data : List UInt8) (read : α × Reader) (plain : α × List UInt8) : Prop :=
  read.1 = plain.1 ∧ Stands data read.2 plain.2

variable {reader : Reader} {data rest : List UInt8}

theorem stands_start (data : List UInt8) : Stands data (start data) data :=
  ⟨⟨rfl, Nat.zero_le _⟩, rfl⟩

theorem Inside.stands (inside : reader.Inside data) : Stands data reader (data.drop reader.pos) :=
  ⟨inside, rfl⟩

theorem Stands.pos_add (stands : Stands data reader rest) :
    reader.pos + rest.length = data.length := by
  have inside := stands.pos_le
  rw [← stands.drop_eq, List.length_drop]
  omega

theorem Stands.isEmpty_eq (stands : Stands data reader rest) : reader.isEmpty = rest.isEmpty := by
  have counted := stands.pos_add
  unfold isEmpty
  rw [stands.same]
  cases rest with
  | nil => simpa using counted.ge
  | cons byte rest =>
      rw [List.length_cons] at counted
      simp
      omega

/-- A move over bytes that are there. -/
theorem Stands.moveTo (stands : Stands data reader rest) {count : Nat}
    (enough : count ≤ rest.length) :
    ∃ next, reader.moveTo (reader.pos + count) = .ok next ∧ Stands data next (rest.drop count) := by
  have counted := stands.pos_add
  have inside : reader.pos + count ≤ data.length := by omega
  refine ⟨⟨data, reader.pos + count⟩, ?_, ⟨rfl, inside⟩, ?_⟩
  · simp [Reader.moveTo, stands.same, inside]
  · rw [← stands.drop_eq, List.drop_drop]

/-- What is done after a read is done with the same value and the same bytes before the reader. -/
theorem bind_refines {α γ δ : Type} {Alike : γ → δ → Prop} {reading : Reading (α × Reader)}
    {plain : Option (α × List UInt8)} {next : α × Reader → Reading γ}
    {plainNext : α × List UInt8 → Option δ} (first : Refines (Read data) reading plain)
    (later : ∀ value reader rest, plain = some (value, rest) → Stands data reader rest →
      Refines Alike (next (value, reader)) (plainNext (value, rest))) :
    Refines Alike (reading >>= next) (plain.bind plainNext) := by
  refine first.bind ?_
  intro read plainRead taken same
  obtain ⟨value, reader⟩ := read
  obtain ⟨plainValue, rest⟩ := plainRead
  obtain ⟨equal, stands⟩ := same
  obtain rfl : value = plainValue := equal
  exact later value reader rest taken stands

/-- A read leaves the reader in its buffer. -/
theorem inside_of_refines {α : Type} {reading : Reading (α × Reader)}
    {plain : Option (α × List UInt8)} (refines : Refines (Read data) reading plain) {value : α}
    {next : Reader} (read : reading.run = .ok (some (value, next))) : next.Inside data := by
  obtain ⟨outcome, run, same⟩ := refines
  rw [read] at run
  obtain rfl := Except.ok.inj run
  cases same with
  | some same => exact same.2.toInside

theorem refines_u8 (stands : Stands data reader rest) :
    Refines (Read data) reader.u8 (rest.head?.map (·, rest.tail)) := by
  have front : reader.data[reader.pos]? = rest.head? := by
    rw [stands.same, ← stands.drop_eq, List.head?_drop]
  unfold u8
  rw [front]
  cases rest with
  | nil => exact refines_failure
  | cons byte rest =>
      have enough : 1 ≤ (byte :: rest).length := by simp
      obtain ⟨next, moved, after⟩ := stands.moveTo enough
      simp only [List.head?_cons, moved, lift_ok_bind]
      exact refines_pure ⟨rfl, after⟩

/-- A byte that is there is read. -/
theorem bind_u8_refines {γ δ : Type} {Alike : γ → δ → Prop} {byte : UInt8}
    (stands : Stands data reader (byte :: rest)) {next : UInt8 × Reader → Reading γ}
    {plain : Option δ}
    (later : ∀ reader, Stands data reader rest → Refines Alike (next (byte, reader)) plain) :
    Refines Alike (reader.u8 >>= next) plain := by
  have first : Refines (Read data) reader.u8 (some (byte, rest)) := refines_u8 stands
  have bound : plain = (some (byte, rest)).bind fun _ => plain := rfl
  rw [bound]
  refine bind_refines first fun value reader after taken stands => ?_
  cases taken
  exact later reader stands

theorem refines_bytes (stands : Stands data reader rest) (count : Nat) :
    Refines (Read data) (reader.bytes count) (takeBytes count rest) := by
  have counted := stands.pos_add
  unfold bytes part? takeBytes
  rw [stands.same]
  by_cases enough : count ≤ rest.length
  · obtain ⟨next, moved, after⟩ := stands.moveTo enough
    have there : reader.pos ≤ reader.pos + count ∧ reader.pos + count ≤ data.length := by omega
    have taken : (data.take (reader.pos + count)).drop reader.pos = rest.take count := by
      rw [List.drop_take, stands.drop_eq, Nat.add_sub_cancel_left]
    rw [if_pos enough, if_pos there, taken]
    simp only [moved, lift_ok_bind]
    exact refines_pure ⟨rfl, after⟩
  · have missing : ¬(reader.pos ≤ reader.pos + count ∧ reader.pos + count ≤ data.length) := by omega
    rw [if_neg enough, if_neg missing]
    exact refines_failure

/-- A number is that many bytes read as its digits. -/
theorem takeNumber_eq_bind (count : Nat) (rest : List UInt8) :
    takeNumber count rest =
      (takeBytes count rest).bind fun read => some (bigEndian read.1, read.2) := by
  simp [takeNumber, Option.map_eq_bind]

theorem refines_u16 (stands : Stands data reader rest) :
    Refines (Read data) reader.u16 (takeNumber 2 rest) := by
  rw [takeNumber_eq_bind]
  refine bind_refines (refines_bytes stands 2) ?_
  intro digits next after taken left
  obtain ⟨high, low, rfl⟩ := List.length_eq_two.mp (takeBytes_eq_some taken).2
  exact refines_pure ⟨by simp [bigEndian], left⟩

private theorem shifted_eq (high middle low : UInt8) :
    high.toNat <<< 16 ||| middle.toNat <<< 8 ||| low.toNat = bigEndian [high, middle, low] := by
  have lowBound : low.toNat < 2 ^ 8 := low.toNat_lt
  have middleBound : middle.toNat < 2 ^ 8 := middle.toNat_lt
  have upper : high.toNat <<< 16 ||| middle.toNat <<< 8 =
      (high.toNat <<< 8 ||| middle.toNat) <<< 8 := by
    rw [Nat.shiftLeft_or_distrib, ← Nat.shiftLeft_add]
  rw [upper, ← Nat.shiftLeft_add_eq_or_of_lt lowBound, ← Nat.shiftLeft_add_eq_or_of_lt middleBound]
  simp [bigEndian, Nat.shiftLeft_eq]

theorem refines_u24 (stands : Stands data reader rest) :
    Refines (Read data) reader.u24 (takeNumber 3 rest) := by
  rw [takeNumber_eq_bind]
  refine bind_refines (refines_bytes stands 3) ?_
  intro digits next after taken left
  obtain ⟨high, middle, low, rfl⟩ := List.length_eq_three.mp (takeBytes_eq_some taken).2
  exact refines_pure ⟨shifted_eq high middle low, left⟩

theorem takeBlock_one (length : UInt8) (rest : List UInt8) :
    takeBlock 1 (length :: rest) = takeBytes length.toNat rest := by
  simp [takeBlock, takeNumber, takeBytes, bigEndian]

theorem refines_block8 (stands : Stands data reader rest) :
    Refines (Read data) reader.block8 (takeBlock 1 rest) := by
  have block : takeBlock 1 rest =
      (rest.head?.map (·, rest.tail)).bind fun (length, rest) => takeBytes length.toNat rest := by
    cases rest with
    | nil => rfl
    | cons length rest => exact takeBlock_one length rest
  rw [block]
  exact bind_refines (refines_u8 stands) fun length next after _ stands =>
    refines_bytes stands length.toNat

theorem refines_block16 (stands : Stands data reader rest) :
    Refines (Read data) reader.block16 (takeBlock 2 rest) := by
  exact bind_refines (refines_u16 stands) fun length next after _ stands =>
    refines_bytes stands length

end Reader

/-! ## Loops -/

/-- Takes turns until one of them ends the loop, which at most so many must do. -/
def loop {σ α : Type} (turn : σ → Reading (σ ⊕ α)) : (turns : Nat) → σ → Reading α
  | 0, _ => OptionT.mk (.error .endless)
  | turns + 1, state => do
      match ← turn state with
      | .inl next => loop turn turns next
      | .inr result => return result

/-- The turns of a loop by positions are those of plain reading, which a recursion unfolds into, and
a turn after which the loop goes on consumes at least so many bytes. -/
structure Turns {σ τ α : Type} (Same : σ → τ → Prop) (turn : σ → Reading (σ ⊕ α))
    (plainTurn : τ → Option (τ ⊕ α)) (result : τ → Option α) (left : τ → Nat) (stride : Nat) :
    Prop where
  refines : ∀ state plain, Same state plain →
    Refines (Sum.LiftRel Same Eq) (turn state) (plainTurn plain)
  unfolds : ∀ state plain, Same state plain →
    result plain = (plainTurn plain).bind (Sum.elim result some)
  consumes : ∀ plain next, plainTurn plain = some (.inl next) → left next + stride ≤ left plain

namespace Turns

variable {σ τ α : Type} {Same : σ → τ → Prop} {turn : σ → Reading (σ ⊕ α)}
  {plainTurn : τ → Option (τ ⊕ α)} {result : τ → Option α} {left : τ → Nat} {stride : Nat}
  {state : σ} {plain : τ}

/-- With a turn for each stride of bytes and one more, a loop ends without a fault. -/
theorem loop_eq (turns : Turns Same turn plainTurn result left stride) {count : Nat}
    (same : Same state plain) (enough : left plain < stride * count) :
    (loop turn count state).run = .ok (result plain) := by
  induction count generalizing state plain with
  | zero => simp at enough
  | succ count inductionHypothesis =>
      rw [turns.unfolds state plain same, loop, ← refines_eq_iff]
      refine (turns.refines state plain same).bind ?_
      intro outcome plainOutcome taken alike
      cases alike with
      | @inl next plainNext later =>
          have consumed := turns.consumes plain plainNext taken
          have fewer : left plainNext < stride * count := by
            rw [Nat.mul_succ] at enough
            omega
          exact refines_eq_iff.mpr (inductionHypothesis later fewer)
      | inr equal => exact refines_pure equal

theorem consumed (turns : Turns Same turn plainTurn result left stride) (same : Same state plain)
    {next : σ} (goesOn : (turn state).run = .ok (some (.inl next))) :
    ∃ plainNext, Same next plainNext ∧ left plainNext + stride ≤ left plain := by
  obtain ⟨outcome, run, alike⟩ := turns.refines state plain same
  rw [goesOn] at run
  obtain rfl := Except.ok.inj run
  cases taken : plainTurn plain with
  | none =>
      rw [taken] at alike
      cases alike
  | some plainOutcome =>
      rw [taken] at alike
      cases alike with
      | some later =>
          cases later with
          | @inl _ plainNext later => exact ⟨plainNext, later, turns.consumes plain plainNext taken⟩

end Turns

end Admission.Tls
