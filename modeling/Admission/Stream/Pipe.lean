/-!
Contract: one direction of a byte stream.

What is written comes out in order, in pieces of any size. The writer may say that nothing more
comes; the reader then meets the end behind the last byte. The reader may go away; then writing
fails.

Owns: `Pipe` with its view `unread`, and what writing, reading and the two kinds of ending do to
it. Bytes are kept in two parts, so that writing a piece does not copy those before it.
-/

namespace Admission.Stream

/-- One direction of a byte stream. -/
structure Pipe where
  /-- The oldest bytes that were not read. -/
  front : List UInt8
  /-- The pieces written after them, newest first. -/
  back : List (List UInt8)
  /-- Nothing more will be written. -/
  isFinished : Bool
  /-- Nobody will read. -/
  isAbandoned : Bool
  deriving DecidableEq, Repr

namespace Pipe

/-- A pipe that nothing was written to. -/
def empty : Pipe := ⟨[], [], false, false⟩

/-- The bytes that were written and not read. -/
def unread (pipe : Pipe) : List UInt8 := pipe.front ++ pipe.back.reverse.flatten

/-- Writes a piece. It fails after the writer finished and after the reader went away. -/
def write? (pipe : Pipe) (piece : List UInt8) : Option Pipe :=
  if pipe.isFinished || pipe.isAbandoned then none
  else some { pipe with back := piece :: pipe.back }

/-- The writer says that nothing more comes. -/
def finish (pipe : Pipe) : Pipe := { pipe with isFinished := true }

/-- The reader goes away, and the unread bytes are lost. -/
def abandon (pipe : Pipe) : Pipe := ⟨[], [], pipe.isFinished, true⟩

/-- The pipe with all unread bytes in front, unless some are there already. -/
def settle (pipe : Pipe) : Pipe :=
  match pipe.front with
  | [] => { pipe with front := pipe.back.reverse.flatten, back := [] }
  | _ :: _ => pipe

/-- Reads at most `limit` bytes and says which. Nothing if the reader has to wait; no bytes at the
end, and for a reader that has no room for any. -/
def read? (pipe : Pipe) (limit : Nat) : Option (List UInt8 × Pipe) :=
  let settled := pipe.settle
  if limit = 0 then some ([], pipe)
  else if settled.front.isEmpty then if pipe.isFinished then some ([], settled) else none
  else some (settled.front.take limit, { settled with front := settled.front.drop limit })

/-- Looks at the first `limit` unread bytes without reading them. Nothing if there are none yet; no
bytes at the end. -/
def peek? (pipe : Pipe) (limit : Nat) : Option (List UInt8) :=
  match pipe.unread with
  | [] => if pipe.isFinished then some [] else none
  | bytes => some (bytes.take limit)

@[simp]
theorem unread_empty : empty.unread = [] := rfl

@[simp]
theorem unread_finish (pipe : Pipe) : pipe.finish.unread = pipe.unread := rfl

@[simp]
theorem unread_settle (pipe : Pipe) : pipe.settle.unread = pipe.unread := by
  unfold settle
  split <;> simp_all [unread]

/-- What is written comes after what was unread. -/
theorem unread_write {pipe written : Pipe} {piece : List UInt8}
    (done : pipe.write? piece = some written) : written.unread = pipe.unread ++ piece := by
  unfold write? at done
  split at done
  · cases done
  · obtain rfl := Option.some.inj done
    simp [unread]

/-- Reading splits off the oldest bytes, and nothing gets lost. -/
theorem unread_read {pipe rest : Pipe} {limit : Nat} {bytes : List UInt8}
    (done : pipe.read? limit = some (bytes, rest)) :
    pipe.unread = bytes ++ rest.unread ∧ bytes.length ≤ limit := by
  have same := unread_settle pipe
  simp only [read?] at done
  split at done
  · simp_all
  · split at done
    · split at done
      · simp only [Option.some.injEq, Prod.mk.injEq] at done
        obtain ⟨rfl, rfl⟩ := done
        simp [same]
      · cases done
    · simp only [Option.some.injEq, Prod.mk.injEq] at done
      obtain ⟨rfl, rfl⟩ := done
      refine ⟨?_, List.length_take_le _ _⟩
      rw [← same]
      simp [unread, ← List.append_assoc]

end Pipe

end Admission.Stream
