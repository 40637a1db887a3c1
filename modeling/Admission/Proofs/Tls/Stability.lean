import Admission.Tls.ClientHello

/-!
Contract: what more bytes change in the verdict on a stream.

Owns: that a read which succeeded succeeds again in front of more bytes, and `parse_append`, that only
a verdict of `incomplete` is provisional.
-/

namespace Admission.Tls

private theorem takeBytes_append {count : Nat} {bytes front rest : List UInt8}
    (taken : takeBytes count bytes = some (front, rest)) (more : List UInt8) :
    takeBytes count (bytes ++ more) = some (front, rest ++ more) := by
  obtain ⟨split, length⟩ := takeBytes_eq_some taken
  have enough : count ≤ (front ++ (rest ++ more)).length := by
    rw [List.length_append]
    omega
  unfold takeBytes
  rw [split, List.append_assoc, if_pos enough, ← length, List.take_left, List.drop_left]

namespace ClientHello

/-- A record with more bytes after the stream that it was split off. -/
def RecordStep.before (more : List UInt8) : RecordStep → RecordStep
  | fragment bytes rest => fragment bytes (rest ++ more)
  | step => step

/-- The header of a record is read before its fragment, so that neither is judged in parts. -/
theorem nextRecord_append {stream : List UInt8} (decided : nextRecord stream ≠ .incomplete)
    (more : List UInt8) : nextRecord (stream ++ more) = (nextRecord stream).before more := by
  cases stream with
  | nil => exact absurd rfl decided
  | cons kind afterKind =>
      by_cases foreign : kind ≠ 0x16
      · simp only [nextRecord, List.cons_append, if_pos foreign]
        rfl
      · -- Without a whole header the record is incomplete.
        rcases afterKind with _ | ⟨major, _ | ⟨minor, _ | ⟨high, _ | ⟨low, payload⟩⟩⟩⟩
        iterate 4
          simp only [nextRecord, if_neg foreign, ne_eq, not_true_eq_false] at decided
        simp only [nextRecord, List.cons_append, if_neg foreign] at decided ⊢
        by_cases alien : major ≠ 3
        · simp only [if_pos alien]
          rfl
        · simp only [if_neg alien] at decided ⊢
          cases taken : takeBytes (bigEndian [high, low]) payload with
          | none =>
              rw [taken] at decided
              exact absurd rfl decided
          | some split =>
              obtain ⟨front, rest⟩ := split
              rw [takeBytes_append taken more]
              cases front with
              | nil => rfl
              | cons byte bytes => rfl

/-- A verdict on joined fragments is drawn from whole records, which more bytes do not change. -/
theorem joinRecords_append {joined stream : List UInt8}
    (decided : joinRecords joined stream ≠ .incomplete) (more : List UInt8) :
    joinRecords joined (stream ++ more) = joinRecords joined stream := by
  -- The records before the verdict are read as before, so the induction is on their number.
  fun_induction joinRecords joined stream with
  | case1 joined stream incomplete => exact absurd rfl decided
  | case2 joined stream foreign first =>
      rw [joinRecords, nextRecord_append (by simp [foreign]), foreign]
      exact if_pos first
  | case3 joined stream foreign later =>
      rw [joinRecords, nextRecord_append (by simp [foreign]), foreign]
      exact if_neg later
  | case4 joined stream empty =>
      rw [joinRecords, nextRecord_append (by simp [empty]), empty]
      rfl
  | case5 joined stream bytes rest split verdict known =>
      rw [joinRecords, nextRecord_append (by simp [split]), split]
      simp only [RecordStep.before, known]
  | case6 joined stream bytes rest split unknown inductionHypothesis =>
      rw [joinRecords, nextRecord_append (by simp [split]), split]
      simp only [RecordStep.before, unknown]
      exact inductionHypothesis decided

theorem parse_append {stream : List UInt8} (decided : parse stream ≠ .incomplete)
    (more : List UInt8) : parse (stream ++ more) = parse stream :=
  joinRecords_append decided more

end ClientHello

end Admission.Tls
