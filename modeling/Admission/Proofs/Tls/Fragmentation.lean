import Admission.Proofs.Tls.Acceptance

/-!
Contract: a handshake message is read alike however it is cut into records.

The records of a stream are joined one by one, and the joined bytes are judged after each of them. A
verdict that is drawn early is the verdict on all of them, so the place of the cuts is lost.

Owns:
- `declaredLength` and `declaredBody`, what the header of a message says of its body;
- `verdictOn`, the verdict that the bytes of a message alone decide;
- `fragmentation_is_invisible`.
-/

namespace Admission.Tls.ClientHello

/-- The bytes of type and length in front of the body of a message. -/
def headerLength : Nat := 4

/-- The length of the body as the header of a message declares it. -/
def declaredLength (message : List UInt8) : Nat :=
  bigEndian ((message.drop 1).take 3)

/-- The bytes that are the body as it is declared. -/
def declaredBody (message : List UInt8) : List UInt8 :=
  (message.drop headerLength).take (declaredLength message)

/-- The verdict on a message whose bytes are all there that come. -/
def verdictOn (message : List UInt8) : Verdict :=
  if message.head? ≠ some 1 then .notTls
  else if message.length < headerLength ∨
      message.length < headerLength + declaredLength message then .incomplete
  else match ofBody (declaredBody message) with
    | some hello => .found hello
    | none => .malformed

/-- The bytes that records carry, put together. -/
def joined (records : List Record) : List UInt8 :=
  records.flatMap (·.fragment.bytes)

/-- A whole message of the right type is judged by its declared body. -/
theorem verdictOn_of_complete {message : List UInt8} (isHello : message.head? = some 1)
    (complete : headerLength + declaredLength message ≤ message.length) :
    verdictOn message = match ofBody (declaredBody message) with
      | some hello => .found hello
      | none => .malformed := by
  unfold verdictOn
  rw [if_neg (not_not_intro isHello), if_neg (by omega)]

/-- What comes after the declared body has no part in the verdict. -/
theorem verdictOn_append {message : List UInt8} (isHello : message.head? = some 1)
    (complete : headerLength + declaredLength message ≤ message.length) (more : List UInt8) :
    verdictOn (message ++ more) = verdictOn message := by
  have length : declaredLength (message ++ more) = declaredLength message := by
    unfold headerLength at complete
    unfold declaredLength
    rw [List.drop_append_of_le_length (by omega),
      List.take_append_of_le_length (by rw [List.length_drop]; omega)]
  have body : declaredBody (message ++ more) = declaredBody message := by
    unfold declaredBody
    rw [length, List.drop_append_of_le_length (by omega),
      List.take_append_of_le_length (by rw [List.length_drop]; omega)]
  have front : (message ++ more).head? = some 1 := by
    rw [List.head?_append, isHello]
    rfl
  rw [verdictOn_of_complete isHello complete, verdictOn_of_complete front, body]
  rw [length, List.length_append]
  omega

/-! ## Joined fragments -/

/-- The body of a message is taken if the header and all bytes that it declares are there. -/
theorem map_takeBlock (kind : UInt8) (rest : List UInt8) :
    (takeBlock 3 rest).map (·.1) =
      if (kind :: rest).length < headerLength ∨
        (kind :: rest).length < headerLength + declaredLength (kind :: rest) then none
      else some (declaredBody (kind :: rest)) := by
  have length : declaredLength (kind :: rest) = bigEndian (rest.take 3) := rfl
  have body : declaredBody (kind :: rest) = (rest.drop 3).take (bigEndian (rest.take 3)) := rfl
  rw [length, body, List.length_cons, headerLength]
  unfold takeBlock takeNumber takeBytes
  by_cases header : 3 ≤ rest.length
  · rw [if_pos header, Option.map_some, Option.bind_some]
    dsimp only
    rw [List.length_drop]
    by_cases complete : bigEndian (rest.take 3) ≤ rest.length - 3
    · rw [if_pos complete, if_neg (by omega)]
      rfl
    · rw [if_neg complete, if_pos (by omega)]
      rfl
  · rw [if_neg header, if_pos (by omega)]
    rfl

private theorem ofHandshake_getD {message : List UInt8} (filled : message ≠ []) :
    (ofHandshake message).getD .incomplete = verdictOn message := by
  cases message with
  | nil => exact absurd rfl filled
  | cons kind rest =>
      have taken := map_takeBlock kind rest
      unfold ofHandshake
      dsimp only
      unfold verdictOn
      by_cases isHello : kind = 1
      · have front : (kind :: rest).head? = some 1 := congrArg some isHello
        rw [if_neg (not_not_intro isHello), if_neg (not_not_intro front)]
        split at taken
        · rename_i short
          rw [if_pos short, Option.map_eq_none_iff.mp taken]
          rfl
        · rename_i complete
          obtain ⟨⟨body, after⟩, block, same⟩ := Option.map_eq_some_iff.mp taken
          rw [if_neg complete, block, ← same]
          rfl
      · have front : (kind :: rest).head? ≠ some 1 := fun same => isHello (Option.some.inj same)
        rw [if_pos isHello, if_pos front]
        rfl

/-- With joined fragments that give no verdict yet, records are read as their fragments, joined to
those, are judged. -/
theorem joinRecords_records {front : List UInt8} (unknown : ofHandshake front = none)
    (records : List Record) :
    joinRecords front (records.flatMap Record.encoded) =
      (ofHandshake (front ++ joined records)).getD .incomplete := by
  induction records generalizing front with
  | nil =>
      rw [joined, List.flatMap_nil, List.flatMap_nil, List.append_nil, unknown, joinRecords]
      rfl
  | cons record records inductionHypothesis =>
      have split : nextRecord ((record :: records).flatMap Record.encoded) =
          .fragment record.fragment.bytes (records.flatMap Record.encoded) :=
        nextRecord_eq_fragment_iff.mpr ⟨record, List.flatMap_cons.symm, rfl⟩
      have whole : front ++ joined (record :: records) =
          front ++ record.fragment.bytes ++ joined records := by
        rw [joined, List.flatMap_cons, ← List.append_assoc]
        rfl
      rw [joinRecords, split, whole]
      dsimp only
      cases known : ofHandshake (front ++ record.fragment.bytes) with
      | none => exact inductionHypothesis known
      | some verdict =>
          rw [ofHandshake_append known]
          rfl

/-- The cuts of a message are lost when it is read. Any two ways to cut it into records, whatever their
minor versions, give the same verdict, which its bytes alone decide: it is no TLS if it has another
type than 1; it is incomplete if header or declared body are not all there; and otherwise the declared
body decides, whatever comes after it. -/
theorem fragmentation_is_invisible {message : List UInt8} (filled : message ≠ []) :
    (∀ left right : List Record, joined left = message → joined right = message →
      parse (left.flatMap Record.encoded) = parse (right.flatMap Record.encoded)) ∧
    (∀ records : List Record, joined records = message →
      parse (records.flatMap Record.encoded) = verdictOn message) ∧
    (message.head? = some 1 → headerLength + declaredLength message ≤ message.length →
      ∀ (more : List UInt8) (records : List Record), joined records = message ++ more →
        parse (records.flatMap Record.encoded) = verdictOn message) := by
  have judged : ∀ (whole : List UInt8) (records : List Record), whole ≠ [] →
      joined records = whole → parse (records.flatMap Record.encoded) = verdictOn whole := by
    intro whole records nonempty together
    rw [parse, joinRecords_records rfl, List.nil_append, together, ofHandshake_getD nonempty]
  refine ⟨?_, ?_, ?_⟩
  · intro left right leftWhole rightWhole
    rw [judged message left filled leftWhole, judged message right filled rightWhole]
  · intro records whole
    exact judged message records filled whole
  · intro isHello complete more records whole
    rw [judged _ records (List.append_ne_nil_of_left_ne_nil filled more) whole,
      verdictOn_append isHello complete more]

/-- The message in three records that are cut before and inside of its length, with a byte after it. -/
def hostRecordsAtLength : List Record := [
  ⟨0, ⟨hostHello.encoded.take 1, by decide⟩, by decide⟩,
  ⟨2, ⟨(hostHello.encoded.drop 1).take 1, by decide⟩, by decide⟩,
  ⟨4, ⟨hostHello.encoded.drop 2 ++ [0xFF], by decide⟩, by decide⟩]

theorem fragmentation_is_invisible_hostHello :
    hostHello.encoded ≠ [] ∧ joined hostRecords = hostHello.encoded ∧
      joined hostRecordsAtLength = hostHello.encoded ++ [0xFF] ∧
      parse (hostRecords.flatMap Record.encoded) = .found ⟨some "a.test", ["h2"]⟩ ∧
      parse (hostRecordsAtLength.flatMap Record.encoded) = .found ⟨some "a.test", ["h2"]⟩ := by
  have filled : hostHello.encoded ≠ [] := by decide
  have whole : joined hostRecords = hostHello.encoded := by decide
  have longer : joined hostRecordsAtLength = hostHello.encoded ++ [0xFF] := by decide
  have offers : hostHello.body.offer = ⟨some "a.test", ["h2"]⟩ := by decide +kernel
  have found : verdictOn hostHello.encoded = .found ⟨some "a.test", ["h2"]⟩ := by
    rw [← ofHandshake_getD filled,
      ofHandshake_eq_found_iff.mpr ⟨hostHello, [], List.append_nil _, offers⟩]
    rfl
  obtain ⟨-, alone, followed⟩ := fragmentation_is_invisible filled
  refine ⟨filled, whole, longer, ?_, ?_⟩
  · rw [alone hostRecords whole, found]
  · rw [followed (by decide) (by decide) [0xFF] hostRecordsAtLength longer, found]

end Admission.Tls.ClientHello
