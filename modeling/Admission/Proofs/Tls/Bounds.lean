import Admission.Proofs.Tls.Acceptance
import Admission.Proofs.Tls.Reader

/-!
Contract: a stream of bytes is read by positions without ever leaving a buffer or standing still.

The bytes come from whoever connects, and records are taken apart by positions and lengths that are
found in them. Here the loops over records, extensions and names are told turn by turn, with each of
their accesses.

Owns:
- `nameTurn`, `protocolTurn`, `extensionTurn` and `recordTurn`, the turns of the four loops, and
  what each of them comes to;
- `parseByPositions` and `parser_is_safe`.
-/

namespace Admission.Tls

namespace ClientHello

open Reader

/-! ## Names -/

/-- A turn of the loop over the names of a server name extension. -/
def nameTurn (reader : Reader) : Reading (Reader ⊕ Option String) := do
  if reader.isEmpty then return .inr none
  let (kind, reader) ← reader.u8
  let (name, reader) ← reader.block16
  if kind = 0 then
    match Text.decodeUtf8? name with
    | none => failure
    | some host => return .inr (some (canonicalHost host))
  else return .inl reader

def plainNameTurn : List UInt8 → Option (List UInt8 ⊕ Option String)
  | [] => some (.inr none)
  | kind :: rest =>
      (takeBlock 2 rest).bind fun (name, remaining) =>
        if kind = 0 then (Text.decodeUtf8? name).map fun host => .inr (some (canonicalHost host))
        else some (.inl remaining)

private theorem nameTurns (data : List UInt8) :
    Turns (Stands data) nameTurn plainNameTurn firstHost List.length 1 where
  refines := by
    intro reader names stands
    unfold nameTurn
    rw [stands.isEmpty_eq]
    cases names with
    | nil => exact refines_pure (.inr rfl)
    | cons kind rest =>
        refine bind_u8_refines stands fun reader stands => ?_
        refine bind_refines (refines_block16 stands) fun name reader remaining _ stands => ?_
        by_cases isHost : kind = 0
        · simp only [isHost, if_true]
          cases Text.decodeUtf8? name with
          | none => exact refines_failure
          | some host => exact refines_pure (.inr rfl)
        · simp only [isHost, if_false]
          exact refines_pure (.inl stands)
  unfolds := by
    intro reader names _
    cases names with
    | nil => simp [firstHost, plainNameTurn]
    | cons kind rest =>
        rw [firstHost, plainNameTurn]
        cases taken : takeBlock 2 rest with
        | none => simp
        | some split =>
            by_cases isHost : kind = 0
            · cases decoded : Text.decodeUtf8? split.1 <;> simp [isHost, decoded]
            · simp [isHost]
  consumes := by
    intro names next goesOn
    cases names with
    | nil => simp [plainNameTurn] at goesOn
    | cons kind rest =>
        obtain ⟨⟨name, remaining⟩, taken, turned⟩ := Option.bind_eq_some_iff.mp goesOn
        have shorter := takeBlock_length taken
        by_cases isHost : kind = 0
        · simp [isHost] at turned
        · have same : remaining = next := by simpa [isHost] using turned
          rw [← same, List.length_cons]
          omega

/-- The host name of a server name extension. -/
def readServerName (payload : List UInt8) : Reading (Option String) := do
  let (names, _) ← (Reader.start payload).block16
  loop nameTurn (names.length + 1) (Reader.start names)

theorem readServerName_run (payload : List UInt8) :
    (readServerName payload).run = .ok (serverNameOf payload) := by
  rw [← refines_eq_iff]
  refine bind_refines (refines_block16 (stands_start payload)) fun names _ _ _ _ => ?_
  exact refines_eq_iff.mpr ((nameTurns names).loop_eq (stands_start names) (by simp))

/-- A turn of the loop over the names of an application protocol extension. -/
def protocolTurn (state : List String × Reader) :
    Reading ((List String × Reader) ⊕ List String) := do
  let (protocols, reader) := state
  if reader.isEmpty then return .inr protocols
  let (name, reader) ← reader.block8
  return .inl (protocols ++ [String.ofList (Text.decodeUtf8Lossy name)], reader)

def plainProtocolTurn :
    List String × List UInt8 → Option ((List String × List UInt8) ⊕ List String)
  | (protocols, []) => some (.inr protocols)
  | (protocols, length :: rest) =>
      (takeBlock 1 (length :: rest)).bind fun (name, remaining) =>
        some (.inl (protocols ++ [String.ofList (Text.decodeUtf8Lossy name)], remaining))

private theorem protocolTurns (data : List UInt8) :
    Turns (Read data) protocolTurn plainProtocolTurn
      (fun state => (protocolNames state.2).map (state.1 ++ ·)) (·.2.length) 1 where
  refines := by
    intro state plain same
    obtain ⟨protocols, reader⟩ := state
    obtain ⟨plainProtocols, names⟩ := plain
    obtain ⟨equal, stands⟩ := same
    obtain rfl : protocols = plainProtocols := equal
    unfold protocolTurn
    simp only [stands.isEmpty_eq]
    cases names with
    | nil => exact refines_pure (.inr rfl)
    | cons length rest =>
        exact bind_refines (refines_block8 stands) fun name reader remaining _ stands =>
          refines_pure (.inl ⟨rfl, stands⟩)
  unfolds := by
    intro state plain _
    obtain ⟨protocols, names⟩ := plain
    cases names with
    | nil => simp [protocolNames, plainProtocolTurn]
    | cons length rest =>
        rw [protocolNames, plainProtocolTurn, takeBlock_one]
        cases taken : takeBytes length.toNat rest with
        | none => simp
        | some split => simp [Function.comp_def]
  consumes := by
    intro plain next goesOn
    obtain ⟨protocols, names⟩ := plain
    cases names with
    | nil => simp [plainProtocolTurn] at goesOn
    | cons length rest =>
        obtain ⟨⟨name, remaining⟩, taken, turned⟩ := Option.bind_eq_some_iff.mp goesOn
        have shorter := takeBlock_length taken
        cases turned
        simp only
        omega

/-- The names of an application protocol extension. -/
def readProtocols (payload : List UInt8) : Reading (List String) := do
  let (names, _) ← (Reader.start payload).block16
  loop protocolTurn (names.length + 1) ([], Reader.start names)

theorem readProtocols_run (payload : List UInt8) :
    (readProtocols payload).run = .ok (protocolsOf payload) := by
  rw [← refines_eq_iff]
  refine bind_refines (refines_block16 (stands_start payload)) fun names _ _ _ _ => ?_
  have same : Read names (([] : List String), Reader.start names) ([], names) :=
    ⟨rfl, stands_start names⟩
  have enough : names.length < 1 * (names.length + 1) := by omega
  simpa [refines_eq_iff] using (protocolTurns names).loop_eq same enough

/-! ## Extensions -/

/-- A turn of the loop over extensions. -/
def extensionTurn (state : ClientHello × Reader) :
    Reading ((ClientHello × Reader) ⊕ ClientHello) := do
  let (hello, reader) := state
  if reader.isEmpty then return .inr hello
  let (kind, reader) ← reader.u16
  let (payload, reader) ← reader.block16
  if kind = serverNameType then
    let serverName ← readServerName payload
    return .inl ({ hello with serverName }, reader)
  else if kind = protocolsType then
    let applicationProtocols ← readProtocols payload
    return .inl ({ hello with applicationProtocols }, reader)
  else return .inl (hello, reader)

def plainExtensionTurn :
    ClientHello × List UInt8 → Option ((ClientHello × List UInt8) ⊕ ClientHello)
  | (hello, []) => some (.inr hello)
  | (hello, byte :: rest) =>
      (takeNumber 2 (byte :: rest)).bind fun (kind, afterKind) =>
        (takeBlock 2 afterKind).bind fun (payload, remaining) =>
          (hello.withExtension kind payload).bind fun hello => some (.inl (hello, remaining))

private theorem extensionTurns (data : List UInt8) :
    Turns (Read data) extensionTurn plainExtensionTurn
      (fun state => state.1.withExtensions state.2) (·.2.length) 1 where
  refines := by
    intro state plain same
    obtain ⟨hello, reader⟩ := state
    obtain ⟨plainHello, extensions⟩ := plain
    obtain ⟨equal, stands⟩ := same
    obtain rfl : hello = plainHello := equal
    unfold extensionTurn
    simp only [stands.isEmpty_eq]
    cases extensions with
    | nil => exact refines_pure (.inr rfl)
    | cons byte rest =>
        refine bind_refines (refines_u16 stands) fun kind reader afterKind _ stands => ?_
        refine bind_refines (refines_block16 stands) fun payload reader remaining _ stands => ?_
        unfold withExtension
        by_cases isName : kind = serverNameType
        · have read := refines_eq_iff.mpr (readServerName_run payload)
          simp only [if_pos isName, Option.bind_map]
          refine read.bind fun serverName _ _ equal => refines_pure (.inl ⟨?_, stands⟩)
          rw [equal]
        · by_cases isProtocols : kind = protocolsType
          · have read := refines_eq_iff.mpr (readProtocols_run payload)
            simp only [if_neg isName, if_pos isProtocols, Option.bind_map]
            refine read.bind fun protocols _ _ equal => refines_pure (.inl ⟨?_, stands⟩)
            rw [equal]
          · simp only [if_neg isName, if_neg isProtocols]
            exact refines_pure (.inl ⟨rfl, stands⟩)
  unfolds := by
    intro state plain _
    obtain ⟨hello, extensions⟩ := plain
    cases extensions with
    | nil => simp [withExtensions, plainExtensionTurn]
    | cons byte rest =>
        rw [withExtensions, plainExtensionTurn]
        cases takeNumber 2 (byte :: rest) with
        | none => rfl
        | some number =>
            dsimp only
            cases taken : takeBlock 2 number.2 with
            | none => simp [taken]
            | some split =>
                cases later : hello.withExtension number.1 split.1 <;> simp [taken, later]
  consumes := by
    intro plain next goesOn
    obtain ⟨hello, extensions⟩ := plain
    cases extensions with
    | nil => simp [plainExtensionTurn] at goesOn
    | cons byte rest =>
        obtain ⟨⟨kind, afterKind⟩, header, turned⟩ := Option.bind_eq_some_iff.mp goesOn
        obtain ⟨⟨payload, remaining⟩, taken, turned⟩ := Option.bind_eq_some_iff.mp turned
        obtain ⟨later, _, turned⟩ := Option.bind_eq_some_iff.mp turned
        have kindTaken := takeNumber_length header
        have payloadTaken := takeBlock_length taken
        cases turned
        simp only
        omega

def readExtensions (extensions : List UInt8) : Reading ClientHello :=
  loop extensionTurn (extensions.length + 1) (plain, Reader.start extensions)

theorem readExtensions_run (extensions : List UInt8) :
    (readExtensions extensions).run = .ok (plain.withExtensions extensions) := by
  have same : Read extensions (plain, Reader.start extensions) (plain, extensions) :=
    ⟨rfl, stands_start extensions⟩
  exact (extensionTurns extensions).loop_eq same (by simp)

/-! ## The message -/

/-- Reads a message with its header, which is the whole buffer. -/
def readHandshake (message : List UInt8) : Reading ClientHello := do
  let (_, reader) ← (Reader.start message).bytes 1
  let (length, reader) ← reader.u24
  let (body, _) ← reader.bytes length
  let (_, reader) ← (Reader.start body).bytes fixedLength
  let (_, reader) ← reader.block8
  let (_, reader) ← reader.block16
  let (_, reader) ← reader.block8
  if reader.isEmpty then return plain
  let (extensions, _) ← reader.block16
  readExtensions extensions

theorem readHandshake_run {kind : UInt8} {rest body after : List UInt8}
    (taken : takeBlock 3 rest = some (body, after)) :
    (readHandshake (kind :: rest)).run = .ok (ofBody body) := by
  have front : takeBytes 1 (kind :: rest) = some ([kind], rest) := by simp [takeBytes]
  have header : ofBody body = (takeBytes 1 (kind :: rest)).bind fun (_, rest) =>
      (takeNumber 3 rest).bind fun (length, rest) =>
        (takeBytes length rest).bind fun (body, _) => ofBody body := by
    have declared : ofBody body = (takeBlock 3 rest).bind fun (body, _) => ofBody body := by
      rw [taken]
      rfl
    rw [front, declared, takeBlock, Option.bind_assoc]
    rfl
  rw [← refines_eq_iff, header]
  refine bind_refines (refines_bytes (stands_start _) 1) fun _ reader _ _ stands => ?_
  refine bind_refines (refines_u24 stands) fun length reader _ _ stands => ?_
  refine bind_refines (refines_bytes stands length) fun body _ _ _ _ => ?_
  unfold ofBody
  refine bind_refines (refines_bytes (stands_start body) fixedLength) fun _ reader _ _ stands => ?_
  refine bind_refines (refines_block8 stands) fun _ reader _ _ stands => ?_
  refine bind_refines (refines_block16 stands) fun _ reader _ _ stands => ?_
  refine bind_refines (refines_block8 stands) fun _ reader rest _ stands => ?_
  simp only [stands.isEmpty_eq]
  cases rest with
  | nil => exact refines_pure rfl
  | cons byte rest =>
      refine bind_refines (refines_block16 stands) fun extensions _ _ _ _ => ?_
      exact refines_eq_iff.mpr (readExtensions_run extensions)

/-- The verdict on joined fragments, if they have come to one. -/
def judge (handshake : List UInt8) : Except Fault (Option Verdict) := do
  let kind ← byteAt handshake 0
  if kind ≠ 1 then return some .notTls
  if handshake.length < 4 then return none
  let header ← part handshake 1 4
  match ← (Reader.start header).u24.run with
  | none => return some .malformed
  | some (length, _) =>
      if handshake.length < 4 + length then return none
      let message ← part handshake 0 (4 + length)
      match ← (readHandshake message).run with
      | none => return some .malformed
      | some hello => return some (.found hello)

theorem u24_run {digits : List UInt8} (three : digits.length = 3) :
    ∃ next, (Reader.start digits).u24.run = .ok (some (bigEndian digits, next)) := by
  have number : takeNumber 3 digits = some (bigEndian digits, []) := by
    simp [takeNumber, takeBytes, ← three]
  obtain ⟨outcome, run, same⟩ := refines_u24 (stands_start digits)
  rw [number] at same
  cases same with
  | @some read _ same =>
      obtain ⟨value, next⟩ := read
      obtain ⟨equal, _⟩ := same
      obtain rfl : value = bigEndian digits := equal
      exact ⟨next, run⟩

/-- A block is read alike from a buffer that ends with it. -/
theorem takeBlock_take {count : Nat} {bytes content rest : List UInt8}
    (taken : takeBlock count bytes = some (content, rest)) :
    takeBlock count (bytes.take (count + content.length)) = some (content, []) := by
  obtain ⟨fits, whole⟩ := takeBlock_eq_some_iff.mp taken
  have front : bytes.take (count + content.length) = block count content := by
    rw [whole, List.take_left' (block_length count content)]
  rw [front]
  exact takeBlock_eq_some_iff.mpr ⟨fits, (List.append_nil _).symm⟩

/-- A message whose declared body is there is cut out and read. -/
theorem readHandshake_of_declared (kind : UInt8) {rest : List UInt8} {length : Nat}
    (declared : takeBlock 3 rest = takeBytes length (rest.drop 3))
    (complete : length ≤ rest.length - 3) (header : 3 ≤ rest.length) :
    part (kind :: rest) 0 (4 + length) = .ok (kind :: rest.take (3 + length)) ∧
      (readHandshake (kind :: rest.take (3 + length))).run =
        .ok (ofBody ((rest.drop 3).take length)) := by
  have there : 4 + length ≤ (kind :: rest).length := by
    rw [List.length_cons]
    omega
  have shifted : 4 + length = 3 + length + 1 := by omega
  have taken : takeBlock 3 rest =
      some ((rest.drop 3).take length, (rest.drop 3).drop length) := by
    simp [declared, takeBytes, complete]
  have measured : ((rest.drop 3).take length).length = length := by simpa using complete
  have whole := takeBlock_take taken
  rw [measured] at whole
  refine ⟨?_, readHandshake_run whole⟩
  rw [part_of_le (Nat.zero_le _) there, shifted, List.take_succ_cons, List.drop_zero]

/-- Joined fragments are judged by their header and the body that it declares. -/
theorem judge_eq {handshake : List UInt8} (filled : handshake ≠ []) :
    judge handshake = .ok (ofHandshake handshake) := by
  cases handshake with
  | nil => exact absurd rfl filled
  | cons kind rest =>
      have front : byteAt (kind :: rest) 0 = .ok kind := rfl
      unfold judge ofHandshake
      simp only [front, bind, Except.bind, pure, Except.pure, List.length_cons]
      by_cases isHello : kind = 1
      · rw [if_neg (not_not_intro isHello), if_neg (not_not_intro isHello)]
        by_cases short : rest.length + 1 < 4
        · have few : ¬3 ≤ rest.length := by omega
          have missing : takeBlock 3 rest = none := by simp [takeBlock, takeNumber, takeBytes, few]
          rw [if_pos short, missing]
        · have three : 3 ≤ rest.length := by omega
          have header : part (kind :: rest) 1 4 = .ok (rest.take 3) :=
            part_of_le (by decide) (by simpa using three)
          have declared : takeBlock 3 rest = takeBytes (bigEndian (rest.take 3)) (rest.drop 3) := by
            simp [takeBlock, takeNumber, takeBytes, three]
          obtain ⟨next, number⟩ := u24_run (List.length_take_of_le three)
          simp only [if_neg short, header, number]
          generalize bigEndian (rest.take 3) = length at declared
          by_cases complete : length ≤ rest.length - 3
          · have enough : ¬rest.length + 1 < 4 + length := by omega
            obtain ⟨message, read⟩ := readHandshake_of_declared kind declared complete three
            simp only [if_neg enough, message, read, declared, takeBytes, List.length_drop,
              if_pos complete]
            cases ofBody ((rest.drop 3).take length) <;> rfl
          · have few : rest.length + 1 < 4 + length := by omega
            simp only [if_pos few, declared, takeBytes, List.length_drop, if_neg complete]
      · rw [if_pos isHello, if_pos isHello]

/-! ## Records -/

/-- How far the records of a stream are joined. -/
structure Joining where
  handshake : List UInt8
  rest : List UInt8
  records : Nat

/-- A turn of the loop over records. -/
def recordTurn (state : Joining) : Reading (Joining ⊕ Verdict) := do
  let foreign : Verdict := if state.records = 0 then .notTls else .malformed
  if state.rest.isEmpty then return .inr .incomplete
  let kind ← byteAt state.rest 0
  if kind ≠ 0x16 then return .inr foreign
  if state.rest.length < 5 then return .inr .incomplete
  let major ← byteAt state.rest 1
  if major ≠ 3 then return .inr foreign
  let high ← byteAt state.rest 3
  let low ← byteAt state.rest 4
  let length := high.toNat * 256 + low.toNat
  if state.rest.length < 5 + length then return .inr .incomplete
  if length = 0 then return .inr .malformed
  let fragment ← part state.rest 5 (5 + length)
  let handshake := state.handshake ++ fragment
  let rest ← part state.rest (5 + length) state.rest.length
  let known : Option Verdict ← liftM (judge handshake)
  match known with
  | some verdict => return .inr verdict
  | none => return .inl ⟨handshake, rest, state.records + 1⟩

/-- What a turn comes to when the record at the front is split off. -/
def Joining.advance (state : Joining) : RecordStep → Joining ⊕ Verdict
  | .incomplete => .inr .incomplete
  | .foreign => .inr (if state.records = 0 then .notTls else .malformed)
  | .empty => .inr .malformed
  | .fragment bytes rest =>
      match ofHandshake (state.handshake ++ bytes) with
      | some verdict => .inr verdict
      | none => .inl ⟨state.handshake ++ bytes, rest, state.records + 1⟩

/-- Once a whole record is there, its fragment is cut out, joined and judged. -/
theorem recordTurn_of_fragment (handshake : List UInt8) (records : Nat) (minor high low : UInt8)
    {fragment rest : List UInt8} (measured : fragment.length = bigEndian [high, low]) :
    recordTurn ⟨handshake, 0x16 :: 3 :: minor :: high :: low :: (fragment ++ rest), records⟩ =
      pure (Joining.advance
        ⟨handshake, 0x16 :: 3 :: minor :: high :: low :: (fragment ++ rest), records⟩
        (if fragment = [] then .empty else .fragment fragment rest)) := by
  have number : high.toNat * 256 + low.toNat = fragment.length := by simp [measured, bigEndian]
  have middle : part (0x16 :: 3 :: minor :: high :: low :: (fragment ++ rest)) 5
      (5 + fragment.length) = .ok fragment := part_middle [0x16, 3, minor, high, low] fragment rest
  have last : part (0x16 :: 3 :: minor :: high :: low :: (fragment ++ rest)) (5 + fragment.length)
      (0x16 :: 3 :: minor :: high :: low :: (fragment ++ rest)).length = .ok rest := by
    have ended := part_end ([0x16, 3, minor, high, low] ++ fragment) rest
    rw [List.length_append] at ended
    exact ended
  have enough : ¬(0x16 :: 3 :: minor :: high :: low :: (fragment ++ rest)).length <
      5 + fragment.length := by
    simp only [List.length_cons, List.length_append]
    omega
  have header : ¬(0x16 :: 3 :: minor :: high :: low :: (fragment ++ rest)).length < 5 := by simp
  unfold recordTurn
  simp only [byteAt, List.getElem?_cons_zero, List.getElem?_cons_succ, lift_ok_bind,
    List.isEmpty_cons, Bool.false_eq_true, if_false, ne_eq, not_true_eq_false, if_neg header,
    number, if_neg enough, middle, last]
  by_cases filled : fragment = []
  · simp [filled, Joining.advance]
  · have some : fragment.length ≠ 0 := by simpa using filled
    have judged := judge_eq (List.append_ne_nil_of_right_ne_nil handshake filled)
    simp only [if_neg some, judged, lift_ok_bind, if_neg filled, Joining.advance]
    cases ofHandshake (handshake ++ fragment) <;> rfl

private theorem recordTurn_eq (state : Joining) :
    recordTurn state = pure (state.advance (nextRecord state.rest)) := by
  obtain ⟨handshake, stream, records⟩ := state
  cases stream with
  | nil => rfl
  | cons kind afterKind =>
      by_cases isHandshake : kind = 0x16
      · subst isHandshake
        -- Without a whole header the record is incomplete.
        rcases afterKind with _ | ⟨major, _ | ⟨minor, _ | ⟨high, _ | ⟨low, payload⟩⟩⟩⟩
        iterate 4 rfl
        by_cases isVersion : major = 3
        · subst isVersion
          cases taken : takeBytes (bigEndian [high, low]) payload with
          | none =>
              have number : bigEndian [high, low] = high.toNat * 256 + low.toNat := by
                simp [bigEndian]
              have short : payload.length < high.toNat * 256 + low.toNat := by
                simpa [takeBytes, number] using taken
              have few : payload.length + 5 < 5 + (high.toNat * 256 + low.toNat) := by omega
              simp [recordTurn, nextRecord, byteAt, taken, few, Joining.advance]
          | some split =>
              obtain ⟨fragment, rest⟩ := split
              obtain ⟨rfl, measured⟩ := takeBytes_eq_some taken
              rw [recordTurn_of_fragment handshake records minor high low measured]
              simp only [nextRecord, ne_eq, not_true_eq_false, if_false, taken]
              cases fragment <;> rfl
        · simp [recordTurn, nextRecord, byteAt, isVersion, Joining.advance]
      · simp [recordTurn, nextRecord, byteAt, isHandshake, Joining.advance]

/-- Records have been counted if their fragments were joined. -/
def Joining.Begun (state : Joining) : Prop :=
  state.records = 0 ↔ state.handshake = []

/-- A turn after which the loop goes on has split off a record and joined its fragment. -/
theorem Joining.advance_eq_inl {state next : Joining}
    (advanced : state.advance (nextRecord state.rest) = .inl next) :
    next.Begun ∧ next.rest.length + 6 ≤ state.rest.length := by
  cases split : nextRecord state.rest with
  | incomplete => simp [split, advance] at advanced
  | foreign => simp [split, advance] at advanced
  | empty => simp [split, advance] at advanced
  | fragment bytes rest =>
      have consumed := nextRecord_fragment_length split
      have filled : bytes ≠ [] := List.length_pos_iff.mp consumed.2
      cases known : ofHandshake (state.handshake ++ bytes) with
      | some verdict => simp [split, known, advance] at advanced
      | none =>
          simp only [split, known, advance, Sum.inl.injEq] at advanced
          subst advanced
          refine ⟨by simp [Begun, filled], ?_⟩
          simp only
          omega

private theorem recordTurns :
    Turns (fun state plain => state = plain ∧ plain.Begun) recordTurn
      (fun state => some (state.advance (nextRecord state.rest)))
      (fun state => some (joinRecords state.handshake state.rest)) (·.rest.length) 6 where
  refines := by
    intro state plain same
    obtain ⟨rfl, _⟩ := same
    rw [recordTurn_eq]
    cases advanced : state.advance (nextRecord state.rest) with
    | inl next => exact refines_pure (.inl ⟨rfl, (Joining.advance_eq_inl advanced).1⟩)
    | inr verdict => exact refines_pure (.inr rfl)
  unfolds := by
    intro state plain same
    have begun := same.2
    unfold Joining.Begun at begun
    rw [joinRecords]
    cases nextRecord plain.rest with
    | incomplete => rfl
    | foreign => simp [Joining.advance, begun]
    | empty => rfl
    | fragment bytes rest =>
        dsimp only [Joining.advance, Option.bind_some]
        cases ofHandshake (plain.handshake ++ bytes) <;> rfl
  consumes := by
    intro plain next goesOn
    exact (Joining.advance_eq_inl (Option.some.inj goesOn)).2

/-- Reads a stream by positions, with a turn for each six of its bytes and one more. -/
def parseByPositions (stream : List UInt8) : Reading Verdict :=
  loop recordTurn (stream.length / 6 + 1) ⟨[], stream, 0⟩

theorem parseByPositions_run (stream : List UInt8) :
    (parseByPositions stream).run = .ok (some (parse stream)) := by
  have begun : Joining.Begun ⟨[], stream, 0⟩ := by simp [Joining.Begun]
  have enough : stream.length < 6 * (stream.length / 6 + 1) := by omega
  exact recordTurns.loop_eq ⟨rfl, begun⟩ enough

/-- A reader that has fewer bytes of a buffer before it has moved on. -/
theorem moved_on {data rest after : List UInt8} {reader next : Reader}
    (before : Stands data reader rest) (stands : Stands data next after)
    (fewer : after.length + 1 ≤ rest.length) : next.Inside data ∧ reader.pos < next.pos := by
  have earlier := before.pos_add
  have later := stands.pos_add
  refine ⟨stands.toInside, ?_⟩
  omega

/-- Any bytes can be read. The parser meets no fault on any stream: it accesses nothing outside of a
buffer, none of its readers moves behind the end of its buffer, and none of its loops takes more
turns than its bytes allow; and its verdict is the one of `parse`. A turn of the loop over records
after which it goes on has consumed six bytes at least. A reader in a buffer stays in it with each
read, and a turn of the loops over extensions and names after which they go on has moved it by a
byte at least. -/
theorem parser_is_safe :
    (∀ stream, (parseByPositions stream).run = .ok (some (parse stream))) ∧
    (∀ state next : Joining, (recordTurn state).run = .ok (some (.inl next)) →
      next.rest.length + 6 ≤ state.rest.length) ∧
    ∀ (data : List UInt8) (reader next : Reader), reader.Inside data →
      (∀ byte, reader.u8.run = .ok (some (byte, next)) → next.Inside data) ∧
      (∀ count bytes, (reader.bytes count).run = .ok (some (bytes, next)) → next.Inside data) ∧
      (∀ hello later, (extensionTurn (hello, reader)).run = .ok (some (.inl (later, next))) →
        next.Inside data ∧ reader.pos < next.pos) ∧
      ((nameTurn reader).run = .ok (some (.inl next)) →
        next.Inside data ∧ reader.pos < next.pos) ∧
      (∀ protocols later,
        (protocolTurn (protocols, reader)).run = .ok (some (.inl (later, next))) →
        next.Inside data ∧ reader.pos < next.pos) := by
  refine ⟨parseByPositions_run, ?_, ?_⟩
  · intro state next goesOn
    rw [recordTurn_eq] at goesOn
    exact (Joining.advance_eq_inl (Option.some.inj (Except.ok.inj goesOn))).2
  · intro data reader next inside
    have stands := inside.stands
    refine ⟨?_, ?_, ?_, ?_, ?_⟩
    · intro byte read
      exact inside_of_refines (refines_u8 stands) read
    · intro count bytes read
      exact inside_of_refines (refines_bytes stands count) read
    · intro hello later goesOn
      have same : Read data (hello, reader) (hello, data.drop reader.pos) := ⟨rfl, stands⟩
      obtain ⟨plainNext, after, fewer⟩ := (extensionTurns data).consumed same goesOn
      exact moved_on stands after.2 fewer
    · intro goesOn
      obtain ⟨plainNext, after, fewer⟩ := (nameTurns data).consumed stands goesOn
      exact moved_on stands after fewer
    · intro protocols later goesOn
      have same : Read data (protocols, reader) (protocols, data.drop reader.pos) := ⟨rfl, stands⟩
      obtain ⟨plainNext, after, fewer⟩ := (protocolTurns data).consumed same goesOn
      exact moved_on stands after.2 fewer

end ClientHello

end Admission.Tls
