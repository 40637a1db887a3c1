import Admission.Digest.Sha256
import Admission.Tls.ClientHello
import Mathlib.Data.List.DropRight
import Mathlib.Tactic.Ring

/-!
Contract: how a ClientHello is written.

Every layer is a structure that holds only what fits its length, and is written by `encoded`: names
in an extension, extensions in a block, the block at the end of a body, the body in a handshake
message. Where bytes of no meaning may follow, a layer has them as `after`.

Owns:
- numbers and blocks of bytes, for which reading is the inverse of writing
  (`takeNumber_eq_some_iff`, `takeBlock_eq_some_iff`);
- the layers, from `Field` and `NameList` to `Message` and `Record`;
- `Body.offer`, what a ClientHello offers.

Does not own: that exactly these bytes are accepted.
-/

namespace Admission.Tls

/-! ## Numbers -/

private theorem foldl_bigEndian (start : Nat) (bytes : List UInt8) :
    bytes.foldl (fun value byte => value * 256 + byte.toNat) start =
      start * 256 ^ bytes.length + bigEndian bytes := by
  induction bytes generalizing start with
  | nil => simp [bigEndian]
  | cons byte bytes inductionHypothesis =>
      rw [bigEndian, List.foldl_cons, List.foldl_cons, inductionHypothesis,
        inductionHypothesis (0 * 256 + byte.toNat), List.length_cons, pow_succ]
      ring

private theorem bigEndian_cons (byte : UInt8) (bytes : List UInt8) :
    bigEndian (byte :: bytes) = byte.toNat * 256 ^ bytes.length + bigEndian bytes := by
  rw [bigEndian, List.foldl_cons, Nat.zero_mul, Nat.zero_add, foldl_bigEndian]

theorem bigEndian_lt (bytes : List UInt8) : bigEndian bytes < 256 ^ bytes.length := by
  induction bytes with
  | nil => simp [bigEndian]
  | cons byte bytes inductionHypothesis =>
      rw [bigEndian_cons, List.length_cons, Nat.pow_succ']
      calc byte.toNat * 256 ^ bytes.length + bigEndian bytes
          < byte.toNat * 256 ^ bytes.length + 256 ^ bytes.length :=
            Nat.add_lt_add_left inductionHypothesis _
        _ = (byte.toNat + 1) * 256 ^ bytes.length := (Nat.succ_mul _ _).symm
        _ ≤ 256 * 256 ^ bytes.length := Nat.mul_le_mul_right _ byte.toNat_lt

/-- As many bytes that spell one number are the same. -/
theorem eq_of_bigEndian_eq {left right : List UInt8} (lengths : left.length = right.length)
    (same : bigEndian left = bigEndian right) : left = right := by
  induction left generalizing right with
  | nil => exact (List.length_eq_zero_iff.mp lengths.symm).symm
  | cons first left inductionHypothesis =>
      cases right with
      | nil => cases lengths
      | cons second right =>
          have rests : left.length = right.length := Nat.succ.inj lengths
          rw [bigEndian_cons, bigEndian_cons, rests] at same
          have leftBelow : bigEndian left < 256 ^ right.length := rests ▸ bigEndian_lt left
          have rightBelow := bigEndian_lt right
          have quotient (digit : Nat) {rest : Nat} (below : rest < 256 ^ right.length) :
              (digit * 256 ^ right.length + rest) / 256 ^ right.length = digit := by
            rw [Nat.add_comm, Nat.add_mul_div_right _ _ (Nat.pow_pos (by decide)),
              Nat.div_eq_of_lt below, Nat.zero_add]
          have heads : first.toNat = second.toNat := by
            rw [← quotient first.toNat leftBelow, same, quotient _ rightBelow]
          rw [heads] at same
          rw [UInt8.toNat_inj.mp heads, inductionHypothesis rests (Nat.add_left_cancel same)]

private theorem digits_length (count value : Nat) :
    (Digest.bigEndian count value).length = count := by
  simp [Digest.bigEndian]

private theorem digits_succ (count value : Nat) :
    Digest.bigEndian (count + 1) value =
      .ofNat (value / 256 ^ count) :: Digest.bigEndian count value := by
  have shifted : value >>> (8 * count) = value / 256 ^ count := by
    rw [Nat.shiftRight_eq_div_pow, Nat.pow_mul]
  rw [Digest.bigEndian, Digest.bigEndian, List.range_succ_eq_map, List.map_cons, List.map_map,
    ← shifted]
  simp [Function.comp_def, Nat.sub_add_eq, Nat.sub_right_comm]

theorem digits_one (value : Nat) : Digest.bigEndian 1 value = [.ofNat value] := by
  simp [Digest.bigEndian]

theorem digits_two (value : Nat) :
    Digest.bigEndian 2 value = [.ofNat (value / 256), .ofNat value] := by
  rw [digits_succ, digits_one, pow_one]

theorem bigEndian_digits (count value : Nat) :
    bigEndian (Digest.bigEndian count value) = value % 256 ^ count := by
  induction count with
  | zero => simp [Digest.bigEndian, bigEndian, Nat.mod_one]
  | succ count inductionHypothesis =>
      have split : value % 256 ^ (count + 1) =
          value % 256 ^ count + 256 ^ count * (value / 256 ^ count % 256) := Nat.mod_pow_succ
      rw [digits_succ, bigEndian_cons, digits_length, inductionHypothesis, UInt8.toNat_ofNat', split]
      ring

theorem digits_bigEndian (bytes : List UInt8) :
    Digest.bigEndian bytes.length (bigEndian bytes) = bytes := by
  refine eq_of_bigEndian_eq (digits_length _ _) ?_
  rw [bigEndian_digits, Nat.mod_eq_of_lt (bigEndian_lt bytes)]

/-! ## Reading and writing -/

section Reading

variable {count value : Nat} {bytes front rest content : List UInt8}

theorem takeBytes_eq_some_iff :
    takeBytes count bytes = some (front, rest) ↔ front.length = count ∧ bytes = front ++ rest := by
  constructor
  · intro taken
    exact (takeBytes_eq_some taken).symm
  · rintro ⟨rfl, rfl⟩
    unfold takeBytes
    rw [if_pos (by simp), List.take_left, List.drop_left]

theorem takeNumber_eq_some_iff :
    takeNumber count bytes = some (value, rest) ↔
      value < 256 ^ count ∧ bytes = Digest.bigEndian count value ++ rest := by
  simp only [takeNumber, Option.map_eq_some_iff, Prod.exists, Prod.mk.injEq]
  constructor
  · rintro ⟨digits, _, taken, rfl, rfl⟩
    obtain ⟨rfl, rfl⟩ := takeBytes_eq_some_iff.mp taken
    rw [digits_bigEndian]
    exact ⟨bigEndian_lt digits, rfl⟩
  · rintro ⟨small, rfl⟩
    refine ⟨_, rest, takeBytes_eq_some_iff.mpr ⟨digits_length count value, rfl⟩, ?_, rfl⟩
    rw [bigEndian_digits, Nat.mod_eq_of_lt small]

/-- Bytes with their length in front, which takes `count` bytes. -/
def block (count : Nat) (bytes : List UInt8) : List UInt8 :=
  Digest.bigEndian count bytes.length ++ bytes

theorem block_length (count : Nat) (bytes : List UInt8) :
    (block count bytes).length = count + bytes.length := by
  rw [block, List.length_append, digits_length]

theorem takeBlock_eq_some_iff :
    takeBlock count bytes = some (content, rest) ↔
      content.length < 256 ^ count ∧ bytes = block count content ++ rest := by
  simp only [takeBlock, Option.bind_eq_some_iff, Prod.exists]
  constructor
  · rintro ⟨length, _, number, taken⟩
    obtain ⟨small, rfl⟩ := takeNumber_eq_some_iff.mp number
    obtain ⟨rfl, rfl⟩ := takeBytes_eq_some_iff.mp taken
    exact ⟨small, (List.append_assoc _ _ _).symm⟩
  · rintro ⟨fits, rfl⟩
    rw [block, List.append_assoc]
    exact ⟨content.length, content ++ rest, takeNumber_eq_some_iff.mpr ⟨fits, rfl⟩,
      takeBytes_eq_some_iff.mpr ⟨rfl, rfl⟩⟩

/-- What is read from a block, whatever comes after it. -/
theorem bind_takeBlock_eq_some_iff {α : Type} {read : List UInt8 → Option α} {result : α} :
    ((takeBlock count bytes).bind fun (content, _) => read content) = some result ↔
      ∃ content after, content.length < 256 ^ count ∧ block count content ++ after = bytes ∧
        read content = some result := by
  simp only [Option.bind_eq_some_iff, Prod.exists, takeBlock_eq_some_iff]
  constructor
  · rintro ⟨content, after, ⟨fits, rfl⟩, given⟩
    exact ⟨content, after, fits, rfl, given⟩
  · rintro ⟨content, after, fits, rfl, given⟩
    exact ⟨content, after, ⟨fits, rfl⟩, given⟩

/-- A block in bytes that can be told a length for can be told one for. -/
theorem lt_of_block_append_lt {after : List UInt8} {bound : Nat}
    (fits : (block count content ++ after).length < bound) : content.length < bound := by
  rw [List.length_append, block_length] at fits
  omega

end Reading

/-! ## Layers -/

/-- Bytes whose length can be told in `count` bytes. -/
structure Field (count : Nat) where
  bytes : List UInt8
  fits : bytes.length < 256 ^ count

namespace Field

variable {count : Nat}

def encoded (field : Field count) : List UInt8 :=
  block count field.bytes

/-- The bytes as text, with replacement of what is no UTF-8. -/
def text (field : Field count) : String :=
  String.ofList (Text.decodeUtf8Lossy field.bytes)

end Field

/-- An entry of a list of names that is no host name. -/
structure OtherName where
  kind : UInt8
  name : Field 2
  foreign : kind ≠ 0

def OtherName.encoded (entry : OtherName) : List UInt8 :=
  entry.kind :: entry.name.encoded

/-- The host name of a list of names, and all that is listed after it. -/
structure HostName where
  text : List Char
  fits : (Text.encodeUtf8 text).length < 256 ^ 2
  after : List UInt8

def HostName.encoded (host : HostName) : List UInt8 :=
  0 :: (block 2 (Text.encodeUtf8 host.text) ++ host.after)

/-- Names of other kinds, then at most one host name. -/
structure NameList where
  others : List OtherName
  host : Option HostName

namespace NameList

def encoded (names : NameList) : List UInt8 :=
  names.others.flatMap OtherName.encoded ++ names.host.elim [] HostName.encoded

/-- The host name in lower case, without dots at its end. -/
def serverName (names : NameList) : Option String :=
  names.host.map fun host => String.ofList ((Text.lowercase host.text).rdropWhile (· = '.'))

end NameList

/-- What an extension holds. -/
inductive Content where
  | serverName (names : NameList) (after : List UInt8)
  | protocols (names : List (Field 1)) (after : List UInt8)
  | other (kind : Nat) (payload : List UInt8) (small : kind < 256 ^ 2)
      (foreign : kind ≠ ClientHello.serverNameType ∧ kind ≠ ClientHello.protocolsType)

namespace Content

/-- The type under which the extension is listed. -/
def kind : Content → Nat
  | serverName _ _ => ClientHello.serverNameType
  | protocols _ _ => ClientHello.protocolsType
  | other kind _ _ _ => kind

def payload : Content → List UInt8
  | serverName names after => block 2 names.encoded ++ after
  | protocols names after => block 2 (names.flatMap Field.encoded) ++ after
  | other _ payload _ _ => payload

def serverNames? : Content → Option NameList
  | serverName names _ => some names
  | _ => none

def protocolNames? : Content → Option (List (Field 1))
  | protocols names _ => some names
  | _ => none

theorem kind_lt (content : Content) : content.kind < 256 ^ 2 := by
  cases content with
  | serverName names after => exact (by decide : ClientHello.serverNameType < 256 ^ 2)
  | protocols names after => exact (by decide : ClientHello.protocolsType < 256 ^ 2)
  | other kind payload small foreign => exact small

end Content

structure Extension where
  content : Content
  fits : content.payload.length < 256 ^ 2

def Extension.encoded (extension : Extension) : List UInt8 :=
  Digest.bigEndian 2 extension.content.kind ++ block 2 extension.content.payload

/-- What extensions offer: of each type the last one counts. -/
def Extension.offer (extensions : List Extension) : ClientHello where
  serverName :=
    (extensions.filterMap (·.content.serverNames?)).getLast?.bind NameList.serverName
  applicationProtocols :=
    ((extensions.filterMap (·.content.protocolNames?)).getLast?.getD []).map Field.text

/-- The extensions at the end of a body, and all that comes after them. -/
structure ExtensionBlock where
  extensions : List Extension
  fits : (extensions.flatMap Extension.encoded).length < 256 ^ 2
  after : List UInt8

def ExtensionBlock.encoded (extensions : ExtensionBlock) : List UInt8 :=
  block 2 (extensions.extensions.flatMap Extension.encoded) ++ extensions.after

structure Body where
  version : Vector UInt8 2
  random : Vector UInt8 32
  sessionId : Field 1
  cipherSuites : Field 2
  compression : Field 1
  extensions : Option ExtensionBlock

namespace Body

def encoded (body : Body) : List UInt8 :=
  body.version.toList ++ body.random.toList ++ body.sessionId.encoded ++
    body.cipherSuites.encoded ++ body.compression.encoded ++
    body.extensions.elim [] ExtensionBlock.encoded

def offer (body : Body) : ClientHello :=
  Extension.offer (body.extensions.elim [] (·.extensions))

end Body

/-- A ClientHello as a handshake message, which has type 1. -/
structure Message where
  body : Body
  fits : body.encoded.length < 256 ^ 3

def Message.encoded (message : Message) : List UInt8 :=
  1 :: block 3 message.body.encoded

/-- A handshake record. The second byte of its version is of no meaning. -/
structure Record where
  minor : UInt8
  fragment : Field 2
  filled : fragment.bytes ≠ []

def Record.encoded (record : Record) : List UInt8 :=
  0x16 :: 3 :: record.minor :: record.fragment.encoded

end Admission.Tls
