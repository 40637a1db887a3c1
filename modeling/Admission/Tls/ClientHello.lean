import Admission.Text.Lowercase
import Admission.Text.Utf8

/-!
Contract: the ClientHello at the start of a byte stream.

A stream of TLS starts with handshake records: content type 0x16, a version whose first byte is 3,
a length of two bytes, and a fragment that is never empty. The fragments are joined until the
handshake message is complete: type 1, a length of three bytes, and the body: version and random,
session id, cipher suites, compression methods and, unless the body ends there, extensions.

Owns:
- reading bytes with big-endian numbers, each step giving the rest of the bytes;
- `ClientHello` with the offered host name and application protocols;
- `parse`, which says of any bytes whether they hold a ClientHello, are no TLS, are malformed, or
  may become one with more bytes.
-/

namespace Admission.Tls

/-! ## Reading bytes -/

/-- The first `count` bytes and the rest, if there are that many. -/
def takeBytes (count : Nat) (bytes : List UInt8) : Option (List UInt8 × List UInt8) :=
  if count ≤ bytes.length then some (bytes.take count, bytes.drop count) else none

/-- The number that bytes spell, most significant first. -/
def bigEndian (bytes : List UInt8) : Nat :=
  bytes.foldl (fun value byte => value * 256 + byte.toNat) 0

def takeNumber (count : Nat) (bytes : List UInt8) : Option (Nat × List UInt8) :=
  (takeBytes count bytes).map fun (digits, rest) => (bigEndian digits, rest)

/-- A block of bytes after its length, which takes `count` bytes. -/
def takeBlock (count : Nat) (bytes : List UInt8) : Option (List UInt8 × List UInt8) :=
  (takeNumber count bytes).bind fun (length, rest) => takeBytes length rest

theorem takeBytes_eq_some {count : Nat} {bytes front rest : List UInt8}
    (taken : takeBytes count bytes = some (front, rest)) :
    bytes = front ++ rest ∧ front.length = count := by
  unfold takeBytes at taken
  split at taken
  · rename_i enough
    simp only [Option.some.injEq, Prod.mk.injEq] at taken
    obtain ⟨rfl, rfl⟩ := taken
    simp [enough]
  · cases taken

theorem takeNumber_length {count value : Nat} {bytes rest : List UInt8}
    (taken : takeNumber count bytes = some (value, rest)) :
    bytes.length = count + rest.length := by
  simp only [takeNumber, Option.map_eq_some_iff, Prod.exists, Prod.mk.injEq] at taken
  obtain ⟨digits, remaining, split, _, rfl⟩ := taken
  obtain ⟨rfl, rfl⟩ := takeBytes_eq_some split
  simp

theorem takeBlock_length {count : Nat} {bytes block rest : List UInt8}
    (taken : takeBlock count bytes = some (block, rest)) :
    bytes.length = count + block.length + rest.length := by
  simp only [takeBlock, Option.bind_eq_some_iff, Prod.exists] at taken
  obtain ⟨length, middle, number, split⟩ := taken
  have := takeNumber_length number
  obtain ⟨rfl, rfl⟩ := takeBytes_eq_some split
  simp only [List.length_append] at this
  omega

/-! ## The message -/

structure ClientHello where
  /-- The host name in lower case, without dots at its end. -/
  serverName : Option String
  /-- The application protocols, best first. -/
  applicationProtocols : List String
  deriving DecidableEq, Repr

namespace ClientHello

/-- A ClientHello that offers nothing. -/
def plain : ClientHello := ⟨none, []⟩

/-- The verdict on the start of a stream. -/
inductive Verdict where
  /-- More bytes are needed. -/
  | incomplete
  /-- The stream does not start with a TLS handshake. -/
  | notTls
  /-- A TLS handshake without a readable ClientHello. -/
  | malformed
  | found (hello : ClientHello)
  deriving DecidableEq, Repr

/-- A host name in the form in which it is matched: lower case, no dots at its end. -/
def canonicalHost (name : List Char) : String :=
  String.ofList ((Text.lowercase name).reverse.dropWhile (· = '.')).reverse

/-- The first host name in a list of names: each has a type byte, 0 for a host name, and a block.
Nothing if an entry before it, or the name itself, cannot be read. -/
def firstHost (names : List UInt8) : Option (Option String) :=
  match names with
  | [] => some none
  | kind :: rest =>
      match _taken : takeBlock 2 rest with
      | none => none
      | some (name, remaining) =>
          if kind = 0 then (Text.decodeUtf8? name).map fun host => some (canonicalHost host)
          else firstHost remaining
termination_by names.length
decreasing_by
  have consumed := takeBlock_length _taken
  simp only [List.length_cons]
  omega

/-- The host name of a server name extension. Bytes after the list are ignored. -/
def serverNameOf (payload : List UInt8) : Option (Option String) :=
  (takeBlock 2 payload).bind fun (names, _) => firstHost names

/-- The names in a list of protocol names, each a block. -/
def protocolNames (names : List UInt8) : Option (List String) :=
  match names with
  | [] => some []
  | length :: rest =>
      match _taken : takeBytes length.toNat rest with
      | none => none
      | some (name, remaining) =>
          (protocolNames remaining).map (String.ofList (Text.decodeUtf8Lossy name) :: ·)
termination_by names.length
decreasing_by
  obtain ⟨rfl, _⟩ := takeBytes_eq_some _taken
  simp only [List.length_cons, List.length_append]
  omega

/-- The names of an application protocol extension. Bytes after the list are ignored. -/
def protocolsOf (payload : List UInt8) : Option (List String) :=
  (takeBlock 2 payload).bind fun (names, _) => protocolNames names

def serverNameType : Nat := 0

def protocolsType : Nat := 16

/-- Reads one extension into a ClientHello. Of a repeated extension the last counts. -/
def withExtension (hello : ClientHello) (kind : Nat) (payload : List UInt8) : Option ClientHello :=
  if kind = serverNameType then
    (serverNameOf payload).map fun serverName => { hello with serverName }
  else if kind = protocolsType then
    (protocolsOf payload).map fun applicationProtocols => { hello with applicationProtocols }
  else some hello

/-- Reads extensions, each a type of two bytes and a block. -/
def withExtensions (hello : ClientHello) (extensions : List UInt8) : Option ClientHello :=
  match extensions with
  | [] => some hello
  | byte :: rest =>
      match _header : takeNumber 2 (byte :: rest) with
      | none => none
      | some (kind, afterKind) =>
          match _taken : takeBlock 2 afterKind with
          | none => none
          | some (payload, remaining) =>
              (hello.withExtension kind payload).bind (·.withExtensions remaining)
termination_by extensions.length
decreasing_by
  have kindConsumed := takeNumber_length _header
  have blockConsumed := takeBlock_length _taken
  omega

/-- The bytes of version and random. -/
def fixedLength : Nat := 34

/-- Reads the body of the message. Bytes after the extensions are ignored. -/
def ofBody (body : List UInt8) : Option ClientHello := do
  let (_, rest) ← takeBytes fixedLength body
  let (_, rest) ← takeBlock 1 rest
  let (_, rest) ← takeBlock 2 rest
  let (_, rest) ← takeBlock 1 rest
  if rest.isEmpty then return plain
  let (extensions, _) ← takeBlock 2 rest
  plain.withExtensions extensions

/-- The verdict on joined fragments; nothing while the message is incomplete. -/
def ofHandshake (joined : List UInt8) : Option Verdict :=
  match joined with
  | [] => none
  | kind :: rest =>
      if kind ≠ 1 then some .notTls
      else match takeBlock 3 rest with
        | none => none
        | some (body, _) => some <| match ofBody body with
            | some hello => .found hello
            | none => .malformed

/-! ## Records -/

/-- The record at the front of a stream. -/
inductive RecordStep where
  | incomplete
  | foreign
  /-- A handshake record without a fragment. -/
  | empty
  | fragment (bytes rest : List UInt8)
  deriving DecidableEq, Repr

/-- Splits off a record. Its first and second byte are checked as soon as they, and for the second
the whole header, are there. -/
def nextRecord (stream : List UInt8) : RecordStep :=
  match stream with
  | [] => .incomplete
  | kind :: afterKind =>
      if kind ≠ 0x16 then .foreign
      else match afterKind with
        | major :: _minor :: high :: low :: payload =>
            if major ≠ 3 then .foreign
            else match takeBytes (bigEndian [high, low]) payload with
              | none => .incomplete
              | some ([], _) => .empty
              | some (byte :: bytes, rest) => .fragment (byte :: bytes) rest
        | _ => .incomplete

/-- A record with a fragment takes at least six bytes. -/
theorem nextRecord_fragment_length {stream bytes rest : List UInt8}
    (split : nextRecord stream = .fragment bytes rest) :
    stream.length = 5 + bytes.length + rest.length ∧ 0 < bytes.length := by
  unfold nextRecord at split
  repeat' split at split
  all_goals try cases split
  rename_i taken
  obtain ⟨rfl, _⟩ := takeBytes_eq_some taken
  simp only [List.length_cons, List.length_append]
  omega

/-- Joins fragments until there is a verdict. A stream whose first record is no handshake record is
no TLS; a later one makes it malformed. -/
def joinRecords (joined : List UInt8) (stream : List UInt8) : Verdict :=
  match _split : nextRecord stream with
  | .incomplete => .incomplete
  | .foreign => if joined.isEmpty then .notTls else .malformed
  | .empty => .malformed
  | .fragment bytes rest =>
      match ofHandshake (joined ++ bytes) with
      | some verdict => verdict
      | none => joinRecords (joined ++ bytes) rest
termination_by stream.length
decreasing_by
  have consumed := nextRecord_fragment_length _split
  omega

def parse (stream : List UInt8) : Verdict :=
  joinRecords [] stream

end ClientHello

end Admission.Tls
