/-!
Contract: reading bytes as UTF-8, strictly or with replacement.

Owns:
- `nextScalar`, which splits off one well-formed character or one maximal ill-formed part;
- `decodeUtf8?`, which refuses any ill-formed part;
- `decodeUtf8Lossy`, which puts U+FFFD for each maximal ill-formed part.
-/

namespace Admission.Text

/-- What may follow a lead byte: the bounds of the second byte, and how many bytes come after it. -/
structure Continuation where
  low : UInt8
  high : UInt8
  tail : Nat

/-- What may follow a lead byte that begins a character of two to four bytes. The bounds exclude
overlong forms, surrogates and code points above U+10FFFF. -/
def continuationOf (lead : UInt8) : Option Continuation :=
  if 0xC2 ≤ lead && lead ≤ 0xDF then some ⟨0x80, 0xBF, 0⟩
  else if lead == 0xE0 then some ⟨0xA0, 0xBF, 1⟩
  else if lead == 0xED then some ⟨0x80, 0x9F, 1⟩
  else if 0xE1 ≤ lead && lead ≤ 0xEF then some ⟨0x80, 0xBF, 1⟩
  else if lead == 0xF0 then some ⟨0x90, 0xBF, 2⟩
  else if 0xF1 ≤ lead && lead ≤ 0xF3 then some ⟨0x80, 0xBF, 2⟩
  else if lead == 0xF4 then some ⟨0x80, 0x8F, 2⟩
  else none

/-- The payload bits of a lead byte whose character has this many bytes after the second. -/
def leadBits (lead : UInt8) (tail : Nat) : Nat :=
  lead.toNat % (32 >>> tail)

/-- Collects `tail` continuation bytes onto the bits so far. Gives the code point, or nothing when
a byte is missing or is no continuation; the rest starts at the offending byte. -/
def continueScalar (bits : Nat) : (tail : Nat) → List UInt8 → Option Nat × List UInt8
  | 0, rest => (some bits, rest)
  | _ + 1, [] => (none, [])
  | tail + 1, byte :: rest =>
      if 0x80 ≤ byte && byte ≤ 0xBF then
        continueScalar (bits * 64 + byte.toNat % 64) tail rest
      else
        (none, byte :: rest)

/-- Splits off what starts at `lead`: one character, or nothing for a maximal ill-formed part. -/
def nextScalar (lead : UInt8) (rest : List UInt8) : Option Char × List UInt8 :=
  if lead < 0x80 then
    (some (Char.ofNat lead.toNat), rest)
  else
    match continuationOf lead, rest with
    | none, _ => (none, rest)
    | some _, [] => (none, [])
    | some bounds, second :: after =>
        if bounds.low ≤ second && second ≤ bounds.high then
          let bits := leadBits lead bounds.tail * 64 + second.toNat % 64
          let read := continueScalar bits bounds.tail after
          (read.1.map Char.ofNat, read.2)
        else
          (none, rest)

theorem continueScalar_length_le (bits tail : Nat) (bytes : List UInt8) :
    (continueScalar bits tail bytes).2.length ≤ bytes.length := by
  induction tail generalizing bits bytes with
  | zero => simp [continueScalar]
  | succ tail inductionHypothesis =>
      cases bytes with
      | nil => simp [continueScalar]
      | cons byte rest =>
          unfold continueScalar
          split
          · have shorter := inductionHypothesis (bits * 64 + byte.toNat % 64) rest
            simp only [List.length_cons]
            omega
          · simp

/-- Splitting off one part never lengthens the rest. -/
theorem nextScalar_length_le (lead : UInt8) (rest : List UInt8) :
    (nextScalar lead rest).2.length ≤ rest.length := by
  unfold nextScalar
  split
  · simp
  · split
    · simp
    · simp
    · split
      · rename_i bounds second after _ _
        have shorter := continueScalar_length_le
          (leadBits lead bounds.tail * 64 + second.toNat % 64) bounds.tail after
        simp only [List.length_cons]
        omega
      · simp

/-- The text of well-formed UTF-8, nothing for any other bytes. -/
def decodeUtf8? : List UInt8 → Option (List Char)
  | [] => some []
  | lead :: rest =>
      match _split : nextScalar lead rest with
      | (none, _) => none
      | (some c, remaining) => (decodeUtf8? remaining).map (c :: ·)
termination_by bytes => bytes.length
decreasing_by
  have shorter := nextScalar_length_le lead rest
  rw [_split] at shorter
  simp only [List.length_cons] at *
  omega

/-- The text of any bytes, with U+FFFD for each maximal ill-formed part. -/
def decodeUtf8Lossy : List UInt8 → List Char
  | [] => []
  | lead :: rest =>
      (nextScalar lead rest).1.getD (Char.ofNat 0xFFFD) ::
        decodeUtf8Lossy (nextScalar lead rest).2
termination_by bytes => bytes.length
decreasing_by
  have shorter := nextScalar_length_le lead rest
  simp only [List.length_cons]
  omega

/-- The bytes of a text in UTF-8. -/
def encodeUtf8 (text : List Char) : List UInt8 :=
  text.flatMap String.utf8EncodeChar

end Admission.Text
