import Admission.Net.Ip

/-!
Contract: the written forms of IP addresses.

Owns:
- one grammar for both families with two settings (`AddressGrammar`), read from the front of a
  text;
- the canonical written form: dotted decimal, and for IPv6 lower-case groups with the longest
  run of zero groups elided.

Does not own: ports, brackets and range lengths.
-/

namespace Admission.Net

/-- The settings in which the notations for addresses differ. -/
structure AddressGrammar where
  /-- A decimal part of more than one digit may start with a zero. -/
  paddedOctets : Bool
  /-- The mark `::` may stand between eight written groups, for no group at all. -/
  emptyElision : Bool
  deriving DecidableEq, Repr

namespace AddressGrammar

/-- The grammar of an address by itself: no zero padding, and `::` stands for at least one group. -/
def strict : AddressGrammar := ⟨false, false⟩

/-- The grammar of the address in a range: zero padding is allowed, and so is an idle `::`. -/
def ofRange : AddressGrammar := ⟨true, true⟩

end AddressGrammar

namespace IpText

/-- The value of a decimal digit. -/
def decimalDigit? (c : Char) : Option Nat :=
  if '0' ≤ c && c ≤ '9' then some (c.toNat - 0x30) else none

/-- The value of a hexadecimal digit of either case. -/
def hexadecimalDigit? (c : Char) : Option Nat :=
  if '0' ≤ c && c ≤ '9' then some (c.toNat - 0x30)
  else if 'a' ≤ c && c ≤ 'f' then some (c.toNat - 0x57)
  else if 'A' ≤ c && c ≤ 'F' then some (c.toNat - 0x37)
  else none

/-- All digits at the front of a text, and the rest. -/
def spanDigits (digit? : Char → Option Nat) : List Char → List Nat × List Char
  | [] => ([], [])
  | c :: rest =>
      match digit? c with
      | some value =>
          let following := spanDigits digit? rest
          (value :: following.1, following.2)
      | none => ([], c :: rest)

/-- The number that digits spell in a base. -/
def ofDigits (base : Nat) (digits : List Nat) : Nat :=
  digits.foldl (fun value digit => value * base + digit) 0

/-- The text after a given character, if it starts with it. -/
def expect (wanted : Char) : List Char → Option (List Char)
  | [] => none
  | c :: rest => if c = wanted then some rest else none

/-- One decimal part of a dotted address: one to three digits, below 256. -/
def octet (grammar : AddressGrammar) (text : List Char) : Option (Nat × List Char) :=
  let (digits, rest) := spanDigits decimalDigit? text
  let value := ofDigits 10 digits
  if digits.isEmpty || 3 < digits.length || 255 < value then none
  else if !grammar.paddedOctets && digits.head? == some 0 && 1 < digits.length then none
  else some (value, rest)

/-- A dotted address at the front of a text. -/
def dotted (grammar : AddressGrammar) (text : List Char) : Option (BitVec 32 × List Char) := do
  let (a, text) ← octet grammar text
  let (b, text) ← expect '.' text >>= octet grammar
  let (c, text) ← expect '.' text >>= octet grammar
  let (d, text) ← expect '.' text >>= octet grammar
  return (BitVec.ofNat 32 (((a * 256 + b) * 256 + c) * 256 + d), text)

/-- One group of an IPv6 address: one to four hexadecimal digits. -/
def group (text : List Char) : Option (Nat × List Char) :=
  let (digits, rest) := spanDigits hexadecimalDigit? text
  if digits.isEmpty || 4 < digits.length then none else some (ofDigits 16 digits, rest)

/-- Groups read from the front of a text. -/
structure Groups where
  values : List Nat
  /-- The last two groups were written as a dotted address, so no group may follow. -/
  dottedEnd : Bool
  rest : List Char

/-- Reads at most `limit` groups separated by colons. A dotted address stands for two groups and
ends the reading. -/
def readGroups (grammar : AddressGrammar) (first : Bool) (text : List Char) : (limit : Nat) → Groups
  | 0 => ⟨[], false, text⟩
  | limit + 1 =>
      let start := if first then some text else expect ':' text
      match if limit = 0 then none else start >>= dotted grammar with
      | some (value, rest) =>
          ⟨[(value >>> 16).toNat, (value.truncate 16 : BitVec 16).toNat], true, rest⟩
      | none =>
          match start >>= group with
          | some (value, rest) =>
              let following := readGroups grammar false rest limit
              ⟨value :: following.values, following.dottedEnd, following.rest⟩
          | none => ⟨[], false, text⟩

/-- The address of eight group values. -/
def ofGroups (groups : List Nat) : BitVec 128 :=
  BitVec.ofNat 128 (ofDigits 65536 groups)

/-- An IPv6 address at the front of a text. -/
def colons (grammar : AddressGrammar) (text : List Char) : Option (BitVec 128 × List Char) :=
  let head := readGroups grammar true text 8
  if head.values.length = 8 then
    some (ofGroups head.values, head.rest)
  else if head.dottedEnd then
    none
  else do
    let rest ← expect ':' head.rest >>= expect ':'
    let room := 8 - head.values.length
    let tail := readGroups grammar true rest (if grammar.emptyElision then room else room - 1)
    let gap := List.replicate (room - tail.values.length) 0
    return (ofGroups (head.values ++ gap ++ tail.values), tail.rest)

/-- An address of either family at the front of a text. -/
def address (grammar : AddressGrammar) (text : List Char) : Option (IpAddress × List Char) :=
  match dotted grammar text with
  | some (value, rest) => some (.v4 value, rest)
  | none => (colons grammar text).map fun (value, rest) => (.v6 value, rest)

/-- The value of a parser that must use up the whole text. -/
def whole (parse : List Char → Option (α × List Char)) (text : List Char) : Option α :=
  match parse text with
  | some (value, []) => some value
  | _ => none

/-! ## Written forms -/

/-- A number in decimal digits. -/
def decimal (n : Nat) : List Char :=
  Nat.toDigits 10 n

/-- A dotted address. -/
def renderV4 (value : BitVec 32) : List Char :=
  decimal (value >>> 24).toNat ++ '.' :: decimal ((value >>> 16).toNat % 256) ++
    '.' :: decimal ((value >>> 8).toNat % 256) ++ '.' :: decimal (value.toNat % 256)

/-- The eight groups of an IPv6 address. -/
def groupsOf (value : BitVec 128) : List Nat :=
  (List.range 8).map fun index => (value >>> (112 - 16 * index)).toNat % 65536

/-- Groups in lower-case hexadecimal, separated by colons. -/
def renderGroups (groups : List Nat) : List Char :=
  List.intercalate [':'] (groups.map (Nat.toDigits 16 ·))

/-- The number of zeros at the front of a list. -/
def leadingZeros (groups : List Nat) : Nat :=
  (groups.takeWhile (· = 0)).length

/-- Start and length of the first of the longest runs of zeros, at positions counted from
`start`; length zero when there is none. -/
def longestZeroRun (start : Nat) : List Nat → Nat × Nat
  | [] => (start, 0)
  | groups@(_ :: rest) =>
      let here := leadingZeros groups
      let later := longestZeroRun (start + 1) rest
      if later.2 ≤ here then (start, here) else later

/-- An IPv6 address: a mapped IPv4 address keeps its dotted form, and the first longest run of
at least two zero groups is elided. -/
def renderV6 (value : BitVec 128) : List Char :=
  match IpAddress.mapped? value with
  | some embedded => "::ffff:".toList ++ renderV4 embedded
  | none =>
      let groups := groupsOf value
      let (start, length) := longestZeroRun 0 groups
      if 1 < length then
        renderGroups (groups.take start) ++ "::".toList ++
          renderGroups (groups.drop (start + length))
      else
        renderGroups groups

end IpText

namespace IpAddress

/-- The canonical written form. -/
def text : IpAddress → List Char
  | v4 value => IpText.renderV4 value
  | v6 value => IpText.renderV6 value

/-- The address that a text spells. -/
def parse? (text : List Char) : Option IpAddress :=
  IpText.whole (IpText.address .strict) text

end IpAddress

end Admission.Net
