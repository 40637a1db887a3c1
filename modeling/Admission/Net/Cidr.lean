import Admission.Net.IpText
import Admission.Text.Blank

/-!
Contract: ranges of IP addresses given by their leading bits.

Owns:
- `CidrRange`, whose host bits are zero by construction, so that two ranges are equal exactly
  when they hold the same addresses;
- the reading of `address/length` and of a bare address, which is a range of one;
- membership, and the two ranges that hold a whole family.
-/

namespace Admission.Net

/-- What is wrong with a text that should be a range, or with a list of ranges. -/
inductive RangeError where
  /-- Nothing but blanks. -/
  | empty (value : String)
  /-- Not the text of a range. -/
  | unreadable (value : String)
  /-- More leading bits than the address has. -/
  | tooLong (address : IpAddress) (length : Nat)
  /-- Two different entries claim the range with this text. -/
  | claimedTwice (range : String)
  deriving DecidableEq, Repr

/-- A range of addresses: those that share the first `length` bits of `address`. -/
structure CidrRange where
  address : IpAddress
  length : Nat
  length_le : length ≤ address.width
  hostBitsClear : address.truncate length = address
  deriving DecidableEq

namespace CidrRange

/-- The range of the addresses that share the first `length` bits of an address. -/
def ofAddress (address : IpAddress) (length : Nat) (fits : length ≤ address.width) : CidrRange where
  address := address.truncate length
  length := length
  length_le := by simpa using fits
  hostBitsClear := by simp

def allV4 : CidrRange :=
  ofAddress (.v4 0#32) 0 (by decide)

def allV6 : CidrRange :=
  ofAddress (.v6 0#128) 0 (by decide)

/-- Whether the range is of the IPv4 family. -/
def isV4 (range : CidrRange) : Bool :=
  range.address.isV4

def networkBits (range : CidrRange) : List Bool :=
  range.address.bits.take range.length

def contains (range : CidrRange) (address : IpAddress) : Bool :=
  address.isV4 == range.isV4 && address.truncate range.length == range.address

def new (address : IpAddress) (length : Nat) : Except RangeError CidrRange :=
  if fits : length ≤ address.width then
    .ok (ofAddress address length fits)
  else
    .error (.tooLong address length)

/-- The number of leading bits after the slash. It has no more digits than the number `width` of
all bits, zeros in front included. -/
def lengthText (width : Nat) (text : List Char) : Option (Nat × List Char) :=
  let (digits, rest) := IpText.spanDigits IpText.decimalDigit? text
  if digits.isEmpty || (IpText.decimal width).length < digits.length then none
  else some (IpText.ofDigits 10 digits, rest)

/-- An address of one family, a slash and a number of leading bits that the address has. -/
def slashed
    (family : List Char → Option (IpAddress × List Char))
    (text : List Char) : Option (CidrRange × List Char) := do
  let (address, text) ← family text
  let text ← IpText.expect '/' text
  let (length, text) ← lengthText address.width text
  if fits : length ≤ address.width then
    return (ofAddress address length fits, text)
  else
    none

/-- A range with a slash, of either family, at the front of a text. -/
def withSlash (text : List Char) : Option (CidrRange × List Char) :=
  let v4 := slashed fun text =>
    (IpText.dotted .ofRange text).map fun (value, rest) => (.v4 value, rest)
  let v6 := slashed fun text =>
    (IpText.colons .ofRange text).map fun (value, rest) => (.v6 value, rest)
  v4 text <|> v6 text

def ofHost (address : IpAddress) : CidrRange :=
  ofAddress address address.width (Nat.le_refl _)

/-- Reads a range. Blanks at the ends do not count; without a slash the text is one address. -/
def parse (value : String) : Except RangeError CidrRange :=
  let text := Text.trim value.toList
  let range :=
    if '/' ∈ text then IpText.whole withSlash text
    else (IpAddress.parse? text).map ofHost
  if text.isEmpty then .error (.empty value)
  else match range with
    | some range => .ok range
    | none => .error (.unreadable value)

def text (range : CidrRange) : String :=
  String.ofList (range.address.text ++ '/' :: IpText.decimal range.length)

/-- Whether the range holds a whole family. -/
def isCatchAll (range : CidrRange) : Bool :=
  range == allV4 || range == allV6

end CidrRange

namespace RangeError

def message : RangeError → String
  | empty value => s!"invalid CIDR range '{value}': empty range"
  | unreadable value => s!"invalid CIDR range '{value}': invalid IP address syntax"
  | tooLong address length =>
      let range := String.ofList (address.text ++ '/' :: IpText.decimal length)
      s!"invalid CIDR prefix: {range}"
  | claimedTwice range => s!"prefix {range} is mapped to more than one entry"

end RangeError

end Admission.Net
