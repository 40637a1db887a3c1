/-!
Contract: IP addresses of the two families, as bit vectors.

Owns:
- the bits of an address, most significant first, and their truncation to a leading part;
- the classification of loopback addresses.

Does not own: the written forms of addresses (`Admission.Net.IpText`).
-/

namespace Admission.Net

inductive IpAddress where
  | v4 (bits : BitVec 32)
  | v6 (bits : BitVec 128)
  deriving DecidableEq, Repr, Inhabited

namespace IpAddress

def width : IpAddress → Nat
  | v4 _ => 32
  | v6 _ => 128

/-- Whether the address is of the IPv4 family. -/
def isV4 : IpAddress → Bool
  | v4 _ => true
  | v6 _ => false

/-- The bits of an address, most significant first. -/
def bits : IpAddress → List Bool
  | v4 value => (List.range 32).map value.getMsbD
  | v6 value => (List.range 128).map value.getMsbD

/-- The address whose first `length` bits are kept and whose other bits are zero. -/
def truncate (length : Nat) : IpAddress → IpAddress
  | v4 value => v4 ((value >>> (32 - length)) <<< (32 - length))
  | v6 value => v6 ((value >>> (128 - length)) <<< (128 - length))

/-- The IPv4 address that an IPv6 address of the form `::ffff:a.b.c.d` stands for. -/
def mapped? (value : BitVec 128) : Option (BitVec 32) :=
  if value >>> 32 = 0xFFFF#128 then some (value.truncate 32) else none

/-- Whether an IPv4 address lies in 127.0.0.0/8. -/
def isLoopbackV4 (value : BitVec 32) : Bool :=
  value >>> 24 = 127#32

/-- Loopback addresses: 127.0.0.0/8, `::1`, and the IPv6 form of the former. -/
def isLoopback : IpAddress → Bool
  | v4 value => isLoopbackV4 value
  | v6 value => value = 1#128 || (mapped? value).any isLoopbackV4

@[simp]
theorem width_truncate (length : Nat) (address : IpAddress) :
    (address.truncate length).width = address.width := by
  cases address <;> rfl

@[simp]
theorem isV4_truncate (length : Nat) (address : IpAddress) :
    (address.truncate length).isV4 = address.isV4 := by
  cases address <;> rfl

@[simp]
theorem length_bits (address : IpAddress) : address.bits.length = address.width := by
  cases address <;> simp [bits, width]

/-- Truncating twice to the same length changes nothing more. -/
@[simp]
theorem truncate_truncate (length : Nat) (address : IpAddress) :
    (address.truncate length).truncate length = address.truncate length := by
  cases address <;>
    · simp only [truncate, v4.injEq, v6.injEq]
      apply BitVec.eq_of_getLsbD_eq
      intro index below
      simp only [BitVec.getLsbD_shiftLeft, BitVec.getLsbD_ushiftRight]
      grind

end IpAddress

end Admission.Net
