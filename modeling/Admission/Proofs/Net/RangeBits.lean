import Admission.Net.Cidr
import Mathlib.Data.List.Basic

/-!
Contract: a range is its family and its leading bits.

Owns:
- the bits of a truncated address;
- `eq_of_networkBits`, by which two ranges with the same family and leading bits are one;
- `contains_iff`, by which a range holds the addresses of its family that begin with its bits.

Does not own: the written forms of ranges.
-/

namespace Admission.Net

namespace IpAddress

/-- An address of a family is determined by its bits. -/
theorem eq_of_bits {left right : IpAddress} (family : left.isV4 = right.isV4)
    (same : left.bits = right.bits) : left = right := by
  cases left with
  | v4 leftValue =>
      cases right with
      | v6 _ => exact Bool.noConfusion family
      | v4 rightValue =>
          congr 1
          apply BitVec.eq_of_getMsbD_eq
          intro index below
          have atIndex := congrArg (fun bits => bits[index]?) same
          simpa [bits, below] using atIndex
  | v6 leftValue =>
      cases right with
      | v4 _ => exact Bool.noConfusion family
      | v6 rightValue =>
          congr 1
          apply BitVec.eq_of_getMsbD_eq
          intro index below
          have atIndex := congrArg (fun bits => bits[index]?) same
          simpa [bits, below] using atIndex

private theorem getMsbD_shifted {width : Nat} (value : BitVec width) {length index : Nat}
    (below : index < width) :
    ((value >>> (width - length)) <<< (width - length)).getMsbD index =
      (decide (index < length) && value.getMsbD index) := by
  simp only [BitVec.getMsbD_shiftLeft, BitVec.getMsbD_ushiftRight]
  by_cases kept : index < length
  · have inside : index + (width - length) < width := by omega
    simp [kept, inside]
  · have outside : ¬ index + (width - length) < width := by omega
    simp [kept, outside]

private theorem map_kept_bits (width length : Nat) (bit : Nat → Bool) :
    (List.range width).map (fun index => decide (index < length) && bit index) =
      ((List.range width).map bit).take length ++ List.replicate (width - length) false := by
  apply List.ext_getElem
  · simp
    omega
  · intro index below _
    simp only [List.length_map, List.length_range] at below
    by_cases kept : index < length
    · rw [List.getElem_append_left (by simp; omega)]
      simp [kept]
    · rw [List.getElem_append_right (by simp; omega)]
      simp [kept]

/-- The bits of a truncated address: its leading bits, then zeros. -/
theorem bits_truncate (length : Nat) (address : IpAddress) :
    (address.truncate length).bits =
      address.bits.take length ++ List.replicate (address.width - length) false := by
  cases address with
  | v4 value =>
      refine Eq.trans ?_ (map_kept_bits 32 length value.getMsbD)
      apply List.map_congr_left
      intro index member
      exact getMsbD_shifted value (List.mem_range.mp member)
  | v6 value =>
      refine Eq.trans ?_ (map_kept_bits 128 length value.getMsbD)
      apply List.map_congr_left
      intro index member
      exact getMsbD_shifted value (List.mem_range.mp member)

private theorem width_eq_of_isV4 {left right : IpAddress} (family : left.isV4 = right.isV4) :
    left.width = right.width := by
  cases left <;> cases right <;> first | rfl | exact Bool.noConfusion family

end IpAddress

namespace CidrRange

theorem length_networkBits (range : CidrRange) : range.networkBits.length = range.length := by
  have fits := range.length_le
  simp only [networkBits, List.length_take, IpAddress.length_bits]
  omega

private theorem bits_address (range : CidrRange) :
    range.address.bits =
      range.networkBits ++ List.replicate (range.address.width - range.length) false := by
  have clear := IpAddress.bits_truncate range.length range.address
  rwa [range.hostBitsClear] at clear

/-- A range is determined by its family and its leading bits. -/
theorem eq_of_networkBits {left right : CidrRange} (family : left.isV4 = right.isV4)
    (same : left.networkBits = right.networkBits) : left = right := by
  have lengths : left.length = right.length := by
    rw [← length_networkBits, ← length_networkBits, same]
  have addresses : left.address = right.address := by
    apply IpAddress.eq_of_bits family
    rw [bits_address, bits_address, same, lengths, IpAddress.width_eq_of_isV4 family]
  cases left
  cases right
  cases lengths
  cases addresses
  rfl

/-- Two ranges are of one family and have the same number of leading bits, and the same ones. -/
structure SamePrefix (left right : CidrRange) : Prop where
  family : left.isV4 = right.isV4
  length : left.length = right.length
  bits : left.networkBits = right.networkBits

theorem samePrefix_iff {left right : CidrRange} : left.SamePrefix right ↔ left = right := by
  constructor
  · intro same
    exact eq_of_networkBits same.family same.bits
  · rintro rfl
    exact ⟨rfl, rfl, rfl⟩

theorem isV4_ofAddress (address : IpAddress) (length : Nat) (fits : length ≤ address.width) :
    (ofAddress address length fits).isV4 = address.isV4 :=
  IpAddress.isV4_truncate length address

theorem networkBits_ofAddress (address : IpAddress) (length : Nat)
    (fits : length ≤ address.width) :
    (ofAddress address length fits).networkBits = address.bits.take length := by
  simp only [networkBits, ofAddress, IpAddress.bits_truncate]
  rw [List.take_append_of_le_length (by simp; omega), List.take_take, Nat.min_self]

/-- A range holds the addresses of its family that begin with its bits. -/
theorem contains_iff {range : CidrRange} {address : IpAddress} :
    range.contains address = true ↔
      address.isV4 = range.isV4 ∧ range.networkBits <+: address.bits := by
  rw [contains, Bool.and_eq_true, beq_iff_eq, beq_iff_eq]
  apply and_congr_right
  intro family
  have widths : range.address.width = address.width :=
    IpAddress.width_eq_of_isV4 family.symm
  have fits : range.length ≤ address.width := by
    rw [← widths]
    exact range.length_le
  constructor
  · intro truncated
    refine ⟨address.bits.drop range.length, ?_⟩
    rw [networkBits, ← truncated, IpAddress.bits_truncate,
      List.take_append_of_le_length (by simp; omega), List.take_take, Nat.min_self,
      List.take_append_drop]
  · intro begins
    have leading : address.bits.take range.length = range.networkBits := by
      have taken := List.prefix_iff_eq_take.mp begins
      rw [length_networkBits] at taken
      exact taken.symm
    apply IpAddress.eq_of_bits
    · rw [IpAddress.isV4_truncate]
      exact family
    · rw [IpAddress.bits_truncate, bits_address, leading, widths]

/-- Of two ranges that hold an address, one of the same length is the same. -/
theorem eq_of_contains {left right : CidrRange} {address : IpAddress}
    (leftHolds : left.contains address = true) (rightHolds : right.contains address = true)
    (lengths : left.length = right.length) : left = right := by
  obtain ⟨leftFamily, leftBegins⟩ := contains_iff.mp leftHolds
  obtain ⟨rightFamily, rightBegins⟩ := contains_iff.mp rightHolds
  apply eq_of_networkBits (leftFamily.symm.trans rightFamily)
  rw [List.prefix_iff_eq_take.mp leftBegins, List.prefix_iff_eq_take.mp rightBegins,
    length_networkBits, length_networkBits, lengths]

end CidrRange

end Admission.Net
