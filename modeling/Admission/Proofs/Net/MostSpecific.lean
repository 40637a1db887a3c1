import Admission.Proofs.Net.RangeTable

/-!
Contract: a look-up answers with the value of the most specific range, and nothing but the ranges of
the address's own family has a part in the answer.

Owns:
- `Claims` and `MostSpecific`, said of the entries of a table alone;
- `get?_eq_some_iff`, by which the entries and the table decide each other's answers;
- `most_specific_answers`.
-/

namespace Admission.Net.AddressMatcher

variable {α : Type}

/-- An entry gives the value to the range. -/
def Claims (entries : List (α × List CidrRange)) (value : α) (range : CidrRange) : Prop :=
  ∃ entry ∈ entries, entry.1 = value ∧ range ∈ entry.2

/-- The range is of the family of the address and holds it. -/
def Serves (range : CidrRange) (address : IpAddress) : Prop :=
  range.isV4 = address.isV4 ∧ range.contains address = true

/-- The value has a range that serves the address, and no range that serves it is longer. -/
def MostSpecific (entries : List (α × List CidrRange)) (address : IpAddress) (value : α) : Prop :=
  ∃ range, Claims entries value range ∧ Serves range address ∧
    ∀ other otherRange, Claims entries other otherRange → Serves otherRange address →
      otherRange.length ≤ range.length

instance (range : CidrRange) (address : IpAddress) : Decidable (Serves range address) :=
  inferInstanceAs (Decidable (_ ∧ _))

private theorem mostSpecific_iff {entries : List (α × List CidrRange)} {address : IpAddress}
    {value : α} :
    MostSpecific entries address value ↔
      ∃ entry ∈ entries, entry.1 = value ∧ ∃ range ∈ entry.2, Serves range address ∧
        ∀ other ∈ entries, ∀ otherRange ∈ other.2, Serves otherRange address →
          otherRange.length ≤ range.length := by
  constructor
  · rintro ⟨range, ⟨entry, member, owns, owned⟩, serves, longest⟩
    refine ⟨entry, member, owns, range, owned, serves, ?_⟩
    intro other otherMember otherRange otherOwned
    exact longest other.1 otherRange ⟨other, otherMember, rfl, otherOwned⟩
  · rintro ⟨entry, member, owns, range, owned, serves, longest⟩
    refine ⟨range, ⟨entry, member, owns, owned⟩, serves, ?_⟩
    rintro - otherRange ⟨other, otherMember, -, otherOwned⟩
    exact longest other otherMember otherRange otherOwned

instance [DecidableEq α] (entries : List (α × List CidrRange)) (address : IpAddress) (value : α) :
    Decidable (MostSpecific entries address value) :=
  decidable_of_iff _ mostSpecific_iff.symm

private theorem serves_iff {range : CidrRange} {address : IpAddress} :
    Serves range address ↔ range.contains address = true :=
  ⟨And.right, fun contained => ⟨(CidrRange.contains_iff.mp contained).1.symm, contained⟩⟩

/-- A range of a table has one value. -/
theorem Holds.value_unique {matcher : AddressMatcher α} {entries : List (α × List CidrRange)}
    (holds : matcher.Holds entries) {left right : α} {range : CidrRange}
    (leftClaims : Claims entries left range) (rightClaims : Claims entries right range) :
    left = right := by
  obtain ⟨leftEntry, leftMember, rfl, leftRange⟩ := leftClaims
  obtain ⟨rightEntry, rightMember, rfl, rightRange⟩ := rightClaims
  obtain ⟨leftPosition, atLeft⟩ := List.mem_iff_getElem?.mp leftMember
  obtain ⟨rightPosition, atRight⟩ := List.mem_iff_getElem?.mp rightMember
  have leftOwns := (holds.ownerOf_iff range leftPosition).mpr ⟨leftEntry, atLeft, leftRange⟩
  have rightOwns := (holds.ownerOf_iff range rightPosition).mpr ⟨rightEntry, atRight, rightRange⟩
  have position : leftPosition = rightPosition := Option.some.inj (leftOwns.symm.trans rightOwns)
  rw [position, atRight] at atLeft
  rw [Option.some.inj atLeft]

private theorem Holds.mostSpecific_of_get? {matcher : AddressMatcher α}
    {entries : List (α × List CidrRange)} (holds : matcher.Holds entries) {address : IpAddress}
    {value : α} (found : matcher.get? address = some value) : MostSpecific entries address value := by
  obtain ⟨entry, member, owns, range, owned, contained, longest⟩ := holds.exists_of_get?_eq_some found
  refine mostSpecific_iff.mpr ⟨entry, member, owns, range, owned, serves_iff.mpr contained, ?_⟩
  intro other otherMember otherRange otherOwned serves
  exact longest other otherMember otherRange otherOwned serves.2

/-- Two ranges of one length that hold an address are the same, so that only one value is most
specific. -/
theorem Holds.mostSpecific_unique {matcher : AddressMatcher α}
    {entries : List (α × List CidrRange)} (holds : matcher.Holds entries) {address : IpAddress}
    {left right : α} (leftBest : MostSpecific entries address left)
    (rightBest : MostSpecific entries address right) : left = right := by
  obtain ⟨leftRange, leftClaims, leftServes, leftLongest⟩ := leftBest
  obtain ⟨rightRange, rightClaims, rightServes, rightLongest⟩ := rightBest
  have length : leftRange.length = rightRange.length :=
    Nat.le_antisymm (rightLongest _ _ leftClaims leftServes)
      (leftLongest _ _ rightClaims rightServes)
  have same : leftRange = rightRange :=
    CidrRange.eq_of_contains leftServes.2 rightServes.2 length
  exact holds.value_unique leftClaims (same ▸ rightClaims)

theorem Holds.get?_eq_some_iff {matcher : AddressMatcher α} {entries : List (α × List CidrRange)}
    (holds : matcher.Holds entries) {address : IpAddress} {value : α} :
    matcher.get? address = some value ↔ MostSpecific entries address value := by
  constructor
  · exact holds.mostSpecific_of_get?
  · intro best
    cases answer : matcher.get? address with
    | none =>
        obtain ⟨range, ⟨entry, member, -, owned⟩, serves, -⟩ := best
        have outside := holds.get?_eq_none_iff.mp answer entry member range owned
        rw [serves.2] at outside
        cases outside
    | some other =>
        exact congrArg some (holds.mostSpecific_unique (holds.mostSpecific_of_get? answer) best)

theorem holds_of_ofEntries {matcher : AddressMatcher α} {entries : List (α × List CidrRange)}
    (made : ofEntries entries = .ok matcher) : matcher.Holds entries := by
  rcases ofEntries_cases entries with ⟨result, same, -, holds⟩ | ⟨text, refused, -⟩
  · rw [made] at same
    cases same
    exact holds
  · rw [made] at refused
    cases refused

/-- Only the ranges of the address's family have a part in what is most specific. -/
theorem MostSpecific.congr {entries others : List (α × List CidrRange)} {address : IpAddress}
    {value : α} (best : MostSpecific entries address value)
    (agree : ∀ value range, range.isV4 = address.isV4 →
      (Claims others value range ↔ Claims entries value range)) :
    MostSpecific others address value := by
  obtain ⟨range, claims, serves, longest⟩ := best
  refine ⟨range, (agree value range serves.1).mpr claims, serves, ?_⟩
  intro other otherRange otherClaims otherServes
  exact longest other otherRange ((agree other otherRange otherServes.1).mp otherClaims) otherServes

/-- A table answers with the value of the longest range that is of the address's family and holds it,
and with nothing exactly if there is no such range. Ranges of the other family do not matter: any
other table that gives the ranges of this family to the same values has the same answer. -/
theorem most_specific_answers {entries : List (α × List CidrRange)} {matcher : AddressMatcher α}
    (made : ofEntries entries = .ok matcher) (address : IpAddress) :
    (∀ value, matcher.get? address = some value ↔ MostSpecific entries address value) ∧
    (matcher.get? address = none ↔
      ∀ value range, Claims entries value range → ¬Serves range address) ∧
    (∀ (others : List (α × List CidrRange)) (other : AddressMatcher α),
      ofEntries others = .ok other →
      (∀ value range, range.isV4 = address.isV4 →
        (Claims others value range ↔ Claims entries value range)) →
      other.get? address = matcher.get? address) := by
  have holds := holds_of_ofEntries made
  refine ⟨fun value => holds.get?_eq_some_iff, ?_, ?_⟩
  · rw [holds.get?_eq_none_iff]
    constructor
    · rintro outside value range ⟨entry, member, -, owned⟩ serves
      exact Bool.noConfusion ((outside entry member range owned).symm.trans serves.2)
    · intro unserved entry member range owned
      rw [← Bool.not_eq_true]
      intro contained
      exact unserved entry.1 range ⟨entry, member, rfl, owned⟩ (serves_iff.mpr contained)
  · intro others other otherMade agree
    apply Option.ext
    intro value
    rw [holds.get?_eq_some_iff, (holds_of_ofEntries otherMade).get?_eq_some_iff]
    constructor
    · intro best
      exact best.congr fun value range family => (agree value range family).symm
    · intro best
      exact best.congr agree

/-- A range inside of another, and a value with ranges of both families. -/
def nestedEntries : List (String × List CidrRange) := [
  ("wide", [.ofAddress (.v4 0x0A000000) 8 (by decide), .ofAddress (.v6 0) 0 (by decide)]),
  ("near", [.ofAddress (.v4 0x0A010000) 16 (by decide), .ofAddress (.v4 0x0A020000) 16 (by decide)])]

theorem most_specific_answers_nestedEntries :
    ∃ matcher, ofEntries nestedEntries = .ok matcher ∧
      matcher.get? (.v4 0x0A010203) = some "near" ∧
      matcher.get? (.v4 0x0A030203) = some "wide" ∧
      matcher.get? (.v4 0x0B000000) = none := by
  have apart : nestedEntries.Pairwise Apart := by
    unfold Apart
    decide
  rcases ofEntries_cases nestedEntries with ⟨matcher, made, -, -⟩ | ⟨text, -, shared⟩
  · have answers := most_specific_answers made
    have outside : ∀ entry ∈ nestedEntries, ∀ range ∈ entry.2,
        ¬Serves range (.v4 0x0B000000) := by decide
    refine ⟨matcher, made, ((answers _).1 _).mpr (by decide), ((answers _).1 _).mpr (by decide),
      (answers _).2.1.mpr ?_⟩
    rintro - range ⟨entry, member, -, owned⟩
    exact outside entry member range owned
  · exact absurd apart shared

end Admission.Net.AddressMatcher
