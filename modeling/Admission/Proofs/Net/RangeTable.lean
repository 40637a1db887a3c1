import Admission.Net.AddressMatcher
import Admission.Proofs.Net.RangeBits
import Admission.Proofs.Net.TrieTable

/-!
Contract: a table from ranges to values means its list of entries.

Owns:
- `Holds`, which ties the tries and the values of a table to the entries it was made from;
- `ofEntries_cases`: a table is made exactly from entries that share no range, and otherwise the
  error names a range;
- `exists_of_get?_eq_some` and `get?_eq_none_iff`: a look-up gives the value of the longest range
  that holds the address, and nothing exactly if no range does.
-/

namespace Admission.Net.AddressMatcher

variable {α : Type}

/-- The trie of a family. -/
def trieOf (matcher : AddressMatcher α) (v4 : Bool) : PrefixTrie :=
  if v4 then matcher.v4 else matcher.v6

/-- The position of the value that a range belongs to. -/
def ownerOf (matcher : AddressMatcher α) (range : CidrRange) : Option Nat :=
  (matcher.trieOf range.isV4).ownerOf range.networkBits

/-- Both tries are trees. -/
structure Trees (matcher : AddressMatcher α) : Prop where
  v4 : matcher.v4.IsTree
  v6 : matcher.v6.IsTree

theorem Trees.trieOf {matcher : AddressMatcher α} (trees : matcher.Trees) (v4 : Bool) :
    (matcher.trieOf v4).IsTree := by
  cases v4
  · exact trees.v6
  · exact trees.v4

/-- Two entries share no range. -/
def Apart (left right : α × List CidrRange) : Prop :=
  ∀ range ∈ left.2, range ∉ right.2

/-- What a table has to do with the entries it was made from. -/
structure Holds (matcher : AddressMatcher α) (entries : List (α × List CidrRange)) : Prop where
  values_eq : matcher.values.toList = entries.map (·.1)
  trees : matcher.Trees
  ownerOf_iff : ∀ range position, matcher.ownerOf range = some position ↔
    ∃ entry, entries[position]? = some entry ∧ range ∈ entry.2

/-! ## Claiming ranges -/

/-- A table after a range was claimed in its trie. -/
def claimOne (matcher : AddressMatcher α) (owner : Nat) (range : CidrRange) : AddressMatcher α :=
  let trie := ((matcher.trieOf range.isV4).insert range.networkBits owner).1
  if range.isV4 then { matcher with v4 := trie } else { matcher with v6 := trie }

theorem claimAll_cons (matcher : AddressMatcher α) (owner : Nat) (range : CidrRange)
    (ranges : List CidrRange) :
    matcher.claimAll owner (range :: ranges) =
      match ((matcher.trieOf range.isV4).insert range.networkBits owner).2 with
      | .takenBy _ => .error (.claimedTwice range.text)
      | .granted => (matcher.claimOne owner range).claimAll owner ranges :=
  rfl

theorem claimOne_values (matcher : AddressMatcher α) (owner : Nat) (range : CidrRange) :
    (matcher.claimOne owner range).values = matcher.values := by
  simp only [claimOne]
  split <;> rfl

theorem trieOf_claimOne (matcher : AddressMatcher α) (owner : Nat) (range : CidrRange)
    (v4 : Bool) :
    (matcher.claimOne owner range).trieOf v4 =
      if v4 = range.isV4 then ((matcher.trieOf v4).insert range.networkBits owner).1
      else matcher.trieOf v4 := by
  cases v4 <;> cases family : range.isV4 <;> simp [claimOne, trieOf, family]

private theorem Trees.claimOne {matcher : AddressMatcher α} (trees : matcher.Trees) (owner : Nat)
    (range : CidrRange) : (matcher.claimOne owner range).Trees := by
  have kept (v4 : Bool) : ((matcher.claimOne owner range).trieOf v4).IsTree := by
    rw [trieOf_claimOne]
    split
    · exact (trees.trieOf v4).insert _ owner
    · exact trees.trieOf v4
  exact ⟨kept true, kept false⟩

/-- A granted claim gives the range to its owner and leaves every other range as it was. -/
theorem ownerOf_claimOne {matcher : AddressMatcher α} (trees : matcher.Trees) {owner : Nat}
    {range : CidrRange}
    (granted : ((matcher.trieOf range.isV4).insert range.networkBits owner).2 = .granted)
    (other : CidrRange) :
    (matcher.claimOne owner range).ownerOf other =
      if other = range then some owner else matcher.ownerOf other := by
  unfold ownerOf
  rw [trieOf_claimOne]
  by_cases family : other.isV4 = range.isV4
  · rw [if_pos family, family,
      PrefixTrie.ownerOf_insert (trees.trieOf range.isV4) range.networkBits owner granted]
    by_cases same : other = range
    · simp [same]
    · have bits : other.networkBits ≠ range.networkBits :=
        fun equal => same (CidrRange.eq_of_networkBits family equal)
      simp [same, bits]
  · have distinct : other ≠ range := by
      intro same
      exact family (by rw [same])
    rw [if_neg family, if_neg distinct]

/-- Ranges are claimed if nobody else has any of them. -/
theorem exists_claimAll_eq_ok {matcher : AddressMatcher α} (trees : matcher.Trees) {owner : Nat}
    {ranges : List CidrRange}
    (free : ∀ range ∈ ranges, ∀ other, matcher.ownerOf range = some other → other = owner) :
    ∃ result, matcher.claimAll owner ranges = .ok result ∧ result.values = matcher.values ∧
      result.Trees ∧ ∀ range,
        result.ownerOf range = if range ∈ ranges then some owner else matcher.ownerOf range := by
  induction ranges generalizing matcher with
  | nil => exact ⟨matcher, rfl, rfl, trees, by simp⟩
  | cons range ranges inductionHypothesis =>
      have granted :
          ((matcher.trieOf range.isV4).insert range.networkBits owner).2 = .granted := by
        have mine := free range (by simp)
        rw [PrefixTrie.insert_claim (trees.trieOf range.isV4)]
        unfold ownerOf at mine
        cases owned : (matcher.trieOf range.isV4).ownerOf range.networkBits with
        | none => rfl
        | some other => simp [mine other owned]
      have owners := ownerOf_claimOne trees granted
      have freeAfter : ∀ other ∈ ranges, ∀ holder,
          (matcher.claimOne owner range).ownerOf other = some holder → holder = owner := by
        intro other member holder owned
        rw [owners] at owned
        split at owned
        · exact (Option.some.inj owned).symm
        · exact free other (by simp [member]) holder owned
      obtain ⟨result, claimed, values, resultTrees, resultOwners⟩ :=
        inductionHypothesis (trees.claimOne owner range) freeAfter
      refine ⟨result, ?_, values.trans (claimOne_values matcher owner range), resultTrees, ?_⟩
      · rw [claimAll_cons, granted]
        exact claimed
      · intro other
        rw [resultOwners, owners]
        by_cases later : other ∈ ranges
        · simp [later]
        · by_cases here : other = range <;> simp [later, here]

private theorem claimAll_append (matcher : AddressMatcher α) (owner : Nat)
    (done left : List CidrRange) :
    matcher.claimAll owner (done ++ left) =
      (matcher.claimAll owner done).bind (·.claimAll owner left) := by
  induction done generalizing matcher with
  | nil => rfl
  | cons range done inductionHypothesis =>
      rw [List.cons_append, claimAll_cons, claimAll_cons]
      split
      · rfl
      · exact inductionHypothesis _

/-- The first range that somebody else has is the one that the error names. -/
theorem claimAll_eq_error {matcher : AddressMatcher α} (trees : matcher.Trees) {owner other : Nat}
    {done left : List CidrRange} {range : CidrRange}
    (free : ∀ range ∈ done, ∀ other, matcher.ownerOf range = some other → other = owner)
    (taken : matcher.ownerOf range = some other) (distinct : other ≠ owner) :
    matcher.claimAll owner (done ++ range :: left) = .error (.claimedTwice range.text) := by
  obtain ⟨result, claimed, -, resultTrees, owners⟩ := exists_claimAll_eq_ok trees free
  have elsewhere : range ∉ done := fun member => distinct (free range member other taken)
  have stillTaken : (result.trieOf range.isV4).ownerOf range.networkBits = some other := by
    have kept := owners range
    rw [if_neg elsewhere, taken] at kept
    exact kept
  have refused :
      ((result.trieOf range.isV4).insert range.networkBits owner).2 = .takenBy other := by
    rw [PrefixTrie.insert_claim (resultTrees.trieOf range.isV4), stillTaken]
    simp [distinct]
  rw [claimAll_append, claimed]
  show result.claimAll owner (range :: left) = _
  rw [claimAll_cons, refused]

/-- The first of some elements with a property. -/
theorem exists_first {β : Type} {property : β → Prop} {elements : List β}
    (some : ∃ element ∈ elements, property element) :
    ∃ done first left, elements = done ++ first :: left ∧ (∀ element ∈ done, ¬property element) ∧
      property first := by
  classical
  have there : (elements.find? fun element => decide (property element)).isSome := by
    simpa using some
  obtain ⟨first, found⟩ := Option.isSome_iff_exists.mp there
  obtain ⟨holds, done, left, split, before⟩ := List.find?_eq_some_iff_append.mp found
  exact ⟨done, first, left, split, by simpa using before, by simpa using holds⟩

/-- A range that somebody else has is refused. -/
theorem exists_claimAll_eq_error {matcher : AddressMatcher α} (trees : matcher.Trees)
    {owner other : Nat} {ranges : List CidrRange} {range : CidrRange} (member : range ∈ ranges)
    (taken : matcher.ownerOf range = some other) (distinct : other ≠ owner) :
    ∃ text, matcher.claimAll owner ranges = .error (.claimedTwice text) := by
  have somewhere : ∃ range ∈ ranges, ∃ other, matcher.ownerOf range = some other ∧ other ≠ owner :=
    ⟨range, member, other, taken, distinct⟩
  obtain ⟨done, first, left, rfl, free, holder, held, foreign⟩ := exists_first somewhere
  refine ⟨first.text, claimAll_eq_error trees ?_ held foreign⟩
  intro earlier listed another owned
  by_contra different
  exact free earlier listed ⟨another, owned, different⟩

/-! ## Adding entries -/

private theorem holds_empty : (empty : AddressMatcher α).Holds [] where
  values_eq := rfl
  trees := ⟨PrefixTrie.isTree_empty, PrefixTrie.isTree_empty⟩
  ownerOf_iff := by
    intro range position
    have nobody : (empty : AddressMatcher α).ownerOf range = none := by
      unfold ownerOf trieOf
      split <;> exact PrefixTrie.ownerOf_empty _
    simp [nobody]

theorem Holds.size_values {matcher : AddressMatcher α} {entries : List (α × List CidrRange)}
    (holds : matcher.Holds entries) : matcher.values.size = entries.length := by
  rw [← Array.length_toList, holds.values_eq, List.length_map]

/-- A table with a value more, which has no range yet. -/
def offer (matcher : AddressMatcher α) (value : α) : AddressMatcher α :=
  { matcher with values := matcher.values.push value }

theorem Trees.offer {matcher : AddressMatcher α} (trees : matcher.Trees) (value : α) :
    (matcher.offer value).Trees :=
  ⟨trees.v4, trees.v6⟩

theorem ownerOf_offer (matcher : AddressMatcher α) (value : α) (range : CidrRange) :
    (matcher.offer value).ownerOf range = matcher.ownerOf range :=
  rfl

theorem add_eq (matcher : AddressMatcher α) (value : α) (ranges : List CidrRange) :
    matcher.add value ranges = (matcher.offer value).claimAll matcher.values.size ranges :=
  rfl

/-- An entry that shares no range with those before is added. -/
theorem Holds.add {matcher : AddressMatcher α} {entries : List (α × List CidrRange)}
    (holds : matcher.Holds entries) {entry : α × List CidrRange}
    (apart : ∀ earlier ∈ entries, Apart earlier entry) :
    ∃ result, matcher.add entry.1 entry.2 = .ok result ∧ result.Holds (entries ++ [entry]) := by
  have free : ∀ range ∈ entry.2, ∀ other,
      (matcher.offer entry.1).ownerOf range = some other → other = matcher.values.size := by
    intro range member other owned
    rw [ownerOf_offer] at owned
    obtain ⟨earlier, found, shared⟩ := (holds.ownerOf_iff range other).mp owned
    exact absurd member (apart earlier (List.mem_of_getElem? found) range shared)
  obtain ⟨result, claimed, values, trees, owners⟩ :=
    exists_claimAll_eq_ok (holds.trees.offer entry.1) free
  refine ⟨result, claimed, ?_, trees, ?_⟩
  · rw [values]
    simp [offer, holds.values_eq]
  · intro range position
    rw [owners, holds.size_values, ownerOf_offer, List.getElem?_append]
    split
    · rename_i member
      -- The new entry is the only one with this range.
      constructor
      · intro here
        have last : entries.length = position := Option.some.inj here
        refine ⟨entry, ?_, member⟩
        simp [last]
      · rintro ⟨holder, found, shared⟩
        split at found
        · exact absurd member (apart holder (List.mem_of_getElem? found) range shared)
        · rename_i outside
          have inside := (List.getElem?_eq_some_iff.mp found).1
          simp only [List.length_singleton] at inside
          exact congrArg some (by omega)
    · rename_i absent
      rw [holds.ownerOf_iff]
      constructor
      · rintro ⟨holder, found, shared⟩
        have inside := (List.getElem?_eq_some_iff.mp found).1
        exact ⟨holder, by rw [if_pos inside, found], shared⟩
      · rintro ⟨holder, found, shared⟩
        split at found
        · exact ⟨holder, found, shared⟩
        · have same : holder = entry := by
            simpa using List.mem_of_getElem? found
          rw [same] at shared
          exact absurd shared absent

/-- An entry that shares a range with one before is refused. -/
theorem Holds.add_error {matcher : AddressMatcher α} {entries : List (α × List CidrRange)}
    (holds : matcher.Holds entries) {earlier entry : α × List CidrRange}
    (member : earlier ∈ entries) (shared : ¬ Apart earlier entry) :
    ∃ text, matcher.add entry.1 entry.2 = .error (.claimedTwice text) := by
  obtain ⟨position, found⟩ := List.mem_iff_getElem?.mp member
  have inside := (List.getElem?_eq_some_iff.mp found).1
  obtain ⟨range, owned, wanted⟩ : ∃ range ∈ earlier.2, range ∈ entry.2 := by
    simpa [Apart] using shared
  rw [add_eq]
  apply exists_claimAll_eq_error (holds.trees.offer entry.1) wanted
  · exact (holds.ownerOf_iff range position).mpr ⟨earlier, found, owned⟩
  · rw [holds.size_values]
    omega

private theorem addAll_cases {matcher : AddressMatcher α} {entries : List (α × List CidrRange)}
    (holds : matcher.Holds entries) (apart : entries.Pairwise Apart)
    (more : List (α × List CidrRange)) :
    (∃ result, matcher.addAll more = .ok result ∧ (entries ++ more).Pairwise Apart ∧
      result.Holds (entries ++ more)) ∨
    (∃ text, matcher.addAll more = .error (.claimedTwice text) ∧
      ¬ (entries ++ more).Pairwise Apart) := by
  induction more generalizing matcher entries with
  | nil => exact .inl ⟨matcher, rfl, by simpa using apart, by simpa using holds⟩
  | cons entry more inductionHypothesis =>
      by_cases separate : ∀ earlier ∈ entries, Apart earlier entry
      · obtain ⟨next, added, nextHolds⟩ := holds.add separate
        have nextApart : (entries ++ [entry]).Pairwise Apart := by
          rw [List.pairwise_append]
          exact ⟨apart, List.pairwise_singleton _ _, by simpa using separate⟩
        have stepped : matcher.addAll (entry :: more) = next.addAll more := by
          show (matcher.add entry.1 entry.2 >>= fun table => table.addAll more) = _
          rw [added]
          rfl
        rw [stepped, List.append_cons]
        exact inductionHypothesis nextHolds nextApart
      · obtain ⟨earlier, member, shared⟩ : ∃ earlier ∈ entries, ¬ Apart earlier entry := by
          simpa using separate
        obtain ⟨text, refused⟩ := holds.add_error member shared
        refine .inr ⟨text, ?_, ?_⟩
        · show (matcher.add entry.1 entry.2 >>= fun table => table.addAll more) = _
          rw [refused]
          rfl
        · intro all
          exact shared ((List.pairwise_append.mp all).2.2 earlier member entry (by simp))

/-- A table is made exactly from entries that share no range. -/
theorem ofEntries_cases (entries : List (α × List CidrRange)) :
    (∃ result, ofEntries entries = .ok result ∧ entries.Pairwise Apart ∧ result.Holds entries) ∨
    (∃ text, ofEntries entries = .error (.claimedTwice text) ∧ ¬ entries.Pairwise Apart) :=
  addAll_cases holds_empty .nil entries

/-! ## Look-up -/

/-- Every beginning of an address is the leading bits of a range that holds it. -/
theorem exists_range_of_prefix {address : IpAddress} {key : List Bool}
    (begins : key <+: address.bits) :
    ∃ range : CidrRange, range.isV4 = address.isV4 ∧ range.networkBits = key ∧
      range.contains address = true := by
  have fits : key.length ≤ address.width := by
    rw [← IpAddress.length_bits]
    exact begins.length_le
  have bits : (CidrRange.ofAddress address key.length fits).networkBits = key := by
    rw [CidrRange.networkBits_ofAddress]
    exact (List.prefix_iff_eq_take.mp begins).symm
  have family := CidrRange.isV4_ofAddress address key.length fits
  refine ⟨_, family, bits, CidrRange.contains_iff.mpr ⟨family.symm, ?_⟩⟩
  rw [bits]
  exact begins

theorem ownerOf_eq_of_isV4 {matcher : AddressMatcher α} {address : IpAddress} {range : CidrRange}
    (family : range.isV4 = address.isV4) :
    (matcher.trieOf address.isV4).ownerOf range.networkBits = matcher.ownerOf range := by
  rw [← family]
  rfl

private theorem get?_eq (matcher : AddressMatcher α) (address : IpAddress) :
    matcher.get? address =
      (PrefixTrie.longestOf (matcher.trieOf address.isV4).ownerOf address.bits).bind
        fun owner => matcher.values[owner]? := by
  rw [← PrefixTrie.longestMatch_eq_longestOf]
  rfl

private theorem Holds.value_of_owner {matcher : AddressMatcher α}
    {entries : List (α × List CidrRange)} (holds : matcher.Holds entries) (position : Nat) :
    matcher.values[position]? = (entries[position]?).map (·.1) := by
  rw [← Array.getElem?_toList, holds.values_eq, List.getElem?_map]

/-- A value that a look-up gives belongs to the longest range that holds the address. -/
theorem Holds.exists_of_get?_eq_some {matcher : AddressMatcher α}
    {entries : List (α × List CidrRange)} (holds : matcher.Holds entries) {address : IpAddress}
    {value : α} (found : matcher.get? address = some value) :
    ∃ entry ∈ entries, entry.1 = value ∧ ∃ range ∈ entry.2, range.contains address = true ∧
      ∀ other ∈ entries, ∀ otherRange ∈ other.2, otherRange.contains address = true →
        otherRange.length ≤ range.length := by
  rw [get?_eq] at found
  obtain ⟨position, longest, atPosition⟩ := Option.bind_eq_some_iff.mp found
  obtain ⟨key, begins, owned, maximal⟩ := PrefixTrie.exists_of_longestOf_eq_some longest
  obtain ⟨range, family, bits, holdsAddress⟩ := exists_range_of_prefix begins
  rw [← bits, ownerOf_eq_of_isV4 family] at owned
  obtain ⟨entry, atEntry, member⟩ := (holds.ownerOf_iff range position).mp owned
  rw [holds.value_of_owner, atEntry] at atPosition
  refine ⟨entry, List.mem_of_getElem? atEntry, Option.some.inj atPosition, range, member,
    holdsAddress, ?_⟩
  intro other otherMember otherRange otherOwned otherHolds
  obtain ⟨otherPosition, atOther⟩ := List.mem_iff_getElem?.mp otherMember
  obtain ⟨otherFamily, otherBegins⟩ := CidrRange.contains_iff.mp otherHolds
  have isOwned : matcher.ownerOf otherRange = some otherPosition :=
    (holds.ownerOf_iff otherRange otherPosition).mpr ⟨other, atOther, otherOwned⟩
  have shorter := maximal otherRange.networkBits otherBegins (by
    rw [ownerOf_eq_of_isV4 otherFamily.symm, isOwned]
    rfl)
  rwa [← bits, CidrRange.length_networkBits, CidrRange.length_networkBits] at shorter

/-- A look-up gives nothing exactly if no range holds the address. -/
theorem Holds.get?_eq_none_iff {matcher : AddressMatcher α} {entries : List (α × List CidrRange)}
    (holds : matcher.Holds entries) {address : IpAddress} :
    matcher.get? address = none ↔
      ∀ entry ∈ entries, ∀ range ∈ entry.2, range.contains address = false := by
  constructor
  · intro nothing entry member range owned
    by_contra contained
    rw [Bool.not_eq_false] at contained
    obtain ⟨position, atEntry⟩ := List.mem_iff_getElem?.mp member
    obtain ⟨family, begins⟩ := CidrRange.contains_iff.mp contained
    have isOwned : matcher.ownerOf range = some position :=
      (holds.ownerOf_iff range position).mpr ⟨entry, atEntry, owned⟩
    rw [get?_eq] at nothing
    cases longest : PrefixTrie.longestOf (matcher.trieOf address.isV4).ownerOf address.bits with
    | none =>
        have free := PrefixTrie.longestOf_eq_none_iff.mp longest range.networkBits begins
        rw [ownerOf_eq_of_isV4 family.symm, isOwned] at free
        exact absurd free (by simp)
    | some owner =>
        -- Whoever is found has a value, so something would have been found.
        obtain ⟨key, keyBegins, keyOwned, _⟩ := PrefixTrie.exists_of_longestOf_eq_some longest
        obtain ⟨holder, holderFamily, bits, _⟩ := exists_range_of_prefix keyBegins
        rw [← bits, ownerOf_eq_of_isV4 holderFamily] at keyOwned
        obtain ⟨owning, atOwner, _⟩ := (holds.ownerOf_iff holder owner).mp keyOwned
        rw [longest, Option.bind_some, holds.value_of_owner, atOwner] at nothing
        exact absurd nothing (by simp)
  · intro none
    by_contra something
    obtain ⟨value, found⟩ := Option.ne_none_iff_exists'.mp something
    obtain ⟨entry, member, _, range, owned, contained, _⟩ := holds.exists_of_get?_eq_some found
    rw [none entry member range owned] at contained
    exact Bool.noConfusion contained

end Admission.Net.AddressMatcher
