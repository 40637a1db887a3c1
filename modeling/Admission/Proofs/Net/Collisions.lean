import Admission.Proofs.Net.RangeTable
import Mathlib.Data.Set.Defs

/-!
Contract: a table of ranges is refused exactly at the first range that two entries claim.

Owns:
- `FirstCollision`, the range at which the building of a table stops, told by the entries alone;
- `ofEntries_eq_error_iff`: the error names that range, and no other error comes up;
- `SameCover`: neither the order of the entries nor the order or the repetition of the ranges of
  an entry decides between success and failure.
-/

namespace Admission.Net.AddressMatcher

variable {α : Type} {entries others : List (α × List CidrRange)}

/-- Two entries have ranges of one family with the same leading bits. -/
def Collide (left right : α × List CidrRange) : Prop :=
  ∃ range ∈ left.2, ∃ other ∈ right.2, range.SamePrefix other

/-- A range has the leading bits of a range of one of the entries. -/
def TakenBy (entries : List (α × List CidrRange)) (range : CidrRange) : Prop :=
  ∃ entry ∈ entries, ∃ other ∈ entry.2, other.SamePrefix range

/-- The first range, in the order in which the entries list them, that an earlier entry has. -/
inductive FirstCollision : List (α × List CidrRange) → CidrRange → Prop
  | intro {before after : List (α × List CidrRange)} {value : α} {done left : List CidrRange}
      {range : CidrRange} (apart : before.Pairwise fun earlier later => ¬Collide earlier later)
      (free : ∀ other ∈ done, ¬TakenBy before other) (taken : TakenBy before range) :
      FirstCollision (before ++ (value, done ++ range :: left) :: after) range

private theorem collide_iff {left right : α × List CidrRange} :
    Collide left right ↔ ¬Apart left right := by
  simp [Collide, Apart, CidrRange.samePrefix_iff]

private theorem pairwise_apart_iff :
    entries.Pairwise Apart ↔ entries.Pairwise fun earlier later => ¬Collide earlier later := by
  simp only [collide_iff, not_not]

private theorem takenBy_iff {range : CidrRange} :
    TakenBy entries range ↔ ∃ entry ∈ entries, range ∈ entry.2 := by
  simp only [TakenBy, CidrRange.samePrefix_iff, exists_eq_right]

/-! ## The range that is refused -/

private theorem addAll_append (matcher : AddressMatcher α)
    (before after : List (α × List CidrRange)) :
    matcher.addAll (before ++ after) = (matcher.addAll before).bind (·.addAll after) := by
  induction before generalizing matcher with
  | nil => rfl
  | cons entry before inductionHypothesis =>
      show (matcher.add entry.1 entry.2).bind _ = ((matcher.add entry.1 entry.2).bind _).bind _
      cases matcher.add entry.1 entry.2 with
      | error _ => rfl
      | ok next => exact inductionHypothesis next

/-- At a range that an earlier entry has, after ranges that none has, an entry is refused. -/
theorem Holds.add_eq_error {matcher : AddressMatcher α} (holds : matcher.Holds entries) (value : α)
    {done left : List CidrRange} {range : CidrRange}
    (free : ∀ other ∈ done, ¬TakenBy entries other) (taken : TakenBy entries range) :
    matcher.add value (done ++ range :: left) = .error (.claimedTwice range.text) := by
  obtain ⟨entry, member, owned⟩ := takenBy_iff.mp taken
  obtain ⟨position, found⟩ := List.mem_iff_getElem?.mp member
  have inside := (List.getElem?_eq_some_iff.mp found).1
  rw [add_eq]
  apply claimAll_eq_error (holds.trees.offer value)
  · intro other listed holder owns
    rw [ownerOf_offer] at owns
    obtain ⟨earlier, found, shared⟩ := (holds.ownerOf_iff other holder).mp owns
    have already := takenBy_iff.mpr ⟨earlier, List.mem_of_getElem? found, shared⟩
    exact absurd already (free other listed)
  · exact (holds.ownerOf_iff range position).mpr ⟨entry, found, owned⟩
  · rw [holds.size_values]
    omega

private theorem FirstCollision.ofEntries_eq_error {range : CidrRange}
    (collision : FirstCollision entries range) :
    ofEntries entries = .error (.claimedTwice range.text) := by
  cases collision with
  | @intro before after value done left _ apart free taken =>
      rcases ofEntries_cases before with ⟨matcher, made, -, holds⟩ | ⟨_, -, shared⟩
      · have refused : matcher.add value (done ++ range :: left) = _ :=
          holds.add_eq_error value free taken
        rw [ofEntries, addAll_append, ← ofEntries, made]
        show (matcher.add value (done ++ range :: left)).bind _ = _
        rw [refused]
        rfl
      · exact absurd (pairwise_apart_iff.mpr apart) shared

/-! ## There is one -/

/-- Of entries that are not all apart, the first that is not apart from those before it. -/
theorem exists_first_collide
    (shared : ¬entries.Pairwise fun earlier later => ¬Collide earlier later) :
    ∃ before entry after, entries = before ++ entry :: after ∧
      (before.Pairwise fun earlier later => ¬Collide earlier later) ∧
      ∃ earlier ∈ before, Collide earlier entry := by
  induction entries using List.reverseRecOn with
  | nil => exact absurd .nil shared
  | append_singleton front last inductionHypothesis =>
      by_cases apart : front.Pairwise fun earlier later => ¬Collide earlier later
      · refine ⟨front, last, [], rfl, apart, ?_⟩
        by_contra none
        push Not at none
        exact shared (List.pairwise_append.mpr
          ⟨apart, List.pairwise_singleton _ _, by simpa using none⟩)
      · obtain ⟨before, entry, after, rfl, separate, collides⟩ := inductionHypothesis apart
        exact ⟨before, entry, after ++ [last], by simp, separate, collides⟩

private theorem exists_firstCollision (shared : ¬entries.Pairwise Apart) :
    ∃ range, FirstCollision entries range := by
  rw [pairwise_apart_iff] at shared
  obtain ⟨before, ⟨value, ranges⟩, after, rfl, apart, earlier, member, other, owned, range, wanted,
    same⟩ := exists_first_collide shared
  have somewhere : ∃ range ∈ ranges, TakenBy before range :=
    ⟨range, wanted, earlier, member, other, owned, same⟩
  obtain ⟨done, first, left, rfl, free, taken⟩ := exists_first somewhere
  exact ⟨first, .intro apart free taken⟩

private theorem Apart.symm {left right : α × List CidrRange} (apart : Apart left right) :
    Apart right left :=
  fun range owned wanted => apart range wanted owned

/-- Two positions hold entries that collide exactly if the entries are not all apart. -/
theorem exists_collide_iff :
    (∃ (i j : Nat) (left right : α × List CidrRange), i ≠ j ∧ entries[i]? = some left ∧
      entries[j]? = some right ∧ Collide left right) ↔ ¬entries.Pairwise Apart := by
  constructor
  · rintro ⟨i, j, left, right, distinct, atLeft, atRight, collides⟩ apart
    obtain ⟨leftFits, rfl⟩ := List.getElem?_eq_some_iff.mp atLeft
    obtain ⟨rightFits, rfl⟩ := List.getElem?_eq_some_iff.mp atRight
    rw [collide_iff] at collides
    rw [List.pairwise_iff_getElem] at apart
    rcases Nat.lt_or_gt_of_ne distinct with earlier | later
    · exact collides (apart i j leftFits rightFits earlier)
    · exact collides (apart j i rightFits leftFits later).symm
  · intro shared
    rw [pairwise_apart_iff] at shared
    obtain ⟨before, entry, after, rfl, -, earlier, member, collides⟩ := exists_first_collide shared
    obtain ⟨position, found⟩ := List.mem_iff_getElem?.mp member
    have inside := (List.getElem?_eq_some_iff.mp found).1
    refine ⟨position, before.length, earlier, entry, Nat.ne_of_lt inside, ?_, by simp, collides⟩
    rw [List.getElem?_append_left inside, found]

/-- The only error of a table is the one that names the first range that collides. -/
theorem ofEntries_eq_error_iff {error : RangeError} :
    ofEntries entries = .error error ↔
      ∃ range, FirstCollision entries range ∧ error = .claimedTwice range.text := by
  constructor
  · intro refused
    rcases ofEntries_cases entries with ⟨matcher, made, -, -⟩ | ⟨_, -, shared⟩
    · exact nomatch refused.symm.trans made
    · obtain ⟨range, collision⟩ := exists_firstCollision shared
      exact ⟨range, collision, Except.error.inj (refused.symm.trans collision.ofEntries_eq_error)⟩
  · rintro ⟨range, collision, rfl⟩
    exact collision.ofEntries_eq_error

/-! ## Order and repetition -/

/-- The ranges of an entry, without their order and their repetitions. -/
def cover (entry : α × List CidrRange) : Set CidrRange :=
  { range | range ∈ entry.2 }

/-- Entries with the same ranges in each, up to the order of the entries. -/
def SameCover (entries others : List (α × List CidrRange)) : Prop :=
  (entries.map cover).Perm (others.map cover)

/-- Two sets of ranges have none in common. -/
def Disjoined (left right : Set CidrRange) : Prop :=
  ∀ range ∈ left, range ∉ right

private theorem isOk_ofEntries_iff :
    (ofEntries entries).isOk = true ↔ (entries.map cover).Pairwise Disjoined := by
  have separate : (entries.map cover).Pairwise Disjoined ↔ entries.Pairwise Apart :=
    List.pairwise_map
  rw [separate]
  rcases ofEntries_cases entries with ⟨matcher, made, apart, -⟩ | ⟨_, refused, shared⟩
  · rw [made]
    exact ⟨fun _ => apart, fun _ => rfl⟩
  · rw [refused]
    exact ⟨fun ok => Bool.noConfusion ok, fun apart => absurd apart shared⟩

private theorem SameCover.isOk_eq (same : SameCover entries others) :
    (ofEntries others).isOk = (ofEntries entries).isOk := by
  have symmetric {left right : Set CidrRange} (apart : Disjoined left right) :
      Disjoined right left :=
    fun range owned wanted => apart range wanted owned
  rw [Bool.eq_iff_iff, isOk_ofEntries_iff, isOk_ofEntries_iff]
  exact (List.Perm.pairwise_iff symmetric same).symm

private theorem sameCover_of_repeats (before after : List (α × List CidrRange)) (value : α)
    {ranges repeats : List CidrRange} (listed : repeats ⊆ ranges) :
    SameCover (before ++ (value, ranges) :: after)
      (before ++ (value, ranges ++ repeats) :: after) := by
  have same : cover (value, ranges ++ repeats) = cover (value, ranges) := by
    ext range
    show range ∈ ranges ++ repeats ↔ range ∈ ranges
    rw [List.mem_append, or_iff_left_of_imp (@listed range)]
  rw [SameCover, List.map_append, List.map_append, List.map_cons, List.map_cons, same]

/-- A table fails exactly if two entries have ranges of one family with the same leading bits. The
error carries the text of the first range, in the order of the entries and of their ranges, that an
earlier entry has. An entry may list a range again, and neither the order of the entries nor that
of their ranges decides between success and failure. -/
theorem refused_at_first_collision (entries : List (α × List CidrRange)) :
    ((∃ error, ofEntries entries = .error error) ↔
      ∃ (i j : Nat) (left right : α × List CidrRange), i ≠ j ∧ entries[i]? = some left ∧
        entries[j]? = some right ∧ Collide left right) ∧
    (∀ error, ofEntries entries = .error error ↔
      ∃ range, FirstCollision entries range ∧ error = .claimedTwice range.text) ∧
    (∀ (before after : List (α × List CidrRange)) (value : α) (ranges repeats : List CidrRange),
      repeats ⊆ ranges →
      (ofEntries (before ++ (value, ranges ++ repeats) :: after)).isOk =
        (ofEntries (before ++ (value, ranges) :: after)).isOk) ∧
    ∀ others : List (α × List CidrRange), SameCover entries others →
      (ofEntries others).isOk = (ofEntries entries).isOk := by
  refine ⟨?_, fun error => ofEntries_eq_error_iff, ?_, fun others same => same.isOk_eq⟩
  · rw [exists_collide_iff]
    constructor
    · rintro ⟨error, refused⟩ apart
      rcases ofEntries_cases entries with ⟨matcher, made, -, -⟩ | ⟨_, -, shared⟩
      · exact nomatch refused.symm.trans made
      · exact shared apart
    · intro shared
      obtain ⟨range, collision⟩ := exists_firstCollision shared
      exact ⟨_, collision.ofEntries_eq_error⟩
  · intro before after value ranges repeats listed
    exact (sameCover_of_repeats before after value listed).isOk_eq

/-- A range that two entries have, written with other bits behind it by the second, which first
lists a range of its own twice. -/
def overlappingEntries : List (String × List CidrRange) := [
  ("first", [.ofAddress (.v4 0xC0A80000) 16 (by decide)]),
  ("second", [.ofAddress (.v4 0xC0000000) 8 (by decide), .ofAddress (.v4 0xC0000000) 8 (by decide),
    .ofAddress (.v4 0xC0A8FFFF) 16 (by decide)])]

private theorem firstCollision_overlappingEntries :
    FirstCollision overlappingEntries (.ofAddress (.v4 0xC0A8FFFF) 16 (by decide)) := by
  apply @FirstCollision.intro String [overlappingEntries[0]] [] "second"
    (.replicate 2 (.ofAddress (.v4 0xC0000000) 8 (by decide))) []
  · exact List.pairwise_singleton _ _
  · simp only [takenBy_iff]
    decide
  · exact takenBy_iff.mpr (by decide)

theorem refused_at_first_collision_overlappingEntries :
    ofEntries overlappingEntries = .error (.claimedTwice "192.168.0.0/16") ∧
      (ofEntries overlappingEntries.reverse).isOk = false := by
  have laws := refused_at_first_collision overlappingEntries
  have named : (CidrRange.ofAddress (.v4 0xC0A8FFFF) 16 (by decide)).text = "192.168.0.0/16" := by
    decide +kernel
  have refused := (laws.2.1 _).mpr ⟨_, firstCollision_overlappingEntries, rfl⟩
  rw [named] at refused
  refine ⟨refused, ?_⟩
  have turned := laws.2.2.2 overlappingEntries.reverse
    ((List.reverse_perm overlappingEntries).symm.map cover)
  rw [turned, refused]
  rfl

end Admission.Net.AddressMatcher
