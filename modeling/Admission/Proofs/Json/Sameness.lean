import Admission.Proofs.Json.Canonical

/-!
Contract: when two JSON values are the same value.

The members of an object are compared in whatever order they come, numbers as they are written.

Owns:
- `Value.Equals`, this relation;
- `Value.Ordered`, values whose objects are sorted throughout;
- `equals_iff_spelling`: ordered values are the same exactly if they are spelled alike.
-/

namespace Admission.Json

mutual

/-- The same value, with the members of objects in whatever order and numbers as they are written. -/
inductive Value.Equals : Value → Value → Prop
  | null : Value.Equals .null .null
  | bool (b : Bool) : Value.Equals (.bool b) (.bool b)
  | number {m n : Number} (written : m.text = n.text) : Value.Equals (.number m) (.number n)
  | string (s : String) : Value.Equals (.string s) (.string s)
  | array {left right : List Value} (items : EqualItems left right) :
      Value.Equals (.array left) (.array right)
  | object {left right reordered : List (String × Value)} (permuted : left.Perm reordered)
      (members : EqualMembers reordered right) : Value.Equals (.object left) (.object right)

/-- The same items, one by one. -/
inductive EqualItems : List Value → List Value → Prop
  | nil : EqualItems [] []
  | cons {left right : Value} {lefts rights : List Value} (first : left.Equals right)
      (rest : EqualItems lefts rights) : EqualItems (left :: lefts) (right :: rights)

/-- The same members, one by one. -/
inductive EqualMembers : List (String × Value) → List (String × Value) → Prop
  | nil : EqualMembers [] []
  | cons {key : String} {left right : Value} {lefts rights : List (String × Value)}
      (first : left.Equals right) (rest : EqualMembers lefts rights) :
      EqualMembers ((key, left) :: lefts) ((key, right) :: rights)

end

/-- Members with their keys in strictly ascending order. -/
def Ascending {α : Type} (members : List (String × α)) : Prop :=
  members.Pairwise fun earlier later => earlier.1 < later.1

/-- Every object in the value has its keys in strictly ascending order. -/
inductive Value.Ordered : Value → Prop
  | null : Ordered .null
  | bool (b : Bool) : Ordered (.bool b)
  | number (n : Number) : Ordered (.number n)
  | string (s : String) : Ordered (.string s)
  | array {items : List Value} (inside : ∀ item ∈ items, item.Ordered) : Ordered (.array items)
  | object {members : List (String × Value)} (ascending : Ascending members)
      (inside : ∀ member ∈ members, member.2.Ordered) : Ordered (.object members)

/-! ## Sorted members -/

section Members

variable {α : Type} {members left right : List (String × α)} {key : String} {value : α}

private theorem mem_of_mem_insertMember {member : String × α}
    (listed : member ∈ Value.insertMember key value members) :
    member = (key, value) ∨ member ∈ members := by
  induction members with
  | nil => exact .inl (List.mem_singleton.mp listed)
  | cons first rest inductionHypothesis =>
      unfold Value.insertMember at listed
      split at listed
      · rcases List.mem_cons.mp listed with same | later
        · exact .inl same
        · exact .inr (List.mem_cons_of_mem _ later)
      · split at listed
        · exact List.mem_cons.mp listed
        · rcases List.mem_cons.mp listed with same | later
          · exact .inr (List.mem_cons.mpr (.inl same))
          · rcases inductionHypothesis later with same | kept
            · exact .inl same
            · exact .inr (List.mem_cons_of_mem _ kept)

private theorem Ascending.insertMember (ascending : Ascending members) (key : String) (value : α) :
    Ascending (Value.insertMember key value members) := by
  induction members with
  | nil => exact List.pairwise_singleton _ _
  | cons first rest inductionHypothesis =>
      obtain ⟨below, others⟩ := List.pairwise_cons.mp ascending
      unfold Value.insertMember
      split
      · rename_i same
        refine List.pairwise_cons.mpr ⟨?_, others⟩
        intro member listed
        rw [same]
        exact below member listed
      · rename_i different
        split
        · rename_i before
          refine List.pairwise_cons.mpr ⟨?_, ascending⟩
          intro member listed
          rcases List.mem_cons.mp listed with rfl | later
          · exact before
          · exact String.lt_trans before (below member later)
        · rename_i notBefore
          have after : first.1 < key :=
            Std.lt_of_le_of_ne (String.not_lt.mp notBefore) (Ne.symm different)
          refine List.pairwise_cons.mpr ⟨?_, inductionHypothesis others⟩
          intro member listed
          rcases mem_of_mem_insertMember listed with rfl | kept
          · exact after
          · exact below member kept

/-- Members in ascending order are determined by what they are. -/
theorem Ascending.eq_of_perm (leftAscending : Ascending left) (rightAscending : Ascending right)
    (permuted : left.Perm right) : left = right := by
  refine List.Perm.eq_of_pairwise ?_ leftAscending rightAscending permuted
  intro member other _ _ before after
  exact absurd after (String.lt_asymm before)

end Members

/-- The object with some members is ordered, whatever order they come in. -/
theorem ordered_ofMembers {members : List (String × Value)}
    (inside : ∀ member ∈ members, member.2.Ordered) : (Value.ofMembers members).Ordered := by
  have sorted (start : List (String × Value)) (ascending : Ascending start)
      (startInside : ∀ member ∈ start, member.2.Ordered) :
      (Value.object (members.foldl
        (fun sorted member => Value.insertMember member.1 member.2 sorted) start)).Ordered := by
    induction members generalizing start with
    | nil => exact .object ascending startInside
    | cons first rest inductionHypothesis =>
        refine inductionHypothesis ?_ _ (ascending.insertMember first.1 first.2) ?_
        · intro member listed
          exact inside member (List.mem_cons_of_mem _ listed)
        · intro member listed
          rcases mem_of_mem_insertMember listed with rfl | kept
          · exact inside first List.mem_cons_self
          · exact startInside member kept
  exact sorted [] .nil (by simp)

/-! ## Sameness and spelling -/

private theorem EqualMembers.keys {left right : List (String × Value)}
    (same : EqualMembers left right) :
    left.map (·.1) = right.map (·.1) := by
  induction left generalizing right with
  | nil =>
      cases same
      rfl
  | cons member left inductionHypothesis =>
      cases same with
      | cons _ rest =>
          rw [List.map_cons, List.map_cons, inductionHypothesis rest]

/-- Members in ascending order that are the same as others are so in their own order. -/
theorem EqualMembers.of_perm {left reordered right : List (String × Value)}
    (leftAscending : Ascending left) (rightAscending : Ascending right)
    (permuted : left.Perm reordered) (same : EqualMembers reordered right) :
    EqualMembers left right := by
  have ascending : Ascending reordered := by
    have keys : (reordered.map (·.1)).Pairwise (· < ·) := by
      rw [same.keys, List.pairwise_map]
      exact rightAscending
    exact List.pairwise_map.mp keys
  rw [leftAscending.eq_of_perm ascending permuted]
  exact same

mutual

private theorem spelling_of_equals (left right : Value) (leftOrdered : left.Ordered)
    (rightOrdered : right.Ordered) (same : left.Equals right) : left.spelling = right.spelling := by
  match left, right, same with
  | .null, .null, _ => rfl
  | .bool b, .bool _, .bool _ => rfl
  | .number m, .number n, .number written => exact congrArg Spelling.number written
  | .string s, .string _, .string _ => rfl
  | .array left, .array right, .array items =>
      cases leftOrdered with
      | array leftInside =>
          cases rightOrdered with
          | array rightInside =>
              exact congrArg Spelling.array
                (spellItems_of_equal left right leftInside rightInside items)
  | .object left, .object right, .object permuted members =>
      cases leftOrdered with
      | object leftAscending leftInside =>
          cases rightOrdered with
          | object rightAscending rightInside =>
              have inOrder := members.of_perm leftAscending rightAscending permuted
              exact congrArg Spelling.object
                (spellMembers_of_equal left right leftInside rightInside inOrder)

theorem spellItems_of_equal (left right : List Value) (leftOrdered : ∀ item ∈ left, item.Ordered)
    (rightOrdered : ∀ item ∈ right, item.Ordered) (same : EqualItems left right) :
    spellItems left = spellItems right := by
  match left, right, same with
  | [], [], _ => rfl
  | first :: left, second :: right, .cons here rest =>
      rw [List.forall_mem_cons] at leftOrdered rightOrdered
      rw [spellItems, spellItems, spelling_of_equals first second leftOrdered.1 rightOrdered.1 here,
        spellItems_of_equal left right leftOrdered.2 rightOrdered.2 rest]

theorem spellMembers_of_equal (left right : List (String × Value))
    (leftOrdered : ∀ member ∈ left, member.2.Ordered)
    (rightOrdered : ∀ member ∈ right, member.2.Ordered) (same : EqualMembers left right) :
    spellMembers left = spellMembers right := by
  match left, right, same with
  | [], [], _ => rfl
  | (key, first) :: left, (_, second) :: right, .cons here rest =>
      rw [List.forall_mem_cons] at leftOrdered rightOrdered
      rw [spellMembers, spellMembers,
        spelling_of_equals first second leftOrdered.1 rightOrdered.1 here,
        spellMembers_of_equal left right leftOrdered.2 rightOrdered.2 rest]

end

mutual

private theorem equals_of_spelling (left right : Value) (same : left.spelling = right.spelling) :
    left.Equals right := by
  match left, right with
  | .null, .null => exact .null
  | .bool b, .bool c =>
      rw [Spelling.bool.inj same]
      exact .bool c
  | .number m, .number n => exact .number (Spelling.number.inj same)
  | .string s, .string t =>
      rw [Spelling.string.inj same]
      exact .string t
  | .array left, .array right =>
      exact .array (equalItems_of_spelling left right (Spelling.array.inj same))
  | .object left, .object right =>
      exact .object (.refl left) (equalMembers_of_spelling left right (Spelling.object.inj same))

theorem equalItems_of_spelling (left right : List Value) (same : spellItems left = spellItems right) :
    EqualItems left right := by
  match left, right with
  | [], [] => exact .nil
  | first :: left, second :: right =>
      obtain ⟨here, rest⟩ := List.cons.inj same
      exact .cons (equals_of_spelling first second here) (equalItems_of_spelling left right rest)

theorem equalMembers_of_spelling (left right : List (String × Value))
    (same : spellMembers left = spellMembers right) : EqualMembers left right := by
  match left, right with
  | [], [] => exact .nil
  | (key, first) :: left, (other, second) :: right =>
      obtain ⟨here, rest⟩ := List.cons.inj same
      obtain ⟨keys, values⟩ := Prod.mk.inj here
      rw [keys]
      exact .cons (equals_of_spelling first second values) (equalMembers_of_spelling left right rest)

end

/-- Ordered values are the same exactly if they are spelled alike. -/
theorem equals_iff_spelling {left right : Value} (leftOrdered : left.Ordered)
    (rightOrdered : right.Ordered) : left.Equals right ↔ left.spelling = right.spelling :=
  ⟨spelling_of_equals left right leftOrdered rightOrdered, equals_of_spelling left right⟩

end Admission.Json
