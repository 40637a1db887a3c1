import Admission.Net.PrefixTrie
import Mathlib.Data.List.Induction

/-!
Contract: the node table of a prefix trie is a tree, and what it says of a key depends on the
claims alone.

Owns:
- `walk` and `ownerOf`, which read the table by keys instead of node numbers;
- `IsTree`, kept by every insertion, granted or refused;
- `ownerOf_insert`, the effect of an insertion on every key;
- `longestMatch_eq_longestOf`, which reduces a look-up to the owners of the beginnings of the
  probe.

Does not own: addresses and ranges (`Admission.Proofs.Net.RangeTable`).
-/

namespace Admission.Net.PrefixTrie

/-! ## Reading the table by keys -/

/-- The child of a node for a bit. -/
def next? (trie : PrefixTrie) (index : Nat) (bit : Bool) : Option Nat :=
  (trie.node? index).bind (·.child bit)

/-- Who owns the key that ends at a node. -/
def ownerAt (trie : PrefixTrie) (index : Nat) : Option Nat :=
  (trie.node? index).bind (·.owner)

/-- The node that a key leads to from a node. -/
def walk (trie : PrefixTrie) (index : Nat) : (key : List Bool) → Option Nat
  | [] => some index
  | bit :: key => (trie.next? index bit).bind fun next => trie.walk next key

/-- Who owns the key that leads from a node to wherever it leads. -/
def ownerFrom (trie : PrefixTrie) (index : Nat) (key : List Bool) : Option Nat :=
  (trie.walk index key).bind trie.ownerAt

/-- Who owns a key. -/
def ownerOf (trie : PrefixTrie) (key : List Bool) : Option Nat :=
  trie.ownerFrom 0 key

/-- The table is a tree that grows away from node 0: children come after their parents, and every
node but the root has exactly one parent. -/
structure IsTree (trie : PrefixTrie) : Prop where
  root_lt : 0 < trie.nodes.size
  parent_lt : ∀ {index bit child}, trie.next? index bit = some child → index < child
  child_lt : ∀ {index bit child}, trie.next? index bit = some child → child < trie.nodes.size
  parent_unique : ∀ {index bit other otherBit child}, trie.next? index bit = some child →
    trie.next? other otherBit = some child → index = other ∧ bit = otherBit
  parent_exists : ∀ child, 0 < child → child < trie.nodes.size →
    ∃ index bit, trie.next? index bit = some child

theorem walk_append (trie : PrefixTrie) (index : Nat) (key rest : List Bool) :
    trie.walk index (key ++ rest) = (trie.walk index key).bind fun next => trie.walk next rest := by
  induction key generalizing index with
  | nil => rfl
  | cons bit key inductionHypothesis =>
      simp only [List.cons_append, walk]
      cases trie.next? index bit with
      | none => rfl
      | some next => exact inductionHypothesis next

private theorem ownerFrom_cons (trie : PrefixTrie) (index : Nat) (bit : Bool) (key : List Bool) :
    trie.ownerFrom index (bit :: key) =
      (trie.next? index bit).bind fun next => trie.ownerFrom next key := by
  simp only [ownerFrom, walk]
  cases trie.next? index bit <;> rfl

namespace IsTree

variable {trie : PrefixTrie}

/-- A walk of one step or more leads to a later node. -/
theorem index_add_length_le_walk (tree : trie.IsTree) {index target : Nat} {key : List Bool}
    (walked : trie.walk index key = some target) : index + key.length ≤ target := by
  induction key generalizing index with
  | nil =>
      have same : index = target := Option.some.inj walked
      simp [same]
  | cons bit key inductionHypothesis =>
      obtain ⟨next, step, rest⟩ := Option.bind_eq_some_iff.mp walked
      have later := tree.parent_lt step
      have further := inductionHypothesis rest
      simp only [List.length_cons]
      omega

theorem walk_lt (tree : trie.IsTree) {index target : Nat} {key : List Bool}
    (inside : index < trie.nodes.size) (walked : trie.walk index key = some target) :
    target < trie.nodes.size := by
  induction key generalizing index with
  | nil =>
      have same : index = target := Option.some.inj walked
      rwa [← same]
  | cons bit key inductionHypothesis =>
      obtain ⟨next, step, rest⟩ := Option.bind_eq_some_iff.mp walked
      exact inductionHypothesis (tree.child_lt step) rest

/-- Different keys lead from the root to different nodes. -/
theorem walk_injective (tree : trie.IsTree) {key other : List Bool} {target : Nat}
    (walked : trie.walk 0 key = some target) (otherWalked : trie.walk 0 other = some target) :
    key = other := by
  -- The last steps agree because a node has one parent, so the induction is on the end of the key.
  induction key using List.reverseRecOn generalizing other target with
  | nil =>
      have atRoot : 0 = target := Option.some.inj walked
      have long := tree.index_add_length_le_walk otherWalked
      have empty : other.length = 0 := by omega
      exact (List.length_eq_zero_iff.mp empty).symm
  | append_singleton key bit inductionHypothesis =>
      have long := tree.index_add_length_le_walk walked
      rw [walk_append] at walked
      obtain ⟨parent, toParent, last⟩ := Option.bind_eq_some_iff.mp walked
      have step : trie.next? parent bit = some target := by
        simpa [walk] using last
      cases other using List.reverseRecOn with
      | nil =>
          have atRoot : 0 = target := Option.some.inj otherWalked
          simp only [List.length_append, List.length_singleton] at long
          omega
      | append_singleton other otherBit _ =>
          rw [walk_append] at otherWalked
          obtain ⟨otherParent, toOtherParent, otherLast⟩ := Option.bind_eq_some_iff.mp otherWalked
          have otherStep : trie.next? otherParent otherBit = some target := by
            simpa [walk] using otherLast
          obtain ⟨sameParent, sameBit⟩ := tree.parent_unique step otherStep
          subst sameParent sameBit
          rw [inductionHypothesis toParent toOtherParent]

end IsTree

theorem isTree_empty : empty.IsTree where
  root_lt := by decide
  parent_lt := by
    intro index bit child step
    cases index <;> cases bit <;> simp [next?, node?, empty, TrieNode.leaf, TrieNode.child] at step
  child_lt := by
    intro index bit child step
    cases index <;> cases bit <;> simp [next?, node?, empty, TrieNode.leaf, TrieNode.child] at step
  parent_unique := by
    intro index bit other otherBit child step _
    cases index <;> cases bit <;> simp [next?, node?, empty, TrieNode.leaf, TrieNode.child] at step
  parent_exists := by
    intro child positive below
    simp [empty] at below
    omega

theorem ownerOf_empty (key : List Bool) : empty.ownerOf key = none := by
  cases key with
  | nil => rfl
  | cons bit key =>
      rw [ownerOf, ownerFrom_cons]
      cases bit <;> rfl

/-! ## Creating nodes -/

/-- The table with a new node as the child of a node for a bit. -/
def grow (trie : PrefixTrie) (index : Nat) (bit : Bool) : PrefixTrie :=
  ⟨(trie.nodes.modify index (·.withChild bit trie.nodes.size)).push .leaf⟩

private theorem child_withChild (node : TrieNode) (bit otherBit : Bool) (target : Nat) :
    (node.withChild bit target).child otherBit =
      if otherBit = bit then some target else node.child otherBit := by
  cases bit <;> cases otherBit <;> rfl

private theorem owner_withChild (node : TrieNode) (bit : Bool) (target : Nat) :
    (node.withChild bit target).owner = node.owner := by
  cases bit <;> rfl

theorem node?_grow (trie : PrefixTrie) (index : Nat) (bit : Bool) (other : Nat) :
    (trie.grow index bit).node? other =
      if other = trie.nodes.size then some .leaf
      else if other = index then (trie.node? other).map (·.withChild bit trie.nodes.size)
      else trie.node? other := by
  simp only [grow, node?, Array.getElem?_push, Array.size_modify, Array.getElem?_modify]
  split
  · rfl
  · by_cases same : index = other
    · subst same; simp
    · simp [same, Ne.symm same]

private theorem next?_grow (trie : PrefixTrie) {index : Nat} (inside : index < trie.nodes.size)
    (bit : Bool) (other : Nat) (otherBit : Bool) :
    (trie.grow index bit).next? other otherBit =
      if other = index ∧ otherBit = bit then some trie.nodes.size
      else trie.next? other otherBit := by
  have outside : trie.node? trie.nodes.size = none := by simp [node?]
  unfold next?
  rw [node?_grow]
  by_cases fresh : other = trie.nodes.size
  · subst fresh
    have distinct : trie.nodes.size ≠ index := by omega
    rw [if_pos rfl, outside]
    cases otherBit <;> simp [distinct, TrieNode.leaf, TrieNode.child]
  · rw [if_neg fresh]
    by_cases same : other = index
    · subst same
      obtain ⟨node, found⟩ : ∃ node, trie.node? other = some node :=
        ⟨_, Array.getElem?_eq_getElem inside⟩
      rw [found]
      simp [child_withChild]
    · simp [same]

private theorem ownerAt_grow (trie : PrefixTrie) (index : Nat) (bit : Bool) (other : Nat) :
    (trie.grow index bit).ownerAt other = trie.ownerAt other := by
  unfold ownerAt
  rw [node?_grow]
  by_cases fresh : other = trie.nodes.size
  · have outside : trie.node? other = none := by simp [node?, fresh]
    rw [if_pos fresh, outside]
    rfl
  · rw [if_neg fresh]
    split
    · cases trie.node? other <;> simp [owner_withChild]
    · rfl

theorem size_grow (trie : PrefixTrie) (index : Nat) (bit : Bool) :
    (trie.grow index bit).nodes.size = trie.nodes.size + 1 := by
  simp [grow]

/-- A new node keeps the table a tree, if the place for it was free. -/
theorem IsTree.grow {trie : PrefixTrie} (tree : trie.IsTree) {index : Nat} {bit : Bool}
    (inside : index < trie.nodes.size) (free : trie.next? index bit = none) :
    (trie.grow index bit).IsTree where
  root_lt := by rw [size_grow]; omega
  parent_lt := by
    intro other otherBit child step
    rw [next?_grow trie inside] at step
    split at step
    · rename_i here
      have fresh : trie.nodes.size = child := Option.some.inj step
      rw [here.1, ← fresh]
      exact inside
    · exact tree.parent_lt step
  child_lt := by
    intro other otherBit child step
    rw [next?_grow trie inside] at step
    rw [size_grow]
    split at step
    · have fresh : trie.nodes.size = child := Option.some.inj step
      omega
    · have old := tree.child_lt step
      omega
  parent_unique := by
    intro first firstBit second secondBit child firstStep secondStep
    rw [next?_grow trie inside] at firstStep secondStep
    split at firstStep <;> split at secondStep
    · rename_i firstHere secondHere
      exact ⟨firstHere.1.trans secondHere.1.symm, firstHere.2.trans secondHere.2.symm⟩
    · have fresh : trie.nodes.size = child := Option.some.inj firstStep
      have old := tree.child_lt secondStep
      omega
    · have fresh : trie.nodes.size = child := Option.some.inj secondStep
      have old := tree.child_lt firstStep
      omega
    · exact tree.parent_unique firstStep secondStep
  parent_exists := by
    intro child positive below
    rw [size_grow] at below
    by_cases fresh : child = trie.nodes.size
    · refine ⟨index, bit, ?_⟩
      rw [next?_grow trie inside, if_pos ⟨rfl, rfl⟩, fresh]
    · obtain ⟨parent, parentBit, step⟩ := tree.parent_exists child positive (by omega)
      refine ⟨parent, parentBit, ?_⟩
      rw [next?_grow trie inside, if_neg, step]
      rintro ⟨sameNode, sameBit⟩
      rw [sameNode, sameBit, free] at step
      exact absurd step (by simp)

/-- Nobody owns a key below a number that has no node. -/
theorem ownerFrom_outside (trie : PrefixTrie) {index : Nat} (outside : trie.nodes.size ≤ index)
    (key : List Bool) : trie.ownerFrom index key = none := by
  have absent : trie.node? index = none := Array.getElem?_eq_none outside
  cases key with
  | nil => simp [ownerFrom, walk, ownerAt, absent]
  | cons bit key => simp [ownerFrom_cons, next?, absent]

/-- A new node changes nobody's keys. -/
theorem ownerFrom_grow (trie : PrefixTrie) {index : Nat} {bit : Bool}
    (inside : index < trie.nodes.size) (free : trie.next? index bit = none)
    (other : Nat) (key : List Bool) :
    (trie.grow index bit).ownerFrom other key = trie.ownerFrom other key := by
  induction key generalizing other with
  | nil => exact ownerAt_grow trie index bit other
  | cons head key inductionHypothesis =>
      rw [ownerFrom_cons, ownerFrom_cons, next?_grow trie inside]
      split
      · rename_i here
        rw [here.1, here.2, free]
        -- Below the new node there is nothing, and it has no owner itself.
        exact (inductionHypothesis trie.nodes.size).trans
          (ownerFrom_outside trie (Nat.le_refl _) key)
      · cases trie.next? other head with
        | none => rfl
        | some next => exact inductionHypothesis next

/-! ## Walking with creation -/

/-- A later table that still has every step of an earlier one. -/
def Extends (later earlier : PrefixTrie) : Prop :=
  ∀ index bit child, earlier.next? index bit = some child → later.next? index bit = some child

theorem Extends.walk {later earlier : PrefixTrie} (extension : later.Extends earlier)
    {index target : Nat} {key : List Bool} (walked : earlier.walk index key = some target) :
    later.walk index key = some target := by
  induction key generalizing index with
  | nil => exact walked
  | cons bit key inductionHypothesis =>
      obtain ⟨next, step, rest⟩ := Option.bind_eq_some_iff.mp walked
      exact Option.bind_eq_some_iff.mpr ⟨next, extension _ _ _ step, inductionHypothesis rest⟩

/-- What a walk with creation from a node leaves behind: a tree in which the key leads to the
target, and in which everybody owns what they owned. -/
structure Reached (before : PrefixTrie) (index : Nat) (key : List Bool)
    (after : PrefixTrie) (target : Nat) : Prop where
  tree : after.IsTree
  walked : after.walk index key = some target
  extension : after.Extends before
  inside : before.nodes.size ≤ after.nodes.size
  ownerFrom_eq : ∀ other otherKey, after.ownerFrom other otherKey = before.ownerFrom other otherKey

theorem descend_of_some {trie : PrefixTrie} {index next : Nat} {bit : Bool}
    (found : trie.next? index bit = some next) : trie.descend index bit = (trie, next) := by
  unfold next? at found
  simp [descend, found]

theorem descend_of_none {trie : PrefixTrie} {index : Nat} {bit : Bool}
    (free : trie.next? index bit = none) :
    trie.descend index bit = (trie.grow index bit, trie.nodes.size) := by
  unfold next? at free
  simp [descend, free, grow]

/-- One step of a walk with creation. -/
theorem reached_descend {trie : PrefixTrie} (tree : trie.IsTree) {index : Nat}
    (inside : index < trie.nodes.size) (bit : Bool) :
    Reached trie index [bit] (trie.descend index bit).1 (trie.descend index bit).2 := by
  cases found : trie.next? index bit with
  | some next =>
      rw [descend_of_some found]
      exact ⟨tree, by simp [walk, found], fun _ _ _ step => step, Nat.le_refl _, fun _ _ => rfl⟩
  | none =>
      rw [descend_of_none found]
      refine ⟨tree.grow inside found, ?_, ?_, ?_, ownerFrom_grow trie inside found⟩
      · simp [walk, next?_grow trie inside]
      · intro other otherBit child step
        rw [next?_grow trie inside, if_neg, step]
        rintro ⟨sameNode, sameBit⟩
        rw [sameNode, sameBit, found] at step
        exact absurd step (by simp)
      · rw [size_grow]
        omega

private theorem Reached.cons {first second third : PrefixTrie} {index next target : Nat}
    {bit : Bool} {key : List Bool} (step : Reached first index [bit] second next)
    (rest : Reached second next key third target) :
    Reached first index (bit :: key) third target where
  tree := rest.tree
  walked := by
    have stepped := Extends.walk rest.extension step.walked
    rw [← List.singleton_append, walk_append, stepped]
    exact rest.walked
  extension := fun _ _ _ old => rest.extension _ _ _ (step.extension _ _ _ old)
  inside := Nat.le_trans step.inside rest.inside
  ownerFrom_eq := fun other otherKey =>
    (rest.ownerFrom_eq other otherKey).trans (step.ownerFrom_eq other otherKey)

/-- A walk with creation leads along its key. -/
theorem reached_reach {trie : PrefixTrie} (tree : trie.IsTree) {index : Nat}
    (inside : index < trie.nodes.size) (key : List Bool) :
    Reached trie index key (trie.reach index key).1 (trie.reach index key).2 := by
  induction key generalizing trie index with
  | nil => exact ⟨tree, rfl, fun _ _ _ step => step, Nat.le_refl _, fun _ _ => rfl⟩
  | cons bit key inductionHypothesis =>
      have step := reached_descend tree inside bit
      have nextInside := step.tree.walk_lt (Nat.lt_of_lt_of_le inside step.inside) step.walked
      exact step.cons (inductionHypothesis step.tree nextInside)

/-! ## Claiming -/

/-- The table with an owner for the key that ends at a node. -/
def own (trie : PrefixTrie) (index owner : Nat) : PrefixTrie :=
  ⟨trie.nodes.modify index ({ · with owner := some owner })⟩

private theorem next?_own (trie : PrefixTrie) (index owner other : Nat) (bit : Bool) :
    (trie.own index owner).next? other bit = trie.next? other bit := by
  simp only [next?, node?, own, Array.getElem?_modify]
  split
  · cases trie.nodes[other]? <;> cases bit <;> rfl
  · rfl

private theorem walk_own (trie : PrefixTrie) (index owner other : Nat) (key : List Bool) :
    (trie.own index owner).walk other key = trie.walk other key := by
  induction key generalizing other with
  | nil => rfl
  | cons bit key inductionHypothesis =>
      simp only [walk, next?_own]
      cases trie.next? other bit with
      | none => rfl
      | some next => exact inductionHypothesis next

private theorem ownerAt_own (trie : PrefixTrie) {index : Nat} (inside : index < trie.nodes.size)
    (owner other : Nat) :
    (trie.own index owner).ownerAt other = if other = index then some owner else trie.ownerAt other := by
  simp only [ownerAt, node?, own, Array.getElem?_modify]
  by_cases same : other = index
  · subst same
    simp [Array.getElem?_eq_getElem inside]
  · simp [same, Ne.symm same]

private theorem IsTree.own {trie : PrefixTrie} (tree : trie.IsTree) (index owner : Nat) :
    (trie.own index owner).IsTree where
  root_lt := by simpa [PrefixTrie.own] using tree.root_lt
  parent_lt := by
    intro other bit child step
    rw [next?_own] at step
    exact tree.parent_lt step
  child_lt := by
    intro other bit child step
    rw [next?_own] at step
    simpa [PrefixTrie.own] using tree.child_lt step
  parent_unique := by
    intro first firstBit second secondBit child firstStep secondStep
    rw [next?_own] at firstStep secondStep
    exact tree.parent_unique firstStep secondStep
  parent_exists := by
    intro child positive below
    simp only [next?_own]
    exact tree.parent_exists child positive (by simpa [PrefixTrie.own] using below)

/-- Owning the node of a key is owning that key alone. -/
theorem ownerOf_own {trie : PrefixTrie} (tree : trie.IsTree) {key : List Bool} {index : Nat}
    (walked : trie.walk 0 key = some index) (owner : Nat) (other : List Bool) :
    (trie.own index owner).ownerOf other = if other = key then some owner else trie.ownerOf other := by
  have inside := tree.walk_lt tree.root_lt walked
  simp only [ownerOf, ownerFrom, walk_own]
  split
  · rename_i same
    rw [same, walked]
    simp [ownerAt_own trie inside]
  · rename_i distinct
    cases otherWalked : trie.walk 0 other with
    | none => rfl
    | some target =>
        have apart : target ≠ index := by
          intro same
          rw [same] at otherWalked
          exact distinct (tree.walk_injective otherWalked walked)
        simp [ownerAt_own trie inside, apart]

/-- Insertion in terms of the walk and of the owner it finds. -/
theorem insert_eq (trie : PrefixTrie) (key : List Bool) (owner : Nat) :
    trie.insert key owner =
      match (trie.reach 0 key).1.ownerAt (trie.reach 0 key).2 with
      | some existing =>
          if existing = owner then ((trie.reach 0 key).1, .granted)
          else ((trie.reach 0 key).1, .takenBy existing)
      | none => ((trie.reach 0 key).1.own (trie.reach 0 key).2 owner, .granted) :=
  rfl

/-- The walk of an insertion finds the owner of its key. -/
theorem ownerAt_reach {trie : PrefixTrie} (tree : trie.IsTree) (key : List Bool) :
    (trie.reach 0 key).1.ownerAt (trie.reach 0 key).2 = trie.ownerOf key := by
  have reached := reached_reach tree tree.root_lt key
  have same := reached.ownerFrom_eq 0 key
  rw [ownerFrom, reached.walked] at same
  exact same

/-- Insertion keeps the table a tree, whether the claim is granted or not. -/
theorem IsTree.insert {trie : PrefixTrie} (tree : trie.IsTree) (key : List Bool) (owner : Nat) :
    (trie.insert key owner).1.IsTree := by
  have reached := reached_reach tree tree.root_lt key
  rw [insert_eq, ownerAt_reach tree]
  cases trie.ownerOf key with
  | none => exact reached.tree.own _ owner
  | some existing =>
      by_cases same : existing = owner
      · simpa [same] using reached.tree
      · simpa [same] using reached.tree

/-- A claim is granted if nobody else owns the key. -/
theorem insert_claim {trie : PrefixTrie} (tree : trie.IsTree) (key : List Bool) (owner : Nat) :
    (trie.insert key owner).2 =
      match trie.ownerOf key with
      | some existing => if existing = owner then .granted else .takenBy existing
      | none => .granted := by
  rw [insert_eq, ownerAt_reach tree]
  cases trie.ownerOf key with
  | none => rfl
  | some existing => by_cases same : existing = owner <;> simp [same]

/-- After a claim, granted or not, the key has the owner it had, or the new one if it had none, and
every other key has the owner it had. -/
theorem ownerOf_insert_eq {trie : PrefixTrie} (tree : trie.IsTree) (key : List Bool) (owner : Nat)
    (other : List Bool) :
    (trie.insert key owner).1.ownerOf other =
      if other = key then some ((trie.ownerOf key).getD owner) else trie.ownerOf other := by
  have reached := reached_reach tree tree.root_lt key
  have kept : ∀ other, (trie.reach 0 key).1.ownerOf other = trie.ownerOf other :=
    reached.ownerFrom_eq 0
  rw [insert_eq, ownerAt_reach tree]
  cases owned : trie.ownerOf key with
  | none =>
      have changed := ownerOf_own reached.tree reached.walked owner other
      rwa [kept] at changed
  | some existing =>
      have unchanged : (trie.reach 0 key).1.ownerOf other =
          if other = key then some existing else trie.ownerOf other := by
        rw [kept]
        split
        · rename_i here
          rw [here, owned]
        · rfl
      by_cases same : existing = owner <;> simpa [same] using unchanged

/-- A granted claim gives the key its owner and leaves every other key as it was. -/
theorem ownerOf_insert {trie : PrefixTrie} (tree : trie.IsTree) (key : List Bool) (owner : Nat)
    (granted : (trie.insert key owner).2 = .granted) (other : List Bool) :
    (trie.insert key owner).1.ownerOf other =
      if other = key then some owner else trie.ownerOf other := by
  rw [insert_claim tree] at granted
  have mine : (trie.ownerOf key).getD owner = owner := by
    cases owned : trie.ownerOf key with
    | none => rfl
    | some existing =>
        by_contra distinct
        simp [owned, show existing ≠ owner from distinct] at granted
  rw [ownerOf_insert_eq tree, mine]

/-- What a claim, granted or not, leaves behind. -/
theorem reached_insert {trie : PrefixTrie} (tree : trie.IsTree) (key : List Bool) (owner : Nat) :
    ∃ index, (trie.insert key owner).1.walk 0 key = some index ∧
      (trie.insert key owner).1.Extends trie ∧
      (trie.insert key owner).1.nodes.size = (trie.reach 0 key).1.nodes.size := by
  have reached := reached_reach tree tree.root_lt key
  refine ⟨(trie.reach 0 key).2, ?_⟩
  rw [insert_eq]
  cases (trie.reach 0 key).1.ownerAt (trie.reach 0 key).2 with
  | none =>
      refine ⟨(walk_own _ _ _ _ _).trans reached.walked, ?_, by simp [own]⟩
      intro other bit child step
      exact (next?_own _ _ _ _ _).trans (reached.extension other bit child step)
  | some existing =>
      by_cases same : existing = owner <;>
        simpa [same] using ⟨reached.walked, reached.extension⟩

/-! ## Look-up -/

/-- The owner of the longest beginning of a probe that has one, where `owners` says who owns what. -/
def longestOf (owners : List Bool → Option Nat) : (probe : List Bool) → Option Nat
  | [] => owners []
  | bit :: probe => (longestOf (fun key => owners (bit :: key)) probe).or (owners [])

theorem longestOf_eq_none_iff {owners : List Bool → Option Nat} {probe : List Bool} :
    longestOf owners probe = none ↔ ∀ key, key <+: probe → owners key = none := by
  induction probe generalizing owners with
  | nil => simp [longestOf]
  | cons bit probe inductionHypothesis =>
      simp only [longestOf, Option.or_eq_none_iff, inductionHypothesis, List.prefix_cons_iff]
      constructor
      · rintro ⟨below, here⟩ key (rfl | ⟨rest, rfl, begins⟩)
        · exact here
        · exact below rest begins
      · intro none
        exact ⟨fun key begins => none _ (.inr ⟨key, rfl, begins⟩), none _ (.inl rfl)⟩

theorem exists_of_longestOf_eq_some {owners : List Bool → Option Nat} {probe : List Bool}
    {owner : Nat} (found : longestOf owners probe = some owner) :
    ∃ key, key <+: probe ∧ owners key = some owner ∧
      ∀ other, other <+: probe → (owners other).isSome → other.length ≤ key.length := by
  induction probe generalizing owners with
  | nil =>
      refine ⟨[], List.nil_prefix, found, ?_⟩
      intro other begins _
      simpa using begins.length_le
  | cons bit probe inductionHypothesis =>
      simp only [longestOf] at found
      cases below : longestOf (fun key => owners (bit :: key)) probe with
      | some lower =>
          rw [below, Option.some_or] at found
          obtain ⟨key, begins, owned, longest⟩ := inductionHypothesis (below.trans found)
          refine ⟨bit :: key, List.cons_prefix_cons.mpr ⟨rfl, begins⟩, owned, ?_⟩
          intro other otherBegins otherOwned
          rcases List.prefix_cons_iff.mp otherBegins with rfl | ⟨rest, rfl, restBegins⟩
          · simp
          · have shorter := longest rest restBegins otherOwned
            simpa using shorter
      | none =>
          rw [below, Option.none_or] at found
          refine ⟨[], List.nil_prefix, found, ?_⟩
          intro other otherBegins otherOwned
          rcases List.prefix_cons_iff.mp otherBegins with rfl | ⟨rest, rfl, restBegins⟩
          · simp
          · rw [longestOf_eq_none_iff.mp below rest restBegins] at otherOwned
            exact absurd otherOwned (by simp)

private theorem longestFrom_eq_longestOf (trie : PrefixTrie) (index : Nat) (best : Option Nat)
    (probe : List Bool) :
    trie.longestFrom index ((trie.ownerAt index).or best) probe =
      (longestOf (trie.ownerFrom index) probe).or best := by
  induction probe generalizing index best with
  | nil => rfl
  | cons bit probe inductionHypothesis =>
      simp only [longestFrom, longestOf]
      cases step : trie.next? index bit with
      | none =>
          have nothing : longestOf (fun key => trie.ownerFrom index (bit :: key)) probe = none := by
            rw [longestOf_eq_none_iff]
            intro key _
            rw [ownerFrom_cons, step]
            rfl
          rw [nothing, Option.none_or]
          unfold next? at step
          rw [step]
          rfl
      | some next =>
          have below : (fun key => trie.ownerFrom index (bit :: key)) = trie.ownerFrom next := by
            funext key
            rw [ownerFrom_cons, step]
            rfl
          rw [below, Option.or_assoc]
          unfold next? at step
          rw [step]
          exact inductionHypothesis next _

/-- A look-up gives the owner of the longest owned beginning of the probe. -/
theorem longestMatch_eq_longestOf (trie : PrefixTrie) (probe : List Bool) :
    trie.longestMatch probe = longestOf trie.ownerOf probe := by
  have fromRoot := longestFrom_eq_longestOf trie 0 none probe
  rw [Option.or_none, Option.or_none] at fromRoot
  exact fromRoot

end Admission.Net.PrefixTrie
