import Admission.Proofs.Net.MostSpecific
import Mathlib.Algebra.Group.Nat.Defs

/-!
Contract: the node table of a trie may be read and written by number without looking whether there
is such a node.

Prefixes are words of 128 bits of which the first `length` count, addresses of both families are
aligned to the left in such a word, and a node keeps the numbers of its children in 32 bits. An
access to a node that is not there, or to a bit behind the word, is a `Fault`.

Owns:
- `Prefix` and `IpAddress.word`, the keys of tries as words;
- `PrefixTrie.claim` and `PrefixTrie.seek`, insertion and look-up by unchecked accesses, and that
  they do what `insert` and `longestMatch` do and meet no fault;
- `PrefixTrie.Records`, what a table says of the claims it was made from, kept by every claim;
- `PrefixTrie.node_table_stays_a_tree`.
-/

namespace Admission.Net

/-! ## Keys as words -/

/-- The bits of an address in a word for both families, from the left. -/
def IpAddress.word : IpAddress → BitVec 128
  | v4 value => value.setWidth 128 <<< 96
  | v6 value => value

private theorem IpAddress.map_word (address : IpAddress) :
    (List.range address.width).map address.word.getMsbD = address.bits := by
  cases address with
  | v6 value => rfl
  | v4 value =>
      apply List.map_congr_left
      intro index _
      simp [word, BitVec.getMsbD_setWidth]

private theorem IpAddress.width_le_word (address : IpAddress) : address.width ≤ 128 := by
  cases address <;> simp [width]

/-- A word of which the first bits count. -/
structure Prefix where
  word : BitVec 128
  length : Nat
  length_le : length ≤ 128

namespace Prefix

def key (pre : Prefix) : List Bool :=
  (List.range pre.length).map pre.word.getMsbD

/-- The bits that the addresses of a range begin with. -/
def ofRange (range : CidrRange) : Prefix where
  word := range.address.word
  length := range.length
  length_le := Nat.le_trans range.length_le range.address.width_le_word

private theorem key_ofRange (range : CidrRange) : (ofRange range).key = range.networkBits := by
  have fits : min range.length range.address.width = range.length :=
    Nat.min_eq_left range.length_le
  rw [CidrRange.networkBits, ← IpAddress.map_word, ← List.map_take, List.take_range, fits]
  rfl

end Prefix

namespace PrefixTrie

/-! ## Unchecked accesses -/

/-- An access that has nothing to access. -/
inductive Fault where
  /-- The table has no node of this number. -/
  | noNode (index : Nat)
  /-- The word has no bit at this depth. -/
  | noBit (depth : Nat)
  deriving DecidableEq, Repr

def nodeAt (trie : PrefixTrie) (index : Nat) : Except Fault TrieNode :=
  match trie.node? index with
  | some node => .ok node
  | none => .error (.noNode index)

/-- The bit at a depth, shifted to the right end of the word. -/
def bitAt (word : BitVec 128) (depth : Nat) : Except Fault Bool :=
  if depth ≤ 127 then .ok ((word >>> (127 - depth)).getLsbD 0) else .error (.noBit depth)

def put (trie : PrefixTrie) (index : Nat) (node : TrieNode) : Except Fault PrefixTrie :=
  if index < trie.nodes.size then .ok ⟨trie.nodes.setIfInBounds index node⟩
  else .error (.noNode index)

/-- The number of a node as its parent keeps it, in 32 bits. -/
def stored (index : Nat) : Nat := index % 2 ^ 32

private theorem stored_eq {index : Nat} (small : index < 2 ^ 32) : stored index = index :=
  Nat.mod_eq_of_lt small

/-- Adds a node at the end of the table and makes it a child. -/
def attach (trie : PrefixTrie) (index : Nat) (bit : Bool) : Except Fault (PrefixTrie × Nat) := do
  let next := trie.nodes.size
  let grown : PrefixTrie := ⟨trie.nodes.push .leaf⟩
  let parent ← grown.nodeAt index
  let linked ← grown.put index (parent.withChild bit (stored next))
  return (linked, next)

/-- Follows `left` bits of a word from a depth on, creating what is missing. -/
def follow (word : BitVec 128) (trie : PrefixTrie) (index depth : Nat) :
    (left : Nat) → Except Fault (PrefixTrie × Nat)
  | 0 => .ok (trie, index)
  | left + 1 => do
      let bit ← bitAt word depth
      let node ← trie.nodeAt index
      match node.child bit with
      | some next => follow word trie next (depth + 1) left
      | none => do
          let (trie, next) ← trie.attach index bit
          follow word trie next (depth + 1) left

/-- Claims a prefix for an owner. -/
def claim (trie : PrefixTrie) (pre : Prefix) (owner : Nat) : Except Fault (PrefixTrie × Claim) := do
  let (trie, index) ← follow pre.word trie 0 0 pre.length
  let node ← trie.nodeAt index
  match node.owner with
  | some existing =>
      if existing ≠ owner then return (trie, .takenBy existing)
      else return (← trie.put index { node with owner := some owner }, .granted)
  | none => return (← trie.put index { node with owner := some owner }, .granted)

/-- The owner of the longest prefix of a word below a node and a depth, `best` if there is none. -/
def seekFrom (trie : PrefixTrie) (word : BitVec 128) (index depth : Nat) (best : Option Nat) :
    (left : Nat) → Except Fault (Option Nat)
  | 0 => .ok best
  | left + 1 => do
      let bit ← bitAt word depth
      let node ← trie.nodeAt index
      match node.child bit with
      | some next => do
          let target ← trie.nodeAt next
          trie.seekFrom word next (depth + 1) (target.owner.or best) left
      | none => .ok best

/-- The owner of the longest prefix of the first bits of a word. -/
def seek (trie : PrefixTrie) (word : BitVec 128) (width : Nat) : Except Fault (Option Nat) := do
  let root ← trie.nodeAt 0
  trie.seekFrom word 0 0 root.owner width

/-! ## No fault -/

private theorem bitAt_eq {word : BitVec 128} {depth : Nat} (inside : depth < 128) :
    bitAt word depth = .ok (word.getMsbD depth) := by
  have fits : depth ≤ 127 := by omega
  simp [bitAt, fits, BitVec.getMsbD, inside]

variable {trie : PrefixTrie} {index : Nat}

private theorem nodeAt_eq (inside : index < trie.nodes.size) :
    ∃ node, trie.node? index = some node ∧ trie.nodeAt index = .ok node := by
  have found : trie.node? index = some trie.nodes[index] := Array.getElem?_eq_getElem inside
  exact ⟨_, found, by simp [nodeAt, found]⟩

/-- While node numbers fit into 32 bits, a node is attached as by `descend`. -/
theorem attach_eq (inside : index < trie.nodes.size) (small : trie.nodes.size < 2 ^ 32)
    (bit : Bool) : trie.attach index bit = .ok (trie.grow index bit, trie.nodes.size) := by
  have room : index < trie.nodes.size + 1 := by omega
  have read : nodeAt ⟨trie.nodes.push .leaf⟩ index = .ok trie.nodes[index] := by
    simp [nodeAt, node?, Array.getElem?_push, Nat.ne_of_lt inside, inside]
  have linked : (trie.nodes.push .leaf).setIfInBounds index
      (trie.nodes[index].withChild bit trie.nodes.size) = (trie.grow index bit).nodes := by
    apply Array.ext_getElem?
    intro other
    have grown := node?_grow trie index bit other
    simp only [node?] at grown
    rw [grown, Array.getElem?_setIfInBounds, Array.getElem?_push]
    by_cases here : index = other
    · subst here
      simp [Nat.ne_of_lt inside, inside, room]
    · simp [here, Ne.symm here]
  simp [attach, read, put, room, stored_eq small, linked, bind, Except.bind, pure, Except.pure]

/-- Following a word is reaching the node of the bits that are left of it. -/
theorem follow_eq (tree : trie.IsTree) (inside : index < trie.nodes.size) {word : BitVec 128}
    {depth left : Nat} (fits : depth + left ≤ 128)
    (small : (trie.reach index ((List.range' depth left).map word.getMsbD)).1.nodes.size < 2 ^ 32) :
    follow word trie index depth left =
      .ok (trie.reach index ((List.range' depth left).map word.getMsbD)) := by
  induction left generalizing trie index depth with
  | zero => rfl
  | succ left inductionHypothesis =>
      have there : depth < 128 := by omega
      have below : depth + 1 + left ≤ 128 := by omega
      obtain ⟨node, found, read⟩ := nodeAt_eq inside
      have child : node.child (word.getMsbD depth) = trie.next? index (word.getMsbD depth) := by
        simp [next?, found]
      rw [List.range'_succ, List.map_cons, reach] at small ⊢
      simp only [follow, bitAt_eq there, read, bind, Except.bind]
      cases step : trie.next? index (word.getMsbD depth) with
      | some next =>
          rw [descend_of_some step] at small ⊢
          simp only [child, step]
          exact inductionHypothesis tree (tree.child_lt step) below small
      | none =>
          rw [descend_of_none step] at small ⊢
          have grown := tree.grow inside step
          have room : trie.nodes.size < (trie.grow index (word.getMsbD depth)).nodes.size := by
            rw [size_grow]
            omega
          have final := (reached_reach grown room
            ((List.range' (depth + 1) left).map word.getMsbD)).inside
          have numbered : trie.nodes.size < 2 ^ 32 := by
            simp only at small
            omega
          simp only [child, step, attach_eq inside numbered]
          exact inductionHypothesis grown room below small

private theorem put_eq {node : TrieNode} (inside : index < trie.nodes.size)
    (found : trie.node? index = some node) (owner : Nat) :
    trie.put index { node with owner := some owner } = .ok (trie.own index owner) := by
  have same : trie.nodes.setIfInBounds index { node with owner := some owner } =
      (trie.own index owner).nodes := by
    simp only [node?] at found
    apply Array.ext_getElem?
    intro other
    rw [own, Array.getElem?_modify, Array.getElem?_setIfInBounds]
    by_cases here : index = other
    · subst here
      rw [if_pos rfl, if_pos inside, if_pos rfl, found]
      rfl
    · simp [here]
  simp [put, inside, same]

/-- An owner that is put down again changes nothing. -/
theorem own_of_ownerAt {owner : Nat} (owned : trie.ownerAt index = some owner) :
    trie.own index owner = trie := by
  have same : (trie.own index owner).nodes = trie.nodes := by
    apply Array.ext_getElem?
    intro other
    rw [own, Array.getElem?_modify]
    split
    · rename_i here
      subst here
      cases found : trie.nodes[index]? with
      | none => rfl
      | some node =>
          simp only [ownerAt, node?, found, Option.bind_some] at owned
          simp [← owned]
    · rfl
  cases trie
  exact congrArg PrefixTrie.mk same

/-- While node numbers fit into 32 bits, claiming a prefix by unchecked accesses is inserting its
key. -/
theorem claim_eq (tree : trie.IsTree) (pre : Prefix) (owner : Nat)
    (small : (trie.insert pre.key owner).1.nodes.size < 2 ^ 32) :
    trie.claim pre owner = .ok (trie.insert pre.key owner) := by
  obtain ⟨_, _, _, size⟩ := reached_insert tree pre.key owner
  rw [size] at small
  have reached := reached_reach tree tree.root_lt pre.key
  have followed : follow pre.word trie 0 0 pre.length = .ok (trie.reach 0 pre.key) := by
    have fits : 0 + pre.length ≤ 128 := by
      have within := pre.length_le
      omega
    rw [Prefix.key, List.range_eq_range'] at small ⊢
    exact follow_eq tree tree.root_lt fits small
  have inside := reached.tree.walk_lt reached.tree.root_lt reached.walked
  obtain ⟨node, found, read⟩ := nodeAt_eq inside
  have owned : (trie.reach 0 pre.key).1.ownerAt (trie.reach 0 pre.key).2 = node.owner := by
    simp [ownerAt, found]
  rw [insert_eq, owned]
  simp only [claim, followed, read, bind, Except.bind, put_eq inside found]
  cases holder : node.owner with
  | none => rfl
  | some existing =>
      by_cases same : existing = owner
      · have kept := own_of_ownerAt (owned.trans (holder.trans (congrArg some same)))
        simp [same, kept, pure, Except.pure]
      · simp [same, pure, Except.pure]

private theorem seekFrom_eq (tree : trie.IsTree) (inside : index < trie.nodes.size)
    {word : BitVec 128} {depth left : Nat} (fits : depth + left ≤ 128) (best : Option Nat) :
    trie.seekFrom word index depth best left =
      .ok (trie.longestFrom index best ((List.range' depth left).map word.getMsbD)) := by
  induction left generalizing index depth best with
  | zero => rfl
  | succ left inductionHypothesis =>
      have there : depth < 128 := by omega
      have below : depth + 1 + left ≤ 128 := by omega
      obtain ⟨node, found, read⟩ := nodeAt_eq inside
      rw [List.range'_succ, List.map_cons, longestFrom]
      simp only [seekFrom, bitAt_eq there, read, found, Option.bind_some, bind, Except.bind]
      cases step : node.child (word.getMsbD depth) with
      | none => rfl
      | some next =>
          have walked : trie.next? index (word.getMsbD depth) = some next := by
            simp [next?, found, step]
          obtain ⟨target, targetFound, targetRead⟩ := nodeAt_eq (tree.child_lt walked)
          simp only [targetRead, targetFound, Option.bind_some]
          exact inductionHypothesis (tree.child_lt walked) below _

/-- Seeking a word by unchecked accesses is looking its bits up. -/
theorem seek_eq (tree : trie.IsTree) {width : Nat} (fits : width ≤ 128) (word : BitVec 128) :
    trie.seek word width = .ok (trie.longestMatch ((List.range width).map word.getMsbD)) := by
  obtain ⟨root, found, read⟩ := nodeAt_eq tree.root_lt
  have within : 0 + width ≤ 128 := by omega
  rw [List.range_eq_range', longestMatch, ← seekFrom_eq tree tree.root_lt within]
  simp [seek, read, found, bind, Except.bind]

/-! ## Claims in order -/

/-- The table after claims in order, granted or not. -/
def after (trie : PrefixTrie) (claims : List (Prefix × Nat)) : PrefixTrie :=
  claims.foldl (fun trie entry => (trie.insert entry.1.key entry.2).1) trie

/-- The table after claims in order by unchecked accesses. -/
def afterUnchecked (trie : PrefixTrie) (claims : List (Prefix × Nat)) : Except Fault PrefixTrie :=
  claims.foldlM (fun trie entry => (·.1) <$> trie.claim entry.1 entry.2) trie

/-- Who claims a key first. -/
def firstOwner (claims : List (Prefix × Nat)) (key : List Bool) : Option Nat :=
  (claims.find? (·.1.key = key)).map (·.2)

/-- What a table says of the claims that it was made from: each has its node, and a key belongs to
who claimed it first. -/
structure Records (claims : List (Prefix × Nat)) (trie : PrefixTrie) : Prop where
  tree : trie.IsTree
  reached : ∀ entry ∈ claims, ∃ index, trie.walk 0 entry.1.key = some index
  owners : ∀ key, trie.ownerOf key = firstOwner claims key

private theorem records_empty : Records [] empty where
  tree := isTree_empty
  reached := by simp
  owners := ownerOf_empty

theorem Records.insert {claims : List (Prefix × Nat)} (records : Records claims trie)
    (entry : Prefix × Nat) :
    Records (claims ++ [entry]) (trie.insert entry.1.key entry.2).1 := by
  obtain ⟨index, walked, extension, _⟩ := reached_insert records.tree entry.1.key entry.2
  refine ⟨records.tree.insert _ _, ?_, ?_⟩
  · intro other listed
    rw [List.mem_append, List.mem_singleton] at listed
    cases listed with
    | inl earlier =>
        obtain ⟨node, found⟩ := records.reached other earlier
        exact ⟨node, extension.walk found⟩
    | inr last => exact ⟨index, by rw [last, walked]⟩
  · intro key
    rw [ownerOf_insert_eq records.tree, records.owners, records.owners]
    unfold firstOwner
    rw [List.find?_append]
    by_cases same : key = entry.1.key
    · subst same
      cases claims.find? (·.1.key = entry.1.key) <;> simp
    · simp [same, Ne.symm same]

private theorem records_after (claims : List (Prefix × Nat)) :
    Records claims (empty.after claims) := by
  induction claims using List.reverseRecOn with
  | nil => exact records_empty
  | append_singleton claims entry inductionHypothesis =>
      have step := inductionHypothesis.insert entry
      simpa [after] using step

private theorem size_le_after (tree : trie.IsTree) (claims : List (Prefix × Nat)) :
    trie.nodes.size ≤ (trie.after claims).nodes.size := by
  induction claims generalizing trie with
  | nil => exact Nat.le_refl _
  | cons entry claims inductionHypothesis =>
      obtain ⟨_, _, _, size⟩ := reached_insert tree entry.1.key entry.2
      have grown := (reached_reach tree tree.root_lt entry.1.key).inside
      have later := inductionHypothesis (tree.insert entry.1.key entry.2)
      rw [after, List.foldl_cons, ← after]
      omega

/-- While node numbers fit into 32 bits, claims by unchecked accesses meet no fault. -/
theorem afterUnchecked_eq (tree : trie.IsTree) {claims : List (Prefix × Nat)}
    (small : (trie.after claims).nodes.size < 2 ^ 32) :
    trie.afterUnchecked claims = .ok (trie.after claims) := by
  induction claims generalizing trie with
  | nil => rfl
  | cons entry claims inductionHypothesis =>
      have next := tree.insert entry.1.key entry.2
      have later := size_le_after next claims
      rw [after, List.foldl_cons, ← after] at small ⊢
      have claimed := claim_eq tree entry.1 entry.2 (Nat.lt_of_le_of_lt later small)
      rw [afterUnchecked, List.foldlM_cons, claimed]
      exact inductionHypothesis next small

/-- Every node is reached from the root. -/
theorem IsTree.exists_walk (tree : trie.IsTree) {index : Nat} (inside : index < trie.nodes.size) :
    ∃ key, trie.walk 0 key = some index := by
  induction index using Nat.strongRecOn with
  | ind index inductionHypothesis =>
      cases index with
      | zero => exact ⟨[], rfl⟩
      | succ index =>
          obtain ⟨parent, bit, step⟩ := tree.parent_exists (index + 1) (Nat.succ_pos _) inside
          have earlier := tree.parent_lt step
          obtain ⟨key, walked⟩ := inductionHypothesis parent earlier (by omega)
          exact ⟨key ++ [bit], by simp [walk_append, walked, walk, step]⟩

/-- The node of a claim is that of no other key, and has the owner who claimed the key first. -/
theorem Records.node_of_claim {claims : List (Prefix × Nat)} (records : Records claims trie)
    {entry : Prefix × Nat} (listed : entry ∈ claims) :
    ∃ index, (∀ key, trie.walk 0 key = some index ↔ key = entry.1.key) ∧
      trie.ownerAt index = firstOwner claims entry.1.key := by
  obtain ⟨index, walked⟩ := records.reached entry listed
  refine ⟨index, ?_, ?_⟩
  · intro key
    constructor
    · intro also
      exact records.tree.walk_injective also walked
    · intro same
      rw [same, walked]
  · have owner := records.owners entry.1.key
    rwa [ownerOf, ownerFrom, walked] at owner

/-- A node with an owner is that of a claim. -/
theorem Records.claim_of_node {claims : List (Prefix × Nat)} (records : Records claims trie)
    {owner : Nat} (owned : trie.ownerAt index = some owner) :
    ∃ entry ∈ claims, trie.walk 0 entry.1.key = some index := by
  have inside : index < trie.nodes.size := by
    by_contra outside
    have absent : trie.nodes.size ≤ index := by omega
    simp [ownerAt, node?, absent] at owned
  obtain ⟨key, walked⟩ := records.tree.exists_walk inside
  have first := records.owners key
  rw [ownerOf, ownerFrom, walked, Option.bind_some, owned, firstOwner, eq_comm,
    Option.map_eq_some_iff] at first
  obtain ⟨entry, found, _⟩ := first
  have same : entry.1.key = key := by simpa using List.find?_some found
  exact ⟨entry, List.mem_of_find?_eq_some found, by rw [same, walked]⟩

end PrefixTrie

/-! ## Tables of ranges -/

namespace AddressMatcher

open PrefixTrie (after)

variable {α : Type}

/-- The claims of entries on the trie of a family, each for the position of its entry. -/
def claimsOf (v4 : Bool) (position : Nat) : List (α × List CidrRange) → List (Prefix × Nat)
  | [] => []
  | (_, ranges) :: entries =>
      (ranges.filter (·.isV4 = v4)).map (Prefix.ofRange ·, position) ++
        claimsOf v4 (position + 1) entries

private theorem trieOf_claimAll {matcher result : AddressMatcher α} {owner : Nat}
    {ranges : List CidrRange} (claimed : matcher.claimAll owner ranges = .ok result) (v4 : Bool) :
    result.values = matcher.values ∧
      result.trieOf v4 = (matcher.trieOf v4).after
        ((ranges.filter (·.isV4 = v4)).map (Prefix.ofRange ·, owner)) := by
  induction ranges generalizing matcher with
  | nil =>
      have same : matcher = result := Except.ok.inj claimed
      subst same
      exact ⟨rfl, rfl⟩
  | cons range ranges inductionHypothesis =>
      rw [claimAll_cons] at claimed
      cases outcome : ((matcher.trieOf range.isV4).insert range.networkBits owner).2 with
      | takenBy other =>
          rw [outcome] at claimed
          exact absurd claimed (by simp)
      | granted =>
          rw [outcome] at claimed
          obtain ⟨values, trie⟩ := inductionHypothesis claimed
          refine ⟨values.trans (claimOne_values matcher owner range), ?_⟩
          rw [trie, trieOf_claimOne]
          by_cases family : range.isV4 = v4
          · simp [family, after, Prefix.key_ofRange]
          · simp [family, Ne.symm family]

private theorem trieOf_addAll {matcher result : AddressMatcher α}
    {entries : List (α × List CidrRange)} (added : matcher.addAll entries = .ok result)
    (v4 : Bool) :
    result.trieOf v4 = (matcher.trieOf v4).after (claimsOf v4 matcher.values.size entries) := by
  induction entries generalizing matcher with
  | nil =>
      have same : matcher = result := Except.ok.inj added
      subst same
      rfl
  | cons entry entries inductionHypothesis =>
      have steps : (matcher.add entry.1 entry.2).bind (·.addAll entries) = .ok result := added
      cases claimed : matcher.add entry.1 entry.2 with
      | error cause =>
          rw [claimed] at steps
          exact absurd steps (by simp [Except.bind])
      | ok next =>
          rw [claimed] at steps
          have offered := claimed
          rw [add_eq] at offered
          obtain ⟨values, trie⟩ := trieOf_claimAll offered v4
          have size : next.values.size = matcher.values.size + 1 := by
            simp [values, offer]
          rw [inductionHypothesis steps, trie, size, claimsOf, after, after, after,
            List.foldl_append]
          rfl

/-- The tries of a table are what the claims of its entries leave. -/
theorem trieOf_ofEntries {matcher : AddressMatcher α} {entries : List (α × List CidrRange)}
    (made : ofEntries entries = .ok matcher) (v4 : Bool) :
    matcher.trieOf v4 = PrefixTrie.empty.after (claimsOf v4 0 entries) := by
  have tries := trieOf_addAll made v4
  rw [tries]
  cases v4 <;> rfl

/-- A look-up by unchecked accesses meets no fault, and the position it comes to has a value. -/
theorem seek_of_ofEntries {matcher : AddressMatcher α} {entries : List (α × List CidrRange)}
    (made : ofEntries entries = .ok matcher) (address : IpAddress) :
    ∃ outcome, (matcher.trieOf address.isV4).seek address.word address.width = .ok outcome ∧
      (∀ position, outcome = some position → position < matcher.values.size) ∧
      matcher.get? address = outcome.bind (matcher.values[·]?) := by
  have holds := holds_of_ofEntries made
  have tree := holds.trees.trieOf address.isV4
  refine ⟨(matcher.trieOf address.isV4).longestMatch address.bits, ?_, ?_, rfl⟩
  · rw [PrefixTrie.seek_eq tree address.width_le_word, IpAddress.map_word]
  · intro position found
    rw [PrefixTrie.longestMatch_eq_longestOf] at found
    obtain ⟨key, begins, owned, _⟩ := PrefixTrie.exists_of_longestOf_eq_some found
    obtain ⟨range, family, bits, _⟩ := exists_range_of_prefix begins
    rw [← bits, ownerOf_eq_of_isV4 family] at owned
    obtain ⟨entry, atPosition, _⟩ := (holds.ownerOf_iff range position).mp owned
    rw [holds.size_values]
    exact (List.getElem?_eq_some_iff.mp atPosition).1

end AddressMatcher

namespace PrefixTrie

/-- After any claims, granted or refused, the node table is a tree whose children come after their
parents, each claimed prefix has a node that no other key leads to and that carries the owner who
claimed it first, and no other node has an owner. So as long as node numbers fit into 32 bits,
neither claims nor look-ups access a node that is not there. The tries of a table of ranges come
about by such claims, and a position that a look-up in them comes to is that of a value. -/
theorem node_table_stays_a_tree (claims : List (Prefix × Nat))
    (small : (empty.after claims).nodes.size < 2 ^ 32) :
    (empty.after claims).IsTree ∧
    (∀ entry ∈ claims, ∃ index,
      (∀ key, (empty.after claims).walk 0 key = some index ↔ key = entry.1.key) ∧
      (empty.after claims).ownerAt index = firstOwner claims entry.1.key) ∧
    (∀ index owner, (empty.after claims).ownerAt index = some owner →
      ∃ entry ∈ claims, (empty.after claims).walk 0 entry.1.key = some index) ∧
    empty.afterUnchecked claims = .ok (empty.after claims) ∧
    (∀ word width, width ≤ 128 →
      (empty.after claims).seek word width =
        .ok ((empty.after claims).longestMatch ((List.range width).map word.getMsbD))) ∧
    ∀ (α : Type) (entries : List (α × List CidrRange)) (matcher : AddressMatcher α),
      AddressMatcher.ofEntries entries = .ok matcher →
      (∀ v4, matcher.trieOf v4 = empty.after (AddressMatcher.claimsOf v4 0 entries)) ∧
      ∀ address, ∃ outcome,
        (matcher.trieOf address.isV4).seek address.word address.width = .ok outcome ∧
        (∀ position, outcome = some position → position < matcher.values.size) ∧
        matcher.get? address = outcome.bind (matcher.values[·]?) := by
  have records := records_after claims
  refine ⟨records.tree, fun entry listed => records.node_of_claim listed,
    fun index owner owned => records.claim_of_node owned, afterUnchecked_eq isTree_empty small,
    fun word width fits => seek_eq records.tree fits word, ?_⟩
  intro α entries matcher made
  exact ⟨AddressMatcher.trieOf_ofEntries made, AddressMatcher.seek_of_ofEntries made⟩

/-- A network, a network inside it, and the first network once more for somebody else, who is
refused it. -/
def contendedClaims : List (Prefix × Nat) := [
  (⟨0x0A000000#128 <<< 96, 8, by decide⟩, 0),
  (⟨0x0A400000#128 <<< 96, 10, by decide⟩, 1),
  (⟨0x0A000000#128 <<< 96, 8, by decide⟩, 2)]

theorem node_table_stays_a_tree_contendedClaims :
    (empty.after contendedClaims).nodes.size = 11 ∧ (empty.after contendedClaims).IsTree ∧
      empty.afterUnchecked contendedClaims = .ok (empty.after contendedClaims) ∧
      ∃ index, (empty.after contendedClaims).ownerAt index = some 0 := by
  have size : (empty.after contendedClaims).nodes.size = 11 := by decide +kernel
  have laws := node_table_stays_a_tree contendedClaims (by rw [size]; decide)
  obtain ⟨index, _, owned⟩ := laws.2.1 contendedClaims[0] (List.getElem_mem _)
  have first : firstOwner contendedClaims contendedClaims[0].1.key = some 0 := by decide +kernel
  exact ⟨size, laws.1, laws.2.2.2.1, index, owned.trans first⟩

end PrefixTrie

end Admission.Net
