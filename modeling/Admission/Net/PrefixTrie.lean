/-!
Contract: a binary trie over bit strings, kept as a growing table of nodes.

Owns:
- walking along a key and creating the missing nodes;
- claiming a key for an owner, which fails when another owner has it;
- the owner of the longest key that begins a given bit string.

Node 0 is the root. New nodes go to the end of the table, so a child always has a greater number
than its parent.
-/

namespace Admission.Net

/-- One node: where the walk goes on by the next bit, and who owns the key that ends here. -/
structure TrieNode where
  onFalse : Option Nat
  onTrue : Option Nat
  owner : Option Nat
  deriving DecidableEq, Repr, Inhabited

namespace TrieNode

/-- A node without children or owner. -/
def leaf : TrieNode := ⟨none, none, none⟩

def child (node : TrieNode) (bit : Bool) : Option Nat :=
  if bit then node.onTrue else node.onFalse

def withChild (node : TrieNode) (bit : Bool) (target : Nat) : TrieNode :=
  if bit then { node with onTrue := some target } else { node with onFalse := some target }

end TrieNode

structure PrefixTrie where
  nodes : Array TrieNode
  deriving DecidableEq, Repr

namespace PrefixTrie

/-- The trie that holds nothing: a root alone. -/
def empty : PrefixTrie := ⟨#[.leaf]⟩

def node? (trie : PrefixTrie) (index : Nat) : Option TrieNode :=
  trie.nodes[index]?

/-- Follows a bit from a node, creating the child if it is missing. -/
def descend (trie : PrefixTrie) (index : Nat) (bit : Bool) : PrefixTrie × Nat :=
  match (trie.node? index).bind (·.child bit) with
  | some next => (trie, next)
  | none =>
      let next := trie.nodes.size
      (⟨(trie.nodes.modify index (·.withChild bit next)).push .leaf⟩, next)

/-- Follows a key from a node, creating what is missing. -/
def reach (trie : PrefixTrie) (index : Nat) : (key : List Bool) → PrefixTrie × Nat
  | [] => (trie, index)
  | bit :: key =>
      let (trie, next) := trie.descend index bit
      trie.reach next key

/-- The outcome of claiming a key. -/
inductive Claim where
  | granted
  | takenBy (owner : Nat)
  deriving DecidableEq, Repr

/-- Claims a key for an owner. A key that another owner has stays with it; the nodes on the way to
it are there afterwards in either case. -/
def insert (trie : PrefixTrie) (key : List Bool) (owner : Nat) : PrefixTrie × Claim :=
  let (trie, index) := trie.reach 0 key
  match (trie.node? index).bind (·.owner) with
  | some existing =>
      if existing = owner then (trie, .granted) else (trie, .takenBy existing)
  | none => (⟨trie.nodes.modify index ({ · with owner := some owner })⟩, .granted)

/-- The owner of the longest key that begins `bits`, below a node; `best` if there is none. -/
def longestFrom (trie : PrefixTrie) (index : Nat) (best : Option Nat) : (bits : List Bool) → Option Nat
  | [] => best
  | bit :: bits =>
      match (trie.node? index).bind (·.child bit) with
      | some next =>
          trie.longestFrom next (((trie.node? next).bind (·.owner)).or best) bits
      | none => best

def longestMatch (trie : PrefixTrie) (bits : List Bool) : Option Nat :=
  trie.longestFrom 0 ((trie.node? 0).bind (·.owner)) bits

end PrefixTrie

end Admission.Net
