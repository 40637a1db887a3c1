import Admission.Net.Cidr
import Admission.Net.PrefixTrie

/-!
Contract: a read-only table from ranges of addresses to values, answering with the value of the
most specific range that holds an address.

Owns: the building of the table from entries, each a value with the ranges it covers, and the
look-up. A range may be claimed by one entry only, as often as it likes.
-/

namespace Admission.Net

/-- A table of values keyed by ranges. A value is known by its position in `values`. -/
structure AddressMatcher (α : Type) where
  values : Array α
  v4 : PrefixTrie
  v6 : PrefixTrie

namespace AddressMatcher

variable {α : Type}

/-- The table without entries. -/
def empty : AddressMatcher α := ⟨#[], .empty, .empty⟩

/-- Claims ranges, in order, for the value at a position; the first range that another value has
is the error. -/
def claimAll (matcher : AddressMatcher α) (owner : Nat) :
    List CidrRange → Except RangeError (AddressMatcher α)
  | [] => .ok matcher
  | range :: ranges =>
      let (trie, claim) :=
        (if range.isV4 then matcher.v4 else matcher.v6).insert range.networkBits owner
      match claim with
      | .takenBy _ => .error (.claimedTwice range.text)
      | .granted =>
          let matcher := if range.isV4 then { matcher with v4 := trie } else { matcher with v6 := trie }
          matcher.claimAll owner ranges

def add (matcher : AddressMatcher α) (value : α) (ranges : List CidrRange) :
    Except RangeError (AddressMatcher α) :=
  { matcher with values := matcher.values.push value }.claimAll matcher.values.size ranges

/-- Adds entries in order. -/
def addAll (matcher : AddressMatcher α) :
    List (α × List CidrRange) → Except RangeError (AddressMatcher α)
  | [] => .ok matcher
  | (value, ranges) :: entries => do (← matcher.add value ranges).addAll entries

def ofEntries (entries : List (α × List CidrRange)) : Except RangeError (AddressMatcher α) :=
  empty.addAll entries

/-- The value of the most specific range that holds the address. -/
def get? (matcher : AddressMatcher α) (address : IpAddress) : Option α :=
  let trie := if address.isV4 then matcher.v4 else matcher.v6
  (trie.longestMatch address.bits).bind fun owner => matcher.values[owner]?

def size (matcher : AddressMatcher α) : Nat :=
  matcher.values.size

end AddressMatcher

end Admission.Net
