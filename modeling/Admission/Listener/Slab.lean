/-!
Contract: values in numbered slots, where a freed slot is used again before a new one is added.

Owns: which slot comes next (of the freed slots the one freed last), and the look-up, change,
removal and enumeration of values by slot.
-/

namespace Admission.Listener

/-- Values in numbered slots. -/
structure Slab (α : Type) where
  slots : List (Option α)
  /-- The empty slots, last freed first. -/
  free : List Nat
  deriving DecidableEq, Repr

namespace Slab

variable {α : Type}

/-- No slots. -/
def empty : Slab α := ⟨[], []⟩

def vacant (slab : Slab α) : Nat :=
  slab.free.head?.getD slab.slots.length

def insert (slab : Slab α) (value : α) : Slab α :=
  match slab.free with
  | slot :: free => ⟨slab.slots.set slot (some value), free⟩
  | [] => ⟨slab.slots ++ [some value], []⟩

def get? (slab : Slab α) (slot : Nat) : Option α :=
  (slab.slots[slot]?).bind id

/-- Replaces the value of a slot, if it has one. -/
def modify (slab : Slab α) (slot : Nat) (change : α → α) : Slab α :=
  { slab with slots := slab.slots.modify slot (·.map change) }

def remove (slab : Slab α) (slot : Nat) : Slab α :=
  if (slab.get? slot).isSome then ⟨slab.slots.set slot none, slot :: slab.free⟩ else slab

/-- The values, by slot. -/
def values (slab : Slab α) : List α :=
  slab.slots.filterMap id

def size (slab : Slab α) : Nat := slab.values.length

end Slab

end Admission.Listener
