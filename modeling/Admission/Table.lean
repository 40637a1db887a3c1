/-!
Contract: finite dictionaries that keep the order in which their keys came.

Owns: look-up, change of one entry, and the laws that say what a look-up sees after a change.
-/

namespace Admission

/-- A dictionary as its entries, in the order in which the keys came. -/
structure Table (κ α : Type) where
  entries : List (κ × α)
  deriving DecidableEq, Repr

namespace Table

variable {κ α β : Type}

/-- The dictionary without entries. -/
def empty : Table κ α := ⟨[]⟩

instance : Inhabited (Table κ α) := ⟨empty⟩

def size (table : Table κ α) : Nat := table.entries.length

def isEmpty (table : Table κ α) : Bool := table.entries.isEmpty

/-- The keys, in order. -/
def keys (table : Table κ α) : List κ := table.entries.map (·.1)

/-- The values, in order. -/
def values (table : Table κ α) : List α := table.entries.map (·.2)

variable [DecidableEq κ]

/-- The first value of a key in a list of entries. -/
def find (key : κ) : List (κ × α) → Option α
  | [] => none
  | (other, value) :: rest => if other = key then some value else find key rest

def get? (table : Table κ α) (key : κ) : Option α := find key table.entries

def contains (table : Table κ α) (key : κ) : Bool := (table.get? key).isSome

/-- Replaces the value of a key in a list of entries, or adds the key at the end. -/
def put (key : κ) (value : α) : List (κ × α) → List (κ × α)
  | [] => [(key, value)]
  | (other, kept) :: rest =>
      if other = key then (other, value) :: rest else (other, kept) :: put key value rest

def insert (table : Table κ α) (key : κ) (value : α) : Table κ α := ⟨put key value table.entries⟩

/-- Takes a key out. -/
def erase (table : Table κ α) (key : κ) : Table κ α :=
  ⟨table.entries.filter fun entry => entry.1 ≠ key⟩

theorem find_put_self (key : κ) (value : α) (entries : List (κ × α)) :
    find key (put key value entries) = some value := by
  induction entries with
  | nil => simp [put, find]
  | cons entry rest inductionHypothesis =>
      obtain ⟨other, kept⟩ := entry
      by_cases same : other = key <;> simp [put, find, same, inductionHypothesis]

theorem find_put_of_ne {key other : κ} (distinct : other ≠ key) (value : α)
    (entries : List (κ × α)) :
    find other (put key value entries) = find other entries := by
  induction entries with
  | nil => simp [put, find, distinct.symm]
  | cons entry rest inductionHypothesis =>
      obtain ⟨head, kept⟩ := entry
      by_cases same : head = key
      · subst same
        simp [put, find, distinct.symm]
      · by_cases hit : head = other
        · subst hit; simp [put, find, same]
        · simp [put, find, same, hit, inductionHypothesis]

@[simp]
theorem get?_empty (key : κ) : (empty : Table κ α).get? key = none := rfl

/-- A look-up after giving a key a value. -/
theorem get?_insert (table : Table κ α) (key other : κ) (value : α) :
    (table.insert key value).get? other = if other = key then some value else table.get? other := by
  by_cases same : other = key
  · subst same
    simp [insert, get?, find_put_self]
  · simp [insert, get?, find_put_of_ne same, same]

theorem find_filter_ne (key other : κ) (entries : List (κ × α)) :
    find other (entries.filter fun entry => entry.1 ≠ key) =
      if other = key then none else find other entries := by
  induction entries with
  | nil => simp [find]
  | cons entry rest inductionHypothesis =>
      obtain ⟨head, kept⟩ := entry
      simp only [List.filter_cons]
      by_cases same : head = key
      · subst same
        by_cases hit : other = head
        · subst hit; simpa [find] using inductionHypothesis
        · simpa [find, hit, Ne.symm hit] using inductionHypothesis
      · by_cases hit : head = other
        · subst hit; simp [find, same]
        · simpa [find, same, hit] using inductionHypothesis

/-- A look-up after taking a key out. -/
theorem get?_erase (table : Table κ α) (key other : κ) :
    (table.erase key).get? other = if other = key then none else table.get? other :=
  find_filter_ne key other table.entries

end Table

end Admission
