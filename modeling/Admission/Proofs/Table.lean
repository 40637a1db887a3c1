import Admission.Table
import Mathlib.Data.List.Nodup

/-!
Contract: a dictionary without repeated keys is the set of its entries.

Owns:
- `Distinct`, kept by every change, the agreement of look-ups with entries and keys that follows from
  it, and the values after a change;
- `relabel`, a dictionary under other keys and with other values, and its exchange with look-ups and
  changes.
-/

namespace Admission.Table

variable {κ μ α β : Type}

/-- No key repeats. -/
def Distinct (table : Table κ α) : Prop :=
  table.keys.Nodup

theorem distinct_empty : (empty : Table κ α).Distinct :=
  List.nodup_nil

/-- The same entries under other keys and with other values. -/
def relabel (onKey : κ → μ) (onValue : α → β) (table : Table κ α) : Table μ β :=
  ⟨table.entries.map (Prod.map onKey onValue)⟩

/-- The same entries with other values. -/
def map (change : α → β) (table : Table κ α) : Table κ β := table.relabel id change

theorem keys_relabel (onKey : κ → μ) (onValue : α → β) (table : Table κ α) :
    (table.relabel onKey onValue).keys = table.keys.map onKey := by
  unfold keys relabel
  rw [List.map_map, List.map_map]
  rfl

@[simp]
theorem isEmpty_map (change : α → β) (table : Table κ α) :
    (table.map change).isEmpty = table.isEmpty :=
  List.isEmpty_map

variable [DecidableEq κ]

private theorem find_eq_none_iff {key : κ} {entries : List (κ × α)} :
    find key entries = none ↔ key ∉ entries.map (·.1) := by
  induction entries with
  | nil => simp [find]
  | cons entry rest inductionHypothesis =>
      obtain ⟨other, kept⟩ := entry
      by_cases same : other = key
      · simp [find, same]
      · simp [find, same, Ne.symm same, inductionHypothesis]

/-- A look-up gives nothing exactly for what is no key. -/
theorem get?_eq_none_iff {table : Table κ α} {key : κ} :
    table.get? key = none ↔ key ∉ table.keys :=
  find_eq_none_iff

theorem mem_of_find_eq_some {key : κ} {value : α} {entries : List (κ × α)}
    (found : find key entries = some value) : (key, value) ∈ entries := by
  induction entries with
  | nil => exact absurd found (by simp [find])
  | cons entry rest inductionHypothesis =>
      obtain ⟨other, kept⟩ := entry
      by_cases same : other = key
      · rw [find, if_pos same] at found
        rw [same, Option.some.inj found]
        exact List.mem_cons_self
      · rw [find, if_neg same] at found
        exact List.mem_cons_of_mem _ (inductionHypothesis found)

theorem find_eq_some_of_mem {key : κ} {value : α} {entries : List (κ × α)}
    (distinct : (entries.map (·.1)).Nodup) (member : (key, value) ∈ entries) :
    find key entries = some value := by
  induction entries with
  | nil => exact absurd member (by simp)
  | cons entry rest inductionHypothesis =>
      obtain ⟨other, kept⟩ := entry
      rw [List.map_cons, List.nodup_cons] at distinct
      rcases List.mem_cons.mp member with here | later
      · obtain ⟨rfl, rfl⟩ := Prod.mk.inj here
        simp [find]
      · have elsewhere : other ≠ key := by
          intro same
          rw [same] at distinct
          exact distinct.1 (List.mem_map.mpr ⟨_, later, rfl⟩)
        rw [find, if_neg elsewhere]
        exact inductionHypothesis distinct.2 later

/-- A look-up in a dictionary without repeated keys gives its entries. -/
theorem Distinct.mem_entries_iff {table : Table κ α} (distinct : table.Distinct) {key : κ}
    {value : α} : (key, value) ∈ table.entries ↔ table.get? key = some value :=
  ⟨find_eq_some_of_mem distinct, mem_of_find_eq_some⟩

private theorem map_fst_put (key : κ) (value : α) (entries : List (κ × α)) :
    (put key value entries).map (·.1) =
      if key ∈ entries.map (·.1) then entries.map (·.1) else entries.map (·.1) ++ [key] := by
  induction entries with
  | nil => simp [put]
  | cons entry rest inductionHypothesis =>
      obtain ⟨other, kept⟩ := entry
      by_cases same : other = key
      · simp [put, same]
      · by_cases later : key ∈ rest.map (·.1)
        · simp only [put, if_neg same, List.map_cons, inductionHypothesis, if_pos later]
          rw [if_pos (List.mem_cons_of_mem _ later)]
        · simp only [put, if_neg same, List.map_cons, inductionHypothesis, if_neg later]
          rw [if_neg (by simpa [Ne.symm same] using later), List.cons_append]

private theorem keys_insert (table : Table κ α) (key : κ) (value : α) :
    (table.insert key value).keys =
      if key ∈ table.keys then table.keys else table.keys ++ [key] :=
  map_fst_put key value table.entries

theorem Distinct.insert {table : Table κ α} (distinct : table.Distinct) (key : κ) (value : α) :
    (table.insert key value).Distinct := by
  unfold Distinct
  rw [keys_insert]
  split
  · exact distinct
  · rename_i fresh
    rw [← List.concat_eq_append]
    exact List.Nodup.concat fresh distinct

private theorem filter_put (key : κ) (value : α) (entries : List (κ × α)) :
    (put key value entries).filter (fun entry => entry.1 ≠ key) =
      entries.filter fun entry => entry.1 ≠ key := by
  induction entries with
  | nil => simp [put]
  | cons entry rest inductionHypothesis =>
      obtain ⟨other, kept⟩ := entry
      by_cases same : other = key
      · simp [put, same]
      · simpa [put, same] using inductionHypothesis

private theorem erase_insert (table : Table κ α) (key : κ) (value : α) :
    (table.insert key value).erase key = table.erase key :=
  congrArg Table.mk (filter_put key value table.entries)

theorem erase_of_absent {table : Table κ α} {key : κ} (absent : table.get? key = none) :
    table.erase key = table := by
  unfold erase
  rw [List.filter_eq_self.mpr]
  intro entry listed
  rw [decide_eq_true_eq]
  intro same
  exact get?_eq_none_iff.mp absent (List.mem_map.mpr ⟨entry, listed, same⟩)

omit [DecidableEq κ] in
theorem Distinct.filter {table : Table κ α} (distinct : table.Distinct) (keep : κ × α → Bool) :
    (⟨table.entries.filter keep⟩ : Table κ α).Distinct :=
  List.Nodup.sublist (List.Sublist.map Prod.fst List.filter_sublist) distinct

theorem Distinct.erase {table : Table κ α} (distinct : table.Distinct) (key : κ) :
    (table.erase key).Distinct :=
  distinct.filter _

/-- A look-up among some of the entries. -/
theorem Distinct.get?_filter {table : Table κ α} (distinct : table.Distinct) {keep : κ × α → Bool}
    {key : κ} {value : α} :
    (⟨table.entries.filter keep⟩ : Table κ α).get? key = some value ↔
      table.get? key = some value ∧ keep (key, value) = true := by
  rw [← (distinct.filter keep).mem_entries_iff, List.mem_filter, distinct.mem_entries_iff]

/-- A key's entry apart from the others. -/
theorem perm_filter_of_mem {key : κ} {value : α} {entries : List (κ × α)}
    (distinct : (entries.map (·.1)).Nodup) (member : (key, value) ∈ entries) :
    entries.Perm ((key, value) :: entries.filter fun entry => entry.1 ≠ key) := by
  induction entries with
  | nil => exact absurd member List.not_mem_nil
  | cons entry rest inductionHypothesis =>
      rw [List.map_cons, List.nodup_cons] at distinct
      by_cases same : entry.1 = key
      · have others : rest.filter (fun entry => entry.1 ≠ key) = rest := by
          rw [List.filter_eq_self]
          intro other listed
          rw [decide_eq_true_eq, ← same]
          exact fun again => distinct.1 (List.mem_map.mpr ⟨other, listed, again⟩)
        rcases List.mem_cons.mp member with here | later
        · rw [List.filter_cons_of_neg (by simpa using same), others, here]
        · exact absurd (List.mem_map.mpr ⟨_, later, same.symm⟩) distinct.1
      · have later : (key, value) ∈ rest := by
          rcases List.mem_cons.mp member with here | later
          · exact absurd (congrArg (·.1) here).symm same
          · exact later
        rw [List.filter_cons_of_pos (by simpa using same)]
        exact ((inductionHypothesis distinct.2 later).cons entry).trans (.swap _ _ _)

theorem Distinct.values_erase {table : Table κ α} (distinct : table.Distinct) {key : κ} {value : α}
    (found : table.get? key = some value) :
    table.values.Perm (value :: (table.erase key).values) :=
  (perm_filter_of_mem distinct (distinct.mem_entries_iff.mpr found)).map Prod.snd

theorem Distinct.values_insert {table : Table κ α} (distinct : table.Distinct) (key : κ)
    (value : α) : (table.insert key value).values.Perm (value :: (table.erase key).values) := by
  have found : (table.insert key value).get? key = some value := by
    rw [get?_insert, if_pos rfl]
  have apart := (distinct.insert key value).values_erase found
  rw [erase_insert] at apart
  exact apart

/-! ## Other keys and values -/

section Relabel

variable {onKey : κ → μ} {onValue : α → β} [DecidableEq μ] (injective : Function.Injective onKey)

include injective

private theorem find_map (key : κ) (entries : List (κ × α)) :
    find (onKey key) (entries.map (Prod.map onKey onValue)) = (find key entries).map onValue := by
  induction entries with
  | nil => rfl
  | cons entry rest inductionHypothesis =>
      obtain ⟨other, kept⟩ := entry
      rw [List.map_cons, Prod.map_apply]
      by_cases same : other = key
      · simp [find, same]
      · have different : onKey other ≠ onKey key := fun equal => same (injective equal)
        simp [find, same, different, inductionHypothesis]

theorem get?_relabel (table : Table κ α) (key : κ) :
    (table.relabel onKey onValue).get? (onKey key) = (table.get? key).map onValue :=
  find_map injective key table.entries

private theorem put_map (key : κ) (value : α) (entries : List (κ × α)) :
    put (onKey key) (onValue value) (entries.map (Prod.map onKey onValue)) =
      (put key value entries).map (Prod.map onKey onValue) := by
  induction entries with
  | nil => rfl
  | cons entry rest inductionHypothesis =>
      obtain ⟨other, kept⟩ := entry
      rw [List.map_cons, Prod.map_apply]
      by_cases same : other = key
      · simp [put, same]
      · have different : onKey other ≠ onKey key := fun equal => same (injective equal)
        simp [put, same, different, inductionHypothesis]

theorem insert_relabel (table : Table κ α) (key : κ) (value : α) :
    (table.relabel onKey onValue).insert (onKey key) (onValue value) =
      (table.insert key value).relabel onKey onValue := by
  unfold insert relabel
  rw [put_map injective]

theorem erase_relabel (table : Table κ α) (key : κ) :
    (table.relabel onKey onValue).erase (onKey key) =
      (table.erase key).relabel onKey onValue := by
  unfold erase relabel
  rw [List.filter_map]
  congr 2
  apply List.filter_congr
  intro entry _
  simp [injective.eq_iff]

end Relabel

omit [DecidableEq κ] in
/-- A key that no entry is given has no value. -/
theorem get?_relabel_of_forall_ne [DecidableEq μ] {onKey : κ → μ} {onValue : α → β} {key : μ}
    (unused : ∀ other, onKey other ≠ key) (table : Table κ α) :
    (table.relabel onKey onValue).get? key = none := by
  rw [get?_eq_none_iff, keys_relabel]
  intro listed
  obtain ⟨other, _, same⟩ := List.mem_map.mp listed
  exact unused other same

section Map

variable (change : α → β) (table : Table κ α)

@[simp]
theorem get?_map (key : κ) : (table.map change).get? key = (table.get? key).map change :=
  get?_relabel Function.injective_id table key

theorem insert_map (key : κ) (value : α) :
    (table.map change).insert key (change value) = (table.insert key value).map change :=
  insert_relabel Function.injective_id table key value

end Map

end Admission.Table
