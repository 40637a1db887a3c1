import Admission.Listener.Slab
import Mathlib.Data.List.Nodup

/-!
Contract: look-ups in a slab after each of its changes.

Owns:
- `Slab.Sound`, that the free slots are empty and each listed once, which every change keeps; without
  it, an insertion could land on a value;
- `Slab.map`, the same slots with other values, and its exchange with look-ups and changes.
-/

namespace Admission.Listener.Slab

variable {α : Type}

/-- The free slots are empty, and none is listed twice. -/
structure Sound (slab : Slab α) : Prop where
  distinct : slab.free.Nodup
  vacant : ∀ slot ∈ slab.free, slab.slots[slot]? = some none

theorem sound_empty : (Slab.empty : Slab α).Sound where
  distinct := .nil
  vacant := by simp [Slab.empty]

@[simp]
theorem get?_empty (slot : Nat) : (Slab.empty : Slab α).get? slot = none := rfl

private theorem get?_eq_some_iff {slab : Slab α} {slot : Nat} {value : α} :
    slab.get? slot = some value ↔ slab.slots[slot]? = some (some value) := by
  rw [get?, Option.bind_eq_some_iff]
  constructor
  · rintro ⟨entry, found, rfl⟩
    exact found
  · intro found
    exact ⟨some value, found, rfl⟩

/-- The next slot has no value. -/
theorem Sound.get?_vacant {slab : Slab α} (sound : slab.Sound) : slab.get? slab.vacant = none := by
  unfold get? Slab.vacant
  cases shape : slab.free with
  | nil => simp
  | cons slot free =>
      have empty := sound.vacant slot (by rw [shape]; exact List.mem_cons_self)
      simp [empty]

/-! ## Insertion -/

theorem Sound.get?_insert {slab : Slab α} (sound : slab.Sound) (value : α) (slot : Nat) :
    (slab.insert value).get? slot = if slot = slab.vacant then some value else slab.get? slot := by
  unfold get? insert Slab.vacant
  cases shape : slab.free with
  | nil =>
      dsimp only
      rw [List.head?_nil, Option.getD_none, List.getElem?_append]
      by_cases inside : slot < slab.slots.length
      · rw [if_pos inside, if_neg (Nat.ne_of_lt inside)]
      · rw [if_neg inside]
        by_cases here : slot = slab.slots.length
        · simp [here]
        · rw [if_neg here, List.getElem?_eq_none (Nat.le_of_not_lt inside),
            List.getElem?_eq_none (by simp only [List.length_singleton]; omega)]
  | cons first free =>
      dsimp only
      rw [List.head?_cons, Option.getD_some, List.getElem?_set]
      have empty := sound.vacant first (by rw [shape]; exact List.mem_cons_self)
      have inside : first < slab.slots.length := (List.getElem?_eq_some_iff.mp empty).1
      by_cases here : first = slot
      · rw [if_pos here, if_pos inside, if_pos here.symm]
        rfl
      · rw [if_neg here, if_neg (Ne.symm here)]

theorem Sound.insert {slab : Slab α} (sound : slab.Sound) (value : α) :
    (slab.insert value).Sound := by
  unfold Slab.insert
  cases shape : slab.free with
  | nil => exact ⟨.nil, by simp⟩
  | cons first free =>
      have distinct := sound.distinct
      rw [shape, List.nodup_cons] at distinct
      refine ⟨distinct.2, ?_⟩
      intro slot listed
      have elsewhere : first ≠ slot := fun same => distinct.1 (same ▸ listed)
      dsimp only
      rw [List.getElem?_set_ne elsewhere]
      exact sound.vacant slot (by rw [shape]; exact List.mem_cons_of_mem _ listed)

/-! ## Removal -/

theorem get?_remove (slab : Slab α) (freed slot : Nat) :
    (slab.remove freed).get? slot = if slot = freed then none else slab.get? slot := by
  unfold remove
  split
  · unfold get?
    dsimp only
    rw [List.getElem?_set]
    by_cases here : freed = slot
    · rw [if_pos here, if_pos here.symm]
      split <;> rfl
    · rw [if_neg here, if_neg (Ne.symm here)]
  · rename_i absent
    split
    · rename_i here
      rw [here]
      exact Option.not_isSome_iff_eq_none.mp absent
    · rfl

theorem Sound.remove {slab : Slab α} (sound : slab.Sound) (freed : Nat) :
    (slab.remove freed).Sound := by
  unfold Slab.remove
  split
  · rename_i present
    obtain ⟨value, found⟩ := Option.isSome_iff_exists.mp present
    have filled := get?_eq_some_iff.mp found
    have inside : freed < slab.slots.length := (List.getElem?_eq_some_iff.mp filled).1
    refine ⟨List.nodup_cons.mpr ⟨?_, sound.distinct⟩, ?_⟩
    · intro listed
      exact absurd ((sound.vacant freed listed).symm.trans filled) (by simp)
    · intro slot listed
      dsimp only
      rw [List.getElem?_set]
      split
      · rfl
      · rename_i elsewhere
        rcases List.mem_cons.mp listed with here | earlier
        · exact absurd here.symm elsewhere
        · exact sound.vacant slot earlier
  · exact sound

/-! ## Change -/

section Change

variable (slab : Slab α) (slot : Nat) (change : α → α)

theorem get?_modify (other : Nat) :
    (slab.modify slot change).get? other =
      if other = slot then (slab.get? other).map change else slab.get? other := by
  unfold get? modify
  dsimp only
  rw [List.getElem?_modify]
  by_cases here : slot = other
  · rw [if_pos here.symm, here]
    cases slab.slots[other]? with
    | none => rfl
    | some entry => simp
  · rw [if_neg (Ne.symm here)]
    simp [here]

/-- A change shows only in what it does to the value of its slot. -/
theorem map_slots_modify {β : Type} {view : α → β}
    (same : ∀ value, slab.get? slot = some value → view (change value) = view value) :
    (slab.modify slot change).slots.map (Option.map view) = slab.slots.map (Option.map view) := by
  refine List.ext_getElem? fun other => ?_
  unfold modify
  dsimp only
  rw [List.getElem?_map, List.getElem?_map, List.getElem?_modify]
  by_cases here : slot = other
  · subst here
    cases held : slab.slots[slot]? with
    | none => rfl
    | some entry =>
        cases entry with
        | none => simp
        | some value => simp [same value (get?_eq_some_iff.mpr held)]
  · simp [here]

theorem modify_of_fixed
    (fixed : ∀ value, slab.get? slot = some value → change value = value) :
    slab.modify slot change = slab := by
  have slots : (slab.modify slot change).slots.map (Option.map id) =
      slab.slots.map (Option.map id) := slab.map_slots_modify slot change fixed
  rw [Option.map_id, List.map_id, List.map_id] at slots
  exact congrArg (Slab.mk · slab.free) slots

theorem remove_modify : (slab.modify slot change).remove slot = slab.remove slot := by
  unfold remove
  rw [get?_modify, if_pos rfl, Option.isSome_map]
  split
  · unfold modify
    dsimp only
    congr 1
    refine List.ext_getElem? fun other => ?_
    rw [List.getElem?_set, List.getElem?_set, List.getElem?_modify, List.length_modify]
    by_cases here : slot = other
    · rw [if_pos here, if_pos here]
    · simp [here]
  · rename_i absent
    apply modify_of_fixed
    intro value found
    rw [found] at absent
    exact absurd rfl absent

variable {slab}

theorem Sound.modify (sound : slab.Sound) : (slab.modify slot change).Sound where
  distinct := sound.distinct
  vacant := by
    intro free listed
    have empty := sound.vacant free listed
    unfold Slab.modify
    dsimp only
    rw [List.getElem?_modify, empty]
    simp

end Change

/-! ## Enumeration -/

theorem mem_values_iff {slab : Slab α} {value : α} :
    value ∈ slab.values ↔ ∃ slot, slab.get? slot = some value := by
  unfold values
  rw [List.mem_filterMap]
  constructor
  · rintro ⟨entry, listed, rfl⟩
    obtain ⟨slot, found⟩ := List.mem_iff_getElem?.mp listed
    exact ⟨slot, get?_eq_some_iff.mpr found⟩
  · rintro ⟨slot, found⟩
    exact ⟨some value, List.mem_iff_getElem?.mpr ⟨slot, get?_eq_some_iff.mp found⟩, rfl⟩

private theorem filterMap_slots_increasing (slotOf : α → Nat) (slots : List (Option α))
    (offset : Nat)
    (placed : ∀ slot value, slots[slot]? = some (some value) → slotOf value = offset + slot) :
    ((slots.filterMap id).map slotOf).Pairwise (· < ·) ∧
      ∀ value ∈ slots.filterMap id, offset ≤ slotOf value := by
  induction slots generalizing offset with
  | nil => simp
  | cons entry rest inductionHypothesis =>
      obtain ⟨increasing, atLeast⟩ := inductionHypothesis (offset + 1) (by
        intro slot value held
        rw [placed (slot + 1) value held]
        omega)
      cases entry with
      | none =>
          rw [List.filterMap_cons_none rfl]
          exact ⟨increasing, fun value listed => by have := atLeast value listed; omega⟩
      | some value =>
          have here : slotOf value = offset := placed 0 value rfl
          have split : (some value :: rest).filterMap id = value :: rest.filterMap id := rfl
          rw [split, List.map_cons, List.pairwise_cons]
          refine ⟨⟨?_, increasing⟩, ?_⟩
          · intro slot listed
            obtain ⟨other, otherListed, rfl⟩ := List.mem_map.mp listed
            have := atLeast other otherListed
            omega
          · intro other listed
            rcases List.mem_cons.mp listed with rfl | later
            · omega
            · have := atLeast other later
              omega

/-- Values that know their slots are listed in the order of these. -/
theorem values_nodup (slab : Slab α) (slotOf : α → Nat)
    (placed : ∀ slot value, slab.get? slot = some value → slotOf value = slot) :
    (slab.values.map slotOf).Nodup := by
  have increasing := (filterMap_slots_increasing slotOf slab.slots 0 (by
    intro slot value held
    rw [placed slot value (get?_eq_some_iff.mpr held), Nat.zero_add])).1
  exact increasing.imp Nat.ne_of_lt

theorem size_eq_zero_iff {slab : Slab α} : slab.size = 0 ↔ ∀ slot, slab.get? slot = none := by
  unfold size
  rw [List.length_eq_zero_iff, List.eq_nil_iff_forall_not_mem]
  constructor
  · intro none slot
    cases found : slab.get? slot with
    | none => rfl
    | some value => exact absurd (mem_values_iff.mpr ⟨slot, found⟩) (none value)
  · intro empty value listed
    obtain ⟨slot, found⟩ := mem_values_iff.mp listed
    exact absurd ((empty slot).symm.trans found) (by simp)

/-! ## Enumeration after a change -/

/-- A slot apart from the others. -/
theorem perm_of_slot {slots : List (Option α)} {slot : Nat} (inside : slot < slots.length)
    (entry : Option α) :
    ((slots.set slot entry).filterMap id).Perm
      (entry.toList ++ (slots.take slot ++ slots.drop (slot + 1)).filterMap id) := by
  have parts : (slots.set slot entry).filterMap id =
      (slots.take slot).filterMap id ++
        (entry.toList ++ (slots.drop (slot + 1)).filterMap id) := by
    rw [List.set_eq_take_append_cons_drop, if_pos inside, List.filterMap_append]
    cases entry with
    | none => rfl
    | some value => rfl
  rw [parts, List.filterMap_append, ← List.append_assoc, ← List.append_assoc]
  exact List.perm_append_comm.append_right _

/-- An insertion adds its value. -/
theorem Sound.values_insert {slab : Slab α} (sound : slab.Sound) (value : α) :
    (slab.insert value).values.Perm (value :: slab.values) := by
  unfold Slab.insert Slab.values
  cases shape : slab.free with
  | nil =>
      dsimp only
      rw [List.filterMap_append]
      exact List.perm_append_comm
  | cons first free =>
      have empty := sound.vacant first (by rw [shape]; exact List.mem_cons_self)
      obtain ⟨inside, vacant⟩ := List.getElem?_eq_some_iff.mp empty
      have before := perm_of_slot inside none
      rw [← vacant, List.set_getElem_self, vacant] at before
      exact (perm_of_slot inside (some value)).trans (before.symm.cons value)

/-- A removal takes away the value of its slot. -/
theorem values_remove {slab : Slab α} {slot : Nat} {value : α}
    (found : slab.get? slot = some value) :
    slab.values.Perm (value :: (slab.remove slot).values) := by
  obtain ⟨inside, held⟩ := List.getElem?_eq_some_iff.mp (get?_eq_some_iff.mp found)
  have before := perm_of_slot inside (some value)
  rw [← held, List.set_getElem_self, held] at before
  unfold remove values
  rw [if_pos (by rw [found]; rfl)]
  exact before.trans ((perm_of_slot inside none).symm.cons value)

private theorem filterMap_set_none_sublist (slots : List (Option α)) (slot : Nat) :
    ((slots.set slot none).filterMap id).Sublist (slots.filterMap id) := by
  induction slots generalizing slot with
  | nil => simp
  | cons entry slots inductionHypothesis =>
      cases slot with
      | zero => cases entry <;> simp
      | succ slot => cases entry <;> simpa using inductionHypothesis slot

/-- The removal of the first value leaves the others as they are. -/
theorem values_remove_first {slab : Slab α} {slotOf : α → Nat}
    (placed : ∀ slot value, slab.get? slot = some value → slotOf value = slot)
    {value : α} {values : List α} (listed : slab.values = value :: values) :
    (slab.remove (slotOf value)).values = values := by
  have first : value ∈ slab.values := by simp [listed]
  obtain ⟨slot, found⟩ := mem_values_iff.mp first
  rw [← placed slot value found] at found
  have moved := values_remove found
  rw [listed] at moved
  have same := moved.cons_inv
  have distinct := (values_nodup slab slotOf placed).of_map
  rw [listed, List.nodup_cons] at distinct
  have within : (slab.remove (slotOf value)).values.Sublist (value :: values) := by
    have removed := filterMap_set_none_sublist slab.slots (slotOf value)
    have occupied : (slab.get? (slotOf value)).isSome = true := by simp [found]
    rw [← listed, Slab.remove, if_pos occupied]
    exact removed
  cases List.sublist_cons_iff.mp within with
  | inl sublist => exact sublist.eq_of_length same.length_eq.symm
  | inr again =>
      obtain ⟨rest, shape, _⟩ := again
      have kept : value ∈ (slab.remove (slotOf value)).values := by simp [shape]
      exact absurd (same.mem_iff.mpr kept) distinct.1

/-- What a change of a value keeps is listed as before. -/
theorem map_values_modify {β : Type} {slab : Slab α} {slot : Nat} {change : α → α} {view : α → β}
    (same : ∀ value, slab.get? slot = some value → view (change value) = view value) :
    (slab.modify slot change).values.map view = slab.values.map view := by
  have listed := congrArg (List.filterMap id) (slab.map_slots_modify slot change same)
  rw [List.filterMap_map, List.filterMap_map] at listed
  unfold values
  rw [List.map_filterMap, List.map_filterMap]
  exact listed

theorem Sound.size_insert {slab : Slab α} (sound : slab.Sound) (value : α) :
    (slab.insert value).size = slab.size + 1 :=
  (sound.values_insert value).length_eq

theorem size_remove {slab : Slab α} {slot : Nat} {value : α}
    (found : slab.get? slot = some value) : slab.size = (slab.remove slot).size + 1 :=
  (values_remove found).length_eq

theorem size_modify (slab : Slab α) (slot : Nat) (change : α → α) :
    (slab.modify slot change).size = slab.size := by
  have marks : (slab.modify slot change).values.map (fun _ => ()) = slab.values.map fun _ => () :=
    map_values_modify fun _ _ => rfl
  have counted := congrArg List.length marks
  rw [List.length_map, List.length_map] at counted
  exact counted

/-! ## Other values -/

/-- The same slots with other values. -/
def map {β : Type} (change : α → β) (slab : Slab α) : Slab β :=
  ⟨slab.slots.map (Option.map change), slab.free⟩

section Map

variable {β : Type} (change : α → β) (slab : Slab α)

theorem vacant_map : (slab.map change).vacant = slab.vacant := by
  unfold vacant map
  dsimp only
  rw [List.length_map]

theorem insert_map (value : α) :
    (slab.map change).insert (change value) = (slab.insert value).map change := by
  unfold insert map
  dsimp only
  cases slab.free with
  | nil =>
      dsimp only
      rw [List.map_append]
      rfl
  | cons slot free =>
      dsimp only
      rw [List.map_set]
      rfl

theorem get?_map (slot : Nat) : (slab.map change).get? slot = (slab.get? slot).map change := by
  unfold get? map
  dsimp only
  rw [List.getElem?_map]
  cases slab.slots[slot]? with
  | none => rfl
  | some entry => rfl

theorem remove_map (slot : Nat) : (slab.map change).remove slot = (slab.remove slot).map change := by
  unfold remove
  rw [get?_map, Option.isSome_map]
  split
  · unfold map
    dsimp only
    rw [List.map_set]
    rfl
  · rfl

theorem values_map : (slab.map change).values = slab.values.map change := by
  unfold values map
  dsimp only
  rw [List.filterMap_map, List.map_filterMap]
  rfl

theorem size_map : (slab.map change).size = slab.size := by
  unfold size
  rw [values_map, List.length_map]

end Map

end Admission.Listener.Slab
