import Admission.Json.Decode
import Admission.Proofs.Except
import Admission.Proofs.Json.Sameness

/-!
Contract: what holds of everything that is read.

Owns:
- `ordered_anyFrom`: every value that is read is ordered;
- `Decoder.record_keeps`: what holds of a record's default and is kept by each of its fields holds of
  every record that is read.
-/

namespace Admission.Json

/-! ## Values -/

mutual

/-- Every value that is read is ordered. -/
theorem ordered_anyFrom (draft : Draft) {origin : Origin} {value : Value}
    (read : Decoder.anyFrom origin draft = .ok value) : value.Ordered := by
  match draft with
  | .null =>
      rw [← Except.ok.inj read]
      exact .null
  | .bool b =>
      rw [← Except.ok.inj read]
      exact .bool b
  | .number (.ok n) =>
      rw [← Except.ok.inj read]
      exact .number n
  | .number (.error fault) => exact absurd read (by simp [Decoder.anyFrom, ofFault, bind, Except.bind])
  | .string (.ok s) =>
      rw [← Except.ok.inj read]
      exact .string s
  | .string (.error fault) => exact absurd read (by simp [Decoder.anyFrom, ofFault, bind, Except.bind])
  | .array items close =>
      unfold Decoder.anyFrom at read
      obtain ⟨inner, _, read⟩ := bind_eq_ok_iff.mp read
      obtain ⟨values, readItems, read⟩ := bind_eq_ok_iff.mp read
      obtain ⟨_, _, read⟩ := bind_eq_ok_iff.mp read
      rw [← Except.ok.inj read]
      exact .array (ordered_anyItems items readItems)
  | .object members close =>
      unfold Decoder.anyFrom at read
      obtain ⟨inner, _, read⟩ := bind_eq_ok_iff.mp read
      obtain ⟨values, readMembers, read⟩ := bind_eq_ok_iff.mp read
      obtain ⟨_, _, read⟩ := bind_eq_ok_iff.mp read
      rw [← Except.ok.inj read]
      exact ordered_ofMembers (ordered_anyMembers members readMembers)
  | .broken _ _ _ => exact absurd read (by simp [Decoder.anyFrom])

theorem ordered_anyItems (items : List Draft) {origin : Origin} {values : List Value}
    (read : Decoder.anyItems origin items = .ok values) : ∀ value ∈ values, value.Ordered := by
  match items with
  | [] =>
      rw [← Except.ok.inj read]
      simp
  | item :: items =>
      unfold Decoder.anyItems at read
      obtain ⟨value, readItem, read⟩ := bind_eq_ok_iff.mp read
      obtain ⟨others, readItems, read⟩ := bind_eq_ok_iff.mp read
      rw [← Except.ok.inj read]
      intro other listed
      rcases List.mem_cons.mp listed with rfl | later
      · exact ordered_anyFrom item readItem
      · exact ordered_anyItems items readItems other later

theorem ordered_anyMembers (members : List (Except Fault String × Draft)) {origin : Origin}
    {values : List (String × Value)} (read : Decoder.anyMembers origin members = .ok values) :
    ∀ member ∈ values, member.2.Ordered := by
  match members with
  | [] =>
      rw [← Except.ok.inj read]
      simp
  | (key, draft) :: members =>
      unfold Decoder.anyMembers at read
      obtain ⟨key, _, read⟩ := bind_eq_ok_iff.mp read
      obtain ⟨value, readValue, read⟩ := bind_eq_ok_iff.mp read
      obtain ⟨others, readMembers, read⟩ := bind_eq_ok_iff.mp read
      rw [← Except.ok.inj read]
      intro other listed
      rcases List.mem_cons.mp listed with rfl | later
      · exact ordered_anyFrom draft readValue
      · exact ordered_anyMembers members readMembers other later

end

/-! ## Records -/

namespace Decoder

variable {α : Type} {shape : RecordShape α} {holds : α → Prop}

/-- Reading a field keeps what holds of a record. -/
def Keeps (shape : RecordShape α) (holds : α → Prop) : Prop :=
  ∀ field record origin draft after, holds record →
    shape.set field record origin draft = .ok after → holds after

private theorem members_keeps (keeps : Keeps shape holds) {origin : Origin}
    {seen after : List String} {record result : α} {drafts : List (Except Fault String × Draft)}
    (start : holds record)
    (read : members shape origin seen record drafts = .ok (after, result)) : holds result := by
  induction drafts generalizing seen record with
  | nil =>
      unfold members at read
      rw [← (Prod.mk.inj (Except.ok.inj read)).2]
      exact start
  | cons draft drafts inductionHypothesis =>
      obtain ⟨key, draft⟩ := draft
      unfold members at read
      obtain ⟨key, _, read⟩ := bind_eq_ok_iff.mp read
      split at read
      · split at read
        · exact absurd read (by simp)
        · obtain ⟨next, field, read⟩ := bind_eq_ok_iff.mp read
          exact inductionHypothesis (keeps _ _ _ _ _ start field) read
      · obtain ⟨_, _, read⟩ := bind_eq_ok_iff.mp read
        exact inductionHypothesis start read

private theorem items_keeps (keeps : Keeps shape holds) {origin : Origin} {close : Close}
    {position : Nat} {record result : α} {fields : List String} {drafts surplus : List Draft}
    (start : holds record)
    (read : items shape origin close position record fields drafts = .ok (surplus, result)) :
    holds result := by
  induction fields generalizing position record drafts with
  | nil =>
      unfold items at read
      rw [← (Prod.mk.inj (Except.ok.inj read)).2]
      exact start
  | cons field fields inductionHypothesis =>
      cases drafts with
      | nil =>
          unfold items at read
          obtain ⟨_, _, read⟩ := bind_eq_ok_iff.mp read
          dsimp only at read
          split at read
          · exact absurd read (by simp)
          · exact inductionHypothesis start read
      | cons draft drafts =>
          unfold items at read
          obtain ⟨next, given, read⟩ := bind_eq_ok_iff.mp read
          exact inductionHypothesis (keeps _ _ _ _ _ start given) read

/-- What holds of a record's default and is kept by each field holds of every record that is read. -/
theorem record_keeps (keeps : Keeps shape holds) (default : holds shape.default) {origin : Origin}
    {draft : Draft} {result : α} (read : record shape origin draft = .ok result) : holds result := by
  unfold record at read
  split at read
  · obtain ⟨inner, _, read⟩ := bind_eq_ok_iff.mp read
    obtain ⟨⟨seen, value⟩, given, read⟩ := bind_eq_ok_iff.mp read
    obtain ⟨_, _, read⟩ := bind_eq_ok_iff.mp read
    split at read
    · exact absurd read (by simp)
    · rw [← Except.ok.inj read]
      exact members_keeps keeps default given
  · obtain ⟨inner, _, read⟩ := bind_eq_ok_iff.mp read
    obtain ⟨⟨surplus, value⟩, given, read⟩ := bind_eq_ok_iff.mp read
    have kept := items_keeps keeps default given
    dsimp only at read
    split at read
    · rw [← Except.ok.inj read]
      exact kept
    · exact absurd read (by simp)
    · exact absurd read (by simp)
    · exact absurd read (by simp)
  · unfold Draft.wrongType at read
    split at read <;> exact absurd read (by simp [Draft.wrongType.found])

/-- What holds of every item that is read holds of all items of a list. -/
theorem list_keeps {decoder : Decoder α}
    (each : ∀ origin draft result, decoder origin draft = .ok result → holds result)
    {origin : Origin} {draft : Draft} {results : List α}
    (read : decoder.list origin draft = .ok results) : ∀ result ∈ results, holds result := by
  unfold list at read
  split at read
  · obtain ⟨inner, _, read⟩ := bind_eq_ok_iff.mp read
    obtain ⟨values, given, read⟩ := bind_eq_ok_iff.mp read
    obtain ⟨_, _, read⟩ := bind_eq_ok_iff.mp read
    rw [← Except.ok.inj read]
    intro result listed
    obtain ⟨item, _, here⟩ := (mem_mapM_iff given).mp listed
    exact each inner item result here
  · unfold Draft.wrongType at read
    split at read <;> exact absurd read (by simp [Draft.wrongType.found])

end Decoder

end Admission.Json
