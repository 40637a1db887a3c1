import Mathlib.Data.List.Forall2

/-!
Contract: what a computation that can fail has given, step by step and item by item.

Owns: the inversion of a sequence of two steps and of a list of steps, and results from Boolean tests
and options.
-/

namespace Admission

variable {ε α β : Type}

section Outcome

variable {outcome : Except ε α}

theorem exists_ok_of_isOk (ok : outcome.isOk = true) : ∃ value, outcome = .ok value := by
  cases outcome with
  | error error => exact absurd ok (by simp [Except.isOk, Except.toBool])
  | ok value => exact ⟨value, rfl⟩

theorem exists_error_of_isOk (failed : outcome.isOk = false) : ∃ error, outcome = .error error := by
  cases outcome with
  | error error => exact ⟨error, rfl⟩
  | ok value => exact absurd failed (by simp [Except.isOk, Except.toBool])

theorem toOption_eq_some {value : α} (some : outcome.toOption = some value) :
    outcome = .ok value := by
  cases outcome with
  | error error => exact absurd some (by simp [Except.toOption])
  | ok other => exact congrArg Except.ok (Option.some.inj some)

end Outcome

/-! ## Two steps -/

section Bind

variable {first : Except ε α} {next : α → Except ε β}

theorem bind_eq_ok_iff {result : β} :
    first >>= next = .ok result ↔ ∃ value, first = .ok value ∧ next value = .ok result := by
  cases first with
  | error error =>
      show Except.error error = Except.ok result ↔ _
      simp
  | ok value =>
      show next value = .ok result ↔ _
      simp

theorem bind_eq_error_iff {error : ε} :
    first >>= next = .error error ↔
      first = .error error ∨ ∃ value, first = .ok value ∧ next value = .error error := by
  cases first with
  | error other =>
      show Except.error other = Except.error error ↔ _
      simp
  | ok value =>
      show next value = .error error ↔ _
      simp

end Bind

/-! ## Lists of steps -/

section MapM

variable {step : α → Except ε β} {values : List α} {results : List β}

theorem mapM_eq_ok_iff :
    values.mapM step = .ok results ↔
      List.Forall₂ (fun value result => step value = .ok result) values results := by
  induction values generalizing results with
  | nil =>
      rw [List.mapM_nil, List.forall₂_nil_left_iff]
      exact ⟨fun same => (Except.ok.inj same).symm, fun same => by rw [same]; rfl⟩
  | cons value values inductionHypothesis =>
      rw [List.mapM_cons, bind_eq_ok_iff]
      constructor
      · rintro ⟨result, here, rest⟩
        obtain ⟨others, all, same⟩ := bind_eq_ok_iff.mp rest
        rw [← Except.ok.inj same]
        exact .cons here (inductionHypothesis.mp all)
      · intro each
        cases each with
        | cons here others =>
            exact ⟨_, here, bind_eq_ok_iff.mpr ⟨_, inductionHypothesis.mpr others, rfl⟩⟩

theorem mem_mapM_iff (all : values.mapM step = .ok results) {result : β} :
    result ∈ results ↔ ∃ value ∈ values, step value = .ok result := by
  have each := mapM_eq_ok_iff.mp all
  clear all
  induction each with
  | nil => simp
  | cons here _ inductionHypothesis =>
      simp [inductionHypothesis, here, eq_comm]

end MapM

end Admission
