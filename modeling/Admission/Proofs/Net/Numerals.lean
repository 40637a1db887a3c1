import Admission.Net.IpText
import Mathlib.Data.List.Forall2

/-!
Contract: a number that is written in digits is read back, whatever follows that is no digit.

Owns:
- `Numerals`, the digits that one reader takes for those of a base, for decimal and hexadecimal
  numbers;
- `Stops`, by which a text does not go on with a digit;
- `exists_span`: reading digits takes a written number off a text, and they spell the number.

Does not own: how many digits a number may have where it stands.
-/

namespace Admission.Net.IpText

variable {digit? : Char → Option Nat} {base : Nat}

/-- A reader of digits takes the characters in which the digits of a base are written for what they
stand for. -/
structure Numerals (digit? : Char → Option Nat) (base : Nat) : Prop where
  base_gt : 1 < base
  read : ∀ digit < base, digit? (Nat.digitChar digit) = some digit

theorem numerals_decimal : Numerals decimalDigit? 10 where
  base_gt := by decide
  read := by decide

theorem numerals_hexadecimal : Numerals hexadecimalDigit? 16 where
  base_gt := by decide
  read := by decide

/-- A text does not start with a digit. -/
def Stops (digit? : Char → Option Nat) (text : List Char) : Prop :=
  ∀ c ∈ text.head?, digit? c = none

theorem stops_cons {c : Char} {rest : List Char} (other : digit? c = none) :
    Stops digit? (c :: rest) := by
  intro first isFirst
  rw [List.head?_cons, Option.mem_some_iff] at isFirst
  rw [← isFirst, other]

/-- Hexadecimal digits are decimal ones and more. -/
theorem decimalDigit?_eq_none {c : Char} (other : hexadecimalDigit? c = none) :
    decimalDigit? c = none := by
  unfold hexadecimalDigit? at other
  unfold decimalDigit?
  split at other
  · exact absurd other (by simp)
  · rename_i notDecimal
    rw [if_neg notDecimal]

theorem Stops.decimal {text : List Char} (stops : Stops hexadecimalDigit? text) :
    Stops decimalDigit? text :=
  fun c isFirst => decimalDigit?_eq_none (stops c isFirst)

theorem spanDigits_of_stops {text : List Char} (stops : Stops digit? text) :
    spanDigits digit? text = ([], text) := by
  cases text with
  | nil => rfl
  | cons c rest => rw [spanDigits, stops c rfl]

/-- Reading digits takes all digits off the front of a text. -/
theorem spanDigits_append {written rest : List Char} {digits : List Nat}
    (each : List.Forall₂ (fun c digit => digit? c = some digit) written digits)
    (stops : Stops digit? rest) : spanDigits digit? (written ++ rest) = (digits, rest) := by
  induction each with
  | nil => exact spanDigits_of_stops stops
  | cons here _ inductionHypothesis =>
      rw [List.cons_append, spanDigits, here, inductionHypothesis]

private theorem ofDigits_concat (digits : List Nat) (last : Nat) :
    ofDigits base (digits ++ [last]) = ofDigits base digits * base + last := by
  rw [ofDigits, List.foldl_append]
  rfl

/-- The characters of a written number are digits, and these spell the number. -/
theorem exists_digits (numerals : Numerals digit? base) (n : Nat) :
    ∃ digits, List.Forall₂ (fun c digit => digit? c = some digit) (Nat.toDigits base n) digits ∧
      ofDigits base digits = n := by
  -- A number is written as its quotient by the base, followed by one digit.
  induction n using Nat.strongRecOn with
  | ind n inductionHypothesis =>
      rw [Nat.toDigits_eq_if numerals.base_gt]
      split
      · rename_i small
        refine ⟨[n], .cons (numerals.read n small) .nil, ?_⟩
        simp [ofDigits]
      · rename_i large
        have positive : 0 < base := Nat.lt_of_succ_lt numerals.base_gt
        have smaller : n / base < n :=
          Nat.div_lt_self (Nat.lt_of_lt_of_le positive (Nat.le_of_not_lt large)) numerals.base_gt
        obtain ⟨digits, each, spell⟩ := inductionHypothesis (n / base) smaller
        refine ⟨digits ++ [n % base], ?_, ?_⟩
        · exact List.rel_append each (.cons (numerals.read _ (Nat.mod_lt n positive)) .nil)
        · rw [ofDigits_concat, spell, Nat.mul_comm]
          exact Nat.div_add_mod n base

/-- Reading digits takes a written number off a text: as many digits as it is written in, which spell
the number. -/
theorem exists_span (numerals : Numerals digit? base) (n : Nat) {rest : List Char}
    (stops : Stops digit? rest) :
    ∃ digits, spanDigits digit? (Nat.toDigits base n ++ rest) = (digits, rest) ∧
      ofDigits base digits = n ∧ digits.length = (Nat.toDigits base n).length ∧
      digits.isEmpty = false := by
  obtain ⟨digits, each, spell⟩ := exists_digits numerals n
  have length := each.length_eq.symm
  refine ⟨digits, spanDigits_append each stops, spell, length, ?_⟩
  rw [List.isEmpty_eq_false_iff, ← List.length_pos_iff, length]
  exact Nat.length_toDigits_pos

/-- A number is written in digits of its base. -/
theorem exists_digitChar (base_gt : 1 < base) {n : Nat} {c : Char}
    (member : c ∈ Nat.toDigits base n) : ∃ digit < base, c = Nat.digitChar digit := by
  induction n using Nat.strongRecOn with
  | ind n inductionHypothesis =>
      rw [Nat.toDigits_eq_if base_gt] at member
      split at member
      · rename_i small
        exact ⟨n, small, List.mem_singleton.mp member⟩
      · rename_i large
        rcases List.mem_append.mp member with early | last
        · exact inductionHypothesis _ (Nat.div_lt_self (by omega) base_gt) early
        · exact ⟨n % base, Nat.mod_lt n (by omega), List.mem_singleton.mp last⟩

/-- A number below another is written in no more digits. -/
theorem length_toDigits_mono (base_gt : 1 < base) {n bound : Nat} (below : n ≤ bound) :
    (Nat.toDigits base n).length ≤ (Nat.toDigits base bound).length := by
  have positive : 0 < (Nat.toDigits base bound).length := Nat.length_toDigits_pos
  have large := (Nat.length_toDigits_le_iff (n := bound) base_gt positive).mp (Nat.le_refl _)
  exact (Nat.length_toDigits_le_iff base_gt positive).mpr (Nat.lt_of_le_of_lt below large)

end Admission.Net.IpText
