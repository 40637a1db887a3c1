import Admission.Net.Cidr
import Admission.Proofs.Net.AddressText
import Admission.Proofs.Net.RangeBits

/-!
Contract: the text of a range is a key for the range.

Owns:
- `IsPlain`, the characters that ranges are written in, none of which is blank;
- `CidrRange.parse_text`: a range is read back from its text, so that ranges with one text are one;
- `CidrRange.text_is_key`, with ranges that are spelled in different ways.
-/

namespace Admission.Net

/-! ## Plain text -/

/-- A character from the dot to the letter f: all marks and digits of addresses are among these. -/
def IsPlain (c : Char) : Prop :=
  0x2E ≤ c.toNat ∧ c.toNat ≤ 0x66

instance (c : Char) : Decidable (IsPlain c) :=
  inferInstanceAs (Decidable (_ ∧ _))

private theorem IsPlain.not_blank {c : Char} (plain : IsPlain c) : Text.isBlank c = false := by
  rw [← Bool.not_eq_true, Text.isBlank, Text.CharRanges.contains_iff]
  rintro ⟨range, listed, above, below⟩
  obtain ⟨first, last⟩ := plain
  have apart : ∀ range ∈ Text.blankRanges, range.2 < 0x2E ∨ 0x66 < range.1 := by decide
  rcases apart range listed with earlier | later <;> omega

private theorem dropEndWhile_of_forall {α : Type} {test : α → Bool} {values : List α}
    (none : ∀ value ∈ values, test value = false) : Text.dropEndWhile test values = values := by
  induction values with
  | nil => rfl
  | cons value values inductionHypothesis =>
      rw [List.forall_mem_cons] at none
      rw [Text.dropEndWhile, inductionHypothesis none.2]
      cases values with
      | nil => simp [none.1]
      | cons next values => rfl

/-- Nothing is trimmed off a plain text. -/
theorem trim_of_plain {text : List Char} (plain : ∀ c ∈ text, IsPlain c) :
    Text.trim text = text := by
  have none : ∀ c ∈ text, Text.isBlank c = false := fun c member => (plain c member).not_blank
  have kept : text.dropWhile Text.isBlank = text := by
    cases text with
    | nil => rfl
    | cons c rest => rw [List.dropWhile_cons, none c List.mem_cons_self, if_neg Bool.false_ne_true]
  rw [Text.trim, kept, dropEndWhile_of_forall none]

private theorem plain_of_all {text : List Char}
    (checked : text.all (fun c => decide (IsPlain c)) = true) :
    ∀ c ∈ text, IsPlain c := by
  simpa using checked

private theorem plain_toDigits {base : Nat} (base_gt : 1 < base) (atMost : base ≤ 16) (n : Nat) :
    ∀ c ∈ Nat.toDigits base n, IsPlain c := by
  intro c member
  obtain ⟨digit, below, rfl⟩ := IpText.exists_digitChar base_gt member
  have each : ∀ digit < 16, IsPlain (Nat.digitChar digit) := by decide
  exact each digit (Nat.lt_of_lt_of_le below atMost)

private theorem plain_decimal (n : Nat) : ∀ c ∈ IpText.decimal n, IsPlain c :=
  plain_toDigits (by decide) (by decide) n

private theorem plain_renderV4 (value : BitVec 32) : ∀ c ∈ IpText.renderV4 value, IsPlain c := by
  have dot : IsPlain '.' := by decide
  unfold IpText.renderV4
  simp only [List.forall_mem_append, List.forall_mem_cons]
  exact ⟨⟨⟨plain_decimal _, dot, plain_decimal _⟩, dot, plain_decimal _⟩, dot, plain_decimal _⟩

private theorem plain_renderGroups (groups : List Nat) :
    ∀ c ∈ IpText.renderGroups groups, IsPlain c := by
  have group (value : Nat) : ∀ c ∈ Nat.toDigits 16 value, IsPlain c :=
    plain_toDigits (by decide) (by decide) value
  cases groups with
  | nil =>
      intro c member
      exact absurd member List.not_mem_nil
  | cons value groups =>
      rw [IpText.renderGroups_cons, List.forall_mem_append]
      refine ⟨group value, ?_⟩
      intro c member
      obtain ⟨other, _, written⟩ := List.mem_flatMap.mp member
      rcases List.mem_cons.mp written with rfl | digit
      · decide
      · exact group other c digit

private theorem plain_renderV6 (value : BitVec 128) : ∀ c ∈ IpText.renderV6 value, IsPlain c := by
  unfold IpText.renderV6
  cases IpAddress.mapped? value with
  | some embedded =>
      rw [List.forall_mem_append]
      exact ⟨plain_of_all (by decide), plain_renderV4 embedded⟩
  | none =>
      dsimp only
      split
      · rw [List.forall_mem_append, List.forall_mem_append]
        exact ⟨⟨plain_renderGroups _, plain_of_all (by decide)⟩, plain_renderGroups _⟩
      · exact plain_renderGroups _

private theorem plain_text (address : IpAddress) : ∀ c ∈ address.text, IsPlain c := by
  cases address with
  | v4 value => exact plain_renderV4 value
  | v6 value => exact plain_renderV6 value

namespace CidrRange

/-! ## Reading a range back -/

/-- What follows an address in a range. -/
theorem halts_slash (rest : List Char) : IpText.Halts ('/' :: rest) where
  toEnds := IpText.ends_cons (by decide) (by decide)
  ungrouped := by
    intro after expected
    exact absurd expected (by simp [IpText.expect])

private theorem lengthText_decimal {width length : Nat} (fits : length ≤ width) :
    lengthText width (IpText.decimal length) = some (length, []) := by
  have stops : IpText.Stops IpText.decimalDigit? [] := by
    intro c isFirst
    cases isFirst
  obtain ⟨digits, span, spell, count, filled⟩ :=
    IpText.exists_span IpText.numerals_decimal length stops
  have short : digits.length ≤ (IpText.decimal width).length := by
    rw [count]
    exact IpText.length_toDigits_mono (by decide) fits
  rw [List.append_nil, ← IpText.decimal] at span
  unfold lengthText
  rw [span]
  dsimp only
  rw [spell, filled, if_neg]
  simpa using short

private theorem ofAddress_address (range : CidrRange) :
    ofAddress range.address range.length range.length_le = range := by
  cases range with
  | mk address length fits clear => simp only [ofAddress, clear]

/-- A range is read back from a reading of its address that leaves the slash. -/
theorem slashed_text (family : List Char → Option (IpAddress × List Char)) (range : CidrRange)
    (read : family (range.address.text ++ '/' :: IpText.decimal range.length) =
      some (range.address, '/' :: IpText.decimal range.length)) :
    slashed family (range.address.text ++ '/' :: IpText.decimal range.length) =
      some (range, []) := by
  unfold slashed
  rw [read]
  simp only [Option.bind_eq_bind, Option.bind_some, IpText.expect, ↓reduceIte,
    lengthText_decimal range.length_le, range.length_le, ↓reduceDIte, ofAddress_address]
  rfl

private theorem withSlash_text (range : CidrRange) :
    withSlash (range.address.text ++ '/' :: IpText.decimal range.length) = some (range, []) := by
  have halts := halts_slash (IpText.decimal range.length)
  have families : (∃ value, range.address = .v4 value) ∨ ∃ value, range.address = .v6 value := by
    cases range.address with
    | v4 value => exact .inl ⟨value, rfl⟩
    | v6 value => exact .inr ⟨value, rfl⟩
  unfold withSlash
  dsimp only
  rcases families with ⟨value, isV4⟩ | ⟨value, isV6⟩
  · have read := IpText.dotted_renderV4 value halts.stops.decimal
    rw [slashed_text _ range (by rw [isV4, IpAddress.text, read]; rfl)]
    rfl
  · have notDotted := IpText.dotted_renderV6 .ofRange value halts.toEnds
    have read := IpText.colons_renderV6 value halts
    rw [slashed_text (fun text => (IpText.colons .ofRange text).map _) range
      (by rw [isV6, IpAddress.text, read]; rfl)]
    rw [isV6, IpAddress.text, slashed, notDotted]
    rfl

theorem parse_text (range : CidrRange) : parse range.text = .ok range := by
  have letters : range.text.toList = range.address.text ++ '/' :: IpText.decimal range.length := by
    simp [text]
  have plain : ∀ c ∈ range.text.toList, IsPlain c := by
    rw [letters, List.forall_mem_append, List.forall_mem_cons]
    exact ⟨plain_text range.address, by decide, plain_decimal range.length⟩
  have slash : '/' ∈ range.text.toList := by
    rw [letters]
    exact List.mem_append_right _ List.mem_cons_self
  have filled : range.text.toList.isEmpty = false := by
    rw [List.isEmpty_eq_false_iff]
    exact List.ne_nil_of_mem slash
  unfold parse
  rw [trim_of_plain plain]
  dsimp only
  rw [filled, if_pos slash, letters]
  simp [IpText.whole, withSlash_text]

private theorem text_injective {left right : CidrRange} (same : left.text = right.text) :
    left = right := by
  have read := parse_text left
  rw [same, parse_text] at read
  exact (Except.ok.inj read).symm

private theorem text_ne_empty (range : CidrRange) : range.text ≠ "" := by
  intro empty
  have letters := congrArg String.toList empty
  simp [text] at letters

/-- Every range is read back from its text, which is not empty; two ranges have one text exactly if
they are one prefix; and a range holds the addresses of its family that agree with its own address on
the leading bits. Whatever text a range was read from has no part in this. -/
theorem text_is_key :
    (∀ range : CidrRange, parse range.text = .ok range ∧ range.text ≠ "") ∧
    (∀ left right : CidrRange, left.text = right.text ↔ left.SamePrefix right) ∧
    ∀ (range : CidrRange) (address : IpAddress),
      range.contains address = true ↔ address.isV4 = range.isV4 ∧
        address.bits.take range.length = range.address.bits.take range.length := by
  refine ⟨fun range => ⟨parse_text range, text_ne_empty range⟩, ?_, ?_⟩
  · intro left right
    rw [samePrefix_iff]
    exact ⟨text_injective, congrArg text⟩
  · intro range address
    rw [contains_iff, List.prefix_iff_eq_take, length_networkBits]
    exact and_congr_right fun _ => eq_comm

/-- The longest run of zeros is elided after the host bits are gone. -/
example : (parse "2001:DB8:0:0:1:0:0:1/83").toOption.map text = some "2001:db8:0:0:1::/83" := by
  decide +kernel

end CidrRange

end Admission.Net
