import Admission.Proofs.Net.Numerals

/-!
Contract: the written form of an address is read back in the notation of ranges, whatever follows it
that does not go on with it.

Owns:
- `Ends` and `Halts`, what may follow an octet or a group, and what may follow an address;
- `dotted_renderV4` and `colons_renderV6`, for elided zeros, for none and for mapped addresses;
- `dotted_renderV6`: the form of an IPv6 address is not taken for a dotted one.

Does not own: the slash and the length of a range (`Admission.Proofs.Net.RangeText`).
-/

namespace Admission.Net.IpText

/-- A text goes on neither with a digit nor with a dot. -/
structure Ends (text : List Char) : Prop where
  stops : Stops hexadecimalDigit? text
  undotted : text.head? ≠ some '.'

/-- A text goes on with no group either. -/
structure Halts (text : List Char) : Prop extends Ends text where
  ungrouped : ∀ rest, expect ':' text = some rest → Stops hexadecimalDigit? rest

theorem ends_cons {c : Char} {rest : List Char} (other : hexadecimalDigit? c = none)
    (undotted : c ≠ '.') : Ends (c :: rest) where
  stops := stops_cons other
  undotted := by simpa using undotted

private theorem ends_colon (rest : List Char) : Ends (':' :: rest) :=
  ends_cons (by decide) (by decide)

private theorem halts_elision (rest : List Char) : Halts (':' :: ':' :: rest) where
  toEnds := ends_colon _
  ungrouped := by
    intro after expected
    obtain rfl : ':' :: rest = after := by simpa [expect] using expected
    exact (ends_colon rest).stops

/-! ## Dotted addresses -/

private theorem octet_decimal {n : Nat} (small : n < 256) {rest : List Char}
    (stops : Stops decimalDigit? rest) : octet .ofRange (decimal n ++ rest) = some (n, rest) := by
  obtain ⟨digits, span, spell, length, filled⟩ := exists_span numerals_decimal n stops
  have short : digits.length ≤ 3 := by
    rw [length, Nat.length_toDigits_le_iff (by decide) (by decide)]
    omega
  unfold octet decimal
  rw [span]
  dsimp only
  rw [spell, filled, if_neg, if_neg]
  · simp [AddressGrammar.ofRange]
  · simp only [Bool.false_or, Bool.or_eq_true, decide_eq_true_eq]
    omega

/-- An octet is all the digits at the front of a text. -/
theorem rest_of_octet {grammar : AddressGrammar} {text rest : List Char} {n : Nat}
    (read : octet grammar text = some (n, rest)) :
    rest = (spanDigits decimalDigit? text).2 := by
  unfold octet at read
  dsimp only at read
  split at read
  · exact absurd read (by simp)
  · split at read
    · exact absurd read (by simp)
    · exact (congrArg Prod.snd (Option.some.inj read)).symm

private theorem rest_undotted {written rest : List Char} (undotted : '.' ∉ written)
    (ends : Ends rest) :
    (spanDigits decimalDigit? (written ++ rest)).2.head? ≠ some '.' := by
  induction written with
  | nil =>
      rw [List.nil_append, spanDigits_of_stops ends.stops.decimal]
      exact ends.undotted
  | cons c written inductionHypothesis =>
      rw [List.mem_cons, not_or] at undotted
      rw [List.cons_append, spanDigits]
      cases decimalDigit? c with
      | some digit => exact inductionHypothesis undotted.2
      | none => simpa using Ne.symm undotted.1

private theorem expect_eq_none {wanted : Char} {text : List Char}
    (other : text.head? ≠ some wanted) :
    expect wanted text = none := by
  cases text with
  | nil => rfl
  | cons c rest => exact if_neg (by simpa using other)

/-- A text in which something else comes before the first dot is no dotted address. -/
theorem dotted_eq_none {grammar : AddressGrammar} {written rest : List Char}
    (undotted : '.' ∉ written) (ends : Ends rest) : dotted grammar (written ++ rest) = none := by
  unfold dotted
  cases read : octet grammar (written ++ rest) with
  | none => rfl
  | some first =>
      have after : expect '.' first.2 = none := by
        rw [rest_of_octet read]
        exact expect_eq_none (rest_undotted undotted ends)
      simp [after]

theorem dotted_renderV4 (value : BitVec 32) {rest : List Char} (stops : Stops decimalDigit? rest) :
    dotted .ofRange (renderV4 value ++ rest) = some (value, rest) := by
  have dot (after : List Char) : Stops decimalDigit? ('.' :: after) := stops_cons (by decide)
  have first : (value >>> 24).toNat < 256 := by
    rw [BitVec.toNat_ushiftRight, Nat.shiftRight_eq_div_pow]
    omega
  have octets : ((((value >>> 24).toNat * 256 + (value >>> 16).toNat % 256) * 256 +
      (value >>> 8).toNat % 256) * 256 + value.toNat % 256) = value.toNat := by
    simp only [BitVec.toNat_ushiftRight, Nat.shiftRight_eq_div_pow]
    omega
  unfold renderV4 dotted
  simp only [List.append_assoc, List.cons_append]
  rw [octet_decimal first (dot _)]
  simp only [Option.bind_eq_bind, Option.bind_some, expect, ↓reduceIte]
  rw [octet_decimal (Nat.mod_lt _ (by decide)) (dot _)]
  simp only [Option.bind_some, ↓reduceIte]
  rw [octet_decimal (Nat.mod_lt _ (by decide)) (dot _)]
  simp only [Option.bind_some, ↓reduceIte]
  rw [octet_decimal (Nat.mod_lt _ (by decide)) stops]
  simp only [Option.bind_some, octets, BitVec.ofNat_toNat, BitVec.setWidth_eq]
  rfl

/-! ## Groups -/

private theorem group_hexadecimal {n : Nat} (small : n < 65536) {rest : List Char}
    (stops : Stops hexadecimalDigit? rest) :
    group (Nat.toDigits 16 n ++ rest) = some (n, rest) := by
  obtain ⟨digits, span, spell, length, filled⟩ := exists_span numerals_hexadecimal n stops
  have short : digits.length ≤ 4 := by
    rw [length, Nat.length_toDigits_le_iff (by decide) (by decide)]
    omega
  unfold group
  rw [span]
  dsimp only
  rw [spell, filled, if_neg]
  simp only [Bool.false_or, decide_eq_true_eq]
  omega

private theorem undotted_hexadecimal (n : Nat) : '.' ∉ Nat.toDigits 16 n := by
  intro member
  obtain ⟨digit, below, dot⟩ := exists_digitChar (by decide) member
  have other : ∀ digit < 16, '.' ≠ Nat.digitChar digit := by decide
  exact other digit below dot

/-- Where the reading of a group starts. -/
def groupStart (first : Bool) (text : List Char) : Option (List Char) :=
  if first then some text else expect ':' text

/-- Groups after others that were read before them. -/
def Groups.after (groups : Groups) (values : List Nat) : Groups :=
  { groups with values := values ++ groups.values }

/-- Nothing is read where no digit stands. -/
theorem readGroups_of_stops {grammar : AddressGrammar} {first : Bool} {text : List Char}
    (stops : ∀ start, groupStart first text = some start → Stops hexadecimalDigit? start)
    (limit : Nat) : readGroups grammar first text limit = ⟨[], false, text⟩ := by
  cases limit with
  | zero => rfl
  | succ limit =>
      have unread : groupStart first text >>= group = none := by
        cases start : groupStart first text with
        | none => rfl
        | some after =>
            show group after = none
            unfold group
            rw [spanDigits_of_stops (stops after start)]
            rfl
      have undotted :
          (if limit = 0 then none else groupStart first text >>= dotted grammar) = none := by
        split
        · rfl
        · cases start : groupStart first text with
          | none => rfl
          | some after =>
              show dotted grammar after = none
              unfold dotted octet
              rw [spanDigits_of_stops (stops after start).decimal]
              rfl
      unfold groupStart at unread undotted
      simp only [readGroups, undotted, unread]

/-- A written group is read, and the others after it. -/
theorem readGroups_group {first : Bool} {text rest : List Char} {value : Nat}
    (start : groupStart first text = some (Nat.toDigits 16 value ++ rest))
    (small : value < 65536) (ends : Ends rest) (more : Nat) :
    readGroups .ofRange first text (more + 1) =
      (readGroups .ofRange false rest more).after [value] := by
  have undotted : (if more = 0 then none else groupStart first text >>= dotted .ofRange) = none := by
    rw [start]
    split
    · rfl
    · exact dotted_eq_none (undotted_hexadecimal value) ends
  have read : groupStart first text >>= group = some (value, rest) := by
    rw [start]
    exact group_hexadecimal small ends.stops
  unfold groupStart at undotted read
  simp only [readGroups, undotted, read]
  rfl

/-- A dotted address stands for the last two groups. -/
theorem readGroups_dotted {first : Bool} {text rest : List Char} {value : BitVec 32}
    (start : groupStart first text = some (renderV4 value ++ rest))
    (stops : Stops decimalDigit? rest) (more : Nat) :
    readGroups .ofRange first text (more + 2) =
      ⟨[(value >>> 16).toNat, (value.truncate 16 : BitVec 16).toNat], true, rest⟩ := by
  have read : (if more + 1 = 0 then none else groupStart first text >>= dotted .ofRange) =
      some (value, rest) := by
    rw [if_neg (Nat.succ_ne_zero more), start]
    exact dotted_renderV4 value stops
  unfold groupStart at read
  simp only [readGroups, read]

/-- Groups with a colon in front of each. -/
def colonGroups (groups : List Nat) : List Char :=
  groups.flatMap fun value => ':' :: Nat.toDigits 16 value

theorem renderGroups_cons (value : Nat) (groups : List Nat) :
    renderGroups (value :: groups) = Nat.toDigits 16 value ++ colonGroups groups := by
  induction groups generalizing value with
  | nil => simp [renderGroups, colonGroups, List.intercalate]
  | cons next groups inductionHypothesis =>
      have further := inductionHypothesis next
      simp only [renderGroups, colonGroups, List.intercalate, List.map_cons] at further ⊢
      rw [List.intersperse_cons_cons, List.flatten_cons, List.flatten_cons, further]
      rfl

private theorem ends_colonGroups (groups : List Nat) {rest : List Char} (ends : Ends rest) :
    Ends (colonGroups groups ++ rest) := by
  cases groups with
  | nil => exact ends
  | cons value groups => exact ends_colon _

private theorem readGroups_colonGroups {groups : List Nat} (small : ∀ value ∈ groups, value < 65536)
    {rest : List Char} (halts : Halts rest) (more : Nat) :
    readGroups .ofRange false (colonGroups groups ++ rest) (groups.length + more) =
      ⟨groups, false, rest⟩ := by
  induction groups with
  | nil => exact @readGroups_of_stops .ofRange false rest halts.ungrouped _
  | cons value groups inductionHypothesis =>
      rw [List.forall_mem_cons] at small
      have start : groupStart false (colonGroups (value :: groups) ++ rest) =
          some (Nat.toDigits 16 value ++ (colonGroups groups ++ rest)) := by
        simp [groupStart, colonGroups, expect]
      rw [List.length_cons, Nat.add_right_comm,
        readGroups_group start small.1 (ends_colonGroups groups halts.toEnds),
        inductionHypothesis small.2]
      rfl

/-- Written groups are read. -/
theorem readGroups_renderGroups {groups : List Nat} (small : ∀ value ∈ groups, value < 65536)
    {rest : List Char} (halts : Halts rest) (more : Nat) :
    readGroups .ofRange true (renderGroups groups ++ rest) (groups.length + more) =
      ⟨groups, false, rest⟩ := by
  cases groups with
  | nil =>
      refine readGroups_of_stops ?_ _
      intro start same
      rw [← Option.some.inj same]
      exact halts.stops
  | cons value groups =>
      rw [List.forall_mem_cons] at small
      have start : groupStart true (renderGroups (value :: groups) ++ rest) =
          some (Nat.toDigits 16 value ++ (colonGroups groups ++ rest)) := by
        rw [renderGroups_cons, List.append_assoc]
        rfl
      rw [List.length_cons, Nat.add_right_comm,
        readGroups_group start small.1 (ends_colonGroups groups halts.toEnds),
        readGroups_colonGroups small.2 halts]
      rfl

private theorem undotted_renderGroups (groups : List Nat) : '.' ∉ renderGroups groups := by
  cases groups with
  | nil => exact List.not_mem_nil
  | cons value groups =>
      rw [renderGroups_cons, List.mem_append, not_or]
      refine ⟨undotted_hexadecimal value, ?_⟩
      intro member
      obtain ⟨other, _, written⟩ := List.mem_flatMap.mp member
      rcases List.mem_cons.mp written with colon | digit
      · exact absurd colon (by decide)
      · exact undotted_hexadecimal other digit

/-! ## Runs of zeros -/

private theorem leadingZeros_eq (groups : List Nat) :
    groups = List.replicate (leadingZeros groups) 0 ++ groups.drop (leadingZeros groups) := by
  induction groups with
  | nil => rfl
  | cons value groups inductionHypothesis =>
      by_cases zero : value = 0
      · have count : leadingZeros (value :: groups) = leadingZeros groups + 1 := by
          simp [leadingZeros, zero]
        rw [count, List.replicate_succ, List.drop_succ_cons, List.cons_append,
          ← inductionHypothesis, zero]
      · have count : leadingZeros (value :: groups) = 0 := by
          simp [leadingZeros, zero]
        rw [count]
        rfl

/-- The longest run of zeros is one, and lies where it is said to start. -/
theorem exists_longestZeroRun (start : Nat) (groups : List Nat) :
    ∃ before after, groups = before ++ List.replicate (longestZeroRun start groups).2 0 ++ after ∧
      (longestZeroRun start groups).1 = start + before.length := by
  induction groups generalizing start with
  | nil => exact ⟨[], [], rfl, rfl⟩
  | cons value groups inductionHypothesis =>
      unfold longestZeroRun
      dsimp only
      split
      · exact ⟨[], _, leadingZeros_eq _, rfl⟩
      · obtain ⟨before, after, split, position⟩ := inductionHypothesis (start + 1)
        refine ⟨value :: before, after, ?_, ?_⟩
        · rw [List.cons_append, List.cons_append, ← split]
        · rw [position, List.length_cons]
          omega

/-! ## IPv6 addresses -/

private theorem length_groupsOf (value : BitVec 128) : (groupsOf value).length = 8 := by
  simp [groupsOf]

private theorem groupsOf_small (value : BitVec 128) : ∀ group ∈ groupsOf value, group < 65536 := by
  intro group member
  obtain ⟨index, _, rfl⟩ := List.mem_map.mp member
  exact Nat.mod_lt _ (by decide)

private theorem ofGroups_groupsOf (value : BitVec 128) : ofGroups (groupsOf value) = value := by
  apply BitVec.eq_of_toNat_eq
  have below := value.isLt
  have spelled : ofDigits 65536 (groupsOf value) = value.toNat := by
    simp only [groupsOf, ofDigits, List.range, List.range.loop, List.map_cons, List.map_nil,
      List.foldl_cons, List.foldl_nil, BitVec.toNat_ushiftRight, Nat.shiftRight_eq_div_pow]
    omega
  rw [ofGroups, spelled, BitVec.toNat_ofNat, Nat.mod_eq_of_lt below]

/-- Eight written groups are read as they stand. -/
theorem colons_full {groups : List Nat} (small : ∀ value ∈ groups, value < 65536)
    (count : groups.length = 8) {rest : List Char} (halts : Halts rest) :
    colons .ofRange (renderGroups groups ++ rest) = some (ofGroups groups, rest) := by
  have head := readGroups_renderGroups small halts 0
  rw [count] at head
  unfold colons
  rw [head]
  dsimp only
  rw [if_pos count]

/-- The groups before and after a double colon are read, and the gap is filled with zeros. -/
theorem colons_of_elision {text after : List Char} {before : List Nat}
    (head : readGroups .ofRange true text 8 = ⟨before, false, ':' :: ':' :: after⟩)
    (short : before.length < 8) {tail : Groups}
    (read : readGroups .ofRange true after (8 - before.length) = tail) :
    colons .ofRange text = some (ofGroups (before ++
      List.replicate (8 - before.length - tail.values.length) 0 ++ tail.values), tail.rest) := by
  unfold colons
  rw [head]
  dsimp only
  rw [if_neg (Nat.ne_of_lt short), if_neg Bool.false_ne_true, ← read]
  rfl

private theorem colons_elided {before after : List Nat} {zeros : Nat}
    (smallBefore : ∀ value ∈ before, value < 65536) (smallAfter : ∀ value ∈ after, value < 65536)
    (count : before.length + zeros + after.length = 8) (several : 1 < zeros) {rest : List Char}
    (halts : Halts rest) :
    colons .ofRange (renderGroups before ++ "::".toList ++ renderGroups after ++ rest) =
      some (ofGroups (before ++ List.replicate zeros 0 ++ after), rest) := by
  have written : renderGroups before ++ "::".toList ++ renderGroups after ++ rest =
      renderGroups before ++ ':' :: ':' :: (renderGroups after ++ rest) := by simp
  have head := readGroups_renderGroups smallBefore
    (halts_elision (renderGroups after ++ rest)) (8 - before.length)
  rw [Nat.add_sub_cancel' (by omega)] at head
  have tail := readGroups_renderGroups smallAfter halts zeros
  have room : after.length + zeros = 8 - before.length := by omega
  rw [room] at tail
  have gap : 8 - before.length - after.length = zeros := by omega
  rw [written, colons_of_elision head (by omega) tail, gap]

/-- The eight groups of a mapped address. -/
theorem ofGroups_mapped {value : BitVec 128} {embedded : BitVec 32}
    (mapped : IpAddress.mapped? value = some embedded) :
    ofGroups [0, 0, 0, 0, 0, 0xFFFF, (embedded >>> 16).toNat,
      (embedded.truncate 16 : BitVec 16).toNat] = value := by
  unfold IpAddress.mapped? at mapped
  split at mapped
  · rename_i prefixed
    apply BitVec.eq_of_toNat_eq
    have high := congrArg BitVec.toNat prefixed
    rw [← Option.some.inj mapped]
    simp only [BitVec.toNat_ushiftRight, Nat.shiftRight_eq_div_pow, BitVec.toNat_ofNat] at high
    simp only [ofGroups, ofDigits, List.foldl_cons, List.foldl_nil, BitVec.toNat_ofNat,
      BitVec.toNat_ushiftRight, BitVec.truncate_eq_setWidth, BitVec.toNat_setWidth,
      Nat.shiftRight_eq_div_pow]
    omega
  · exact absurd mapped (by simp)

/-- A mapped address is read from its dotted form. -/
theorem colons_mapped {value : BitVec 128} {embedded : BitVec 32}
    (mapped : IpAddress.mapped? value = some embedded) {rest : List Char}
    (stops : Stops decimalDigit? rest) :
    colons .ofRange ("::ffff:".toList ++ renderV4 embedded ++ rest) = some (value, rest) := by
  have written : "::ffff:".toList ++ renderV4 embedded ++ rest =
      ':' :: ':' :: (Nat.toDigits 16 0xFFFF ++ ':' :: (renderV4 embedded ++ rest)) := by
    simp [show Nat.toDigits 16 0xFFFF = ['f', 'f', 'f', 'f'] by decide]
  have head : readGroups .ofRange true
      (':' :: ':' :: (Nat.toDigits 16 0xFFFF ++ ':' :: (renderV4 embedded ++ rest))) 8 =
      ⟨[], false, _⟩ := @readGroups_renderGroups [] (by simp) _ (halts_elision _) 8
  have tail : readGroups .ofRange true
      (Nat.toDigits 16 0xFFFF ++ ':' :: (renderV4 embedded ++ rest)) 8 =
      ⟨[0xFFFF, (embedded >>> 16).toNat, (embedded.truncate 16 : BitVec 16).toNat], true, rest⟩ := by
    rw [readGroups_group rfl (by decide) (ends_colon _)]
    rw [readGroups_dotted rfl stops]
    rfl
  rw [written, colons_of_elision head (by decide) tail]
  exact congrArg (fun value => some (value, rest)) (ofGroups_mapped mapped)

/-- The written form of an IPv6 address is read back. -/
theorem colons_renderV6 (value : BitVec 128) {rest : List Char} (halts : Halts rest) :
    colons .ofRange (renderV6 value ++ rest) = some (value, rest) := by
  have small := groupsOf_small value
  have count := length_groupsOf value
  have whole := ofGroups_groupsOf value
  unfold renderV6
  cases mapped : IpAddress.mapped? value with
  | some embedded => exact colons_mapped mapped halts.stops.decimal
  | none =>
      dsimp only
      split
      · rename_i several
        obtain ⟨before, after, split, position⟩ := exists_longestZeroRun 0 (groupsOf value)
        generalize longestZeroRun 0 (groupsOf value) = run at several split position
        rw [split] at small count whole ⊢
        rw [Nat.zero_add] at position
        have start : (before ++ List.replicate run.2 0 ++ after).take run.1 = before := by
          rw [position, List.append_assoc, List.take_left]
        have finish : (before ++ List.replicate run.2 0 ++ after).drop (run.1 + run.2) = after := by
          rw [position, List.drop_left']
          simp
        simp only [List.length_append, List.length_replicate] at count
        rw [start, finish, colons_elided (fun group member => small group (by simp [member]))
          (fun group member => small group (by simp [member])) count several halts, whole]
      · rw [colons_full small count halts, whole]

/-- The written form of an IPv6 address is no dotted one. -/
theorem dotted_renderV6 (grammar : AddressGrammar) (value : BitVec 128) {rest : List Char}
    (ends : Ends rest) : dotted grammar (renderV6 value ++ rest) = none := by
  unfold renderV6
  cases IpAddress.mapped? value with
  | some embedded =>
      exact @dotted_eq_none grammar [] _ List.not_mem_nil (ends_colon _)
  | none =>
      dsimp only
      split
      · rw [List.append_assoc, List.append_assoc]
        exact dotted_eq_none (undotted_renderGroups _) (ends_colon _)
      · exact dotted_eq_none (undotted_renderGroups _) ends

end Admission.Net.IpText
