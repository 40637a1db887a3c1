import Admission.Json.Value
import Mathlib.Data.List.TakeWhile

/-!
Contract: the compact text of a JSON value tells everything about the value but how its numbers are
represented.

Owns:
- `Spelling`, a JSON value with its numbers as they are written;
- `spelling_eq_iff`: two values have one spelling exactly if they have one compact text.

Does not own: which numbers are written alike.
-/

namespace Admission.Json

open Admission.Decimal

/-- A JSON value with its numbers as they are written. -/
inductive Spelling where
  | null
  | bool (b : Bool)
  | number (text : List Char)
  | string (s : String)
  | array (items : List Spelling)
  | object (members : List (String × Spelling))

mutual

/-- The value with its numbers written out. -/
def Value.spelling : Value → Spelling
  | .null => .null
  | .bool b => .bool b
  | .number n => .number n.text
  | .string s => .string s
  | .array items => .array (spellItems items)
  | .object members => .object (spellMembers members)

/-- The items of an array, written out. -/
def spellItems : List Value → List Spelling
  | [] => []
  | item :: rest => item.spelling :: spellItems rest

/-- The members of an object, written out. -/
def spellMembers : List (String × Value) → List (String × Spelling)
  | [] => []
  | (key, value) :: rest => (key, value.spelling) :: spellMembers rest

end

/-! ## Numbers -/

/-- The characters of written numbers. -/
def isNumberChar (c : Char) : Bool :=
  c.isDigit || c == '-' || c == '+' || c == '.' || c == 'e'

private theorem isNumberChar_of_mem_toDigits {n : Nat} {c : Char} (member : c ∈ Nat.toDigits 10 n) :
    isNumberChar c = true := by
  have digit : c.isDigit = true := Nat.isDigit_of_mem_toDigits (by decide) (by decide) member
  simp [isNumberChar, digit]

/-- A written number: not empty, and of number characters only. -/
def IsNumberText (text : List Char) : Prop :=
  text ≠ [] ∧ ∀ c ∈ text, isNumberChar c = true

private theorem isNumberText_toDigits (n : Nat) : IsNumberText (Nat.toDigits 10 n) :=
  ⟨Nat.toDigits_ne_nil, fun _ member => isNumberChar_of_mem_toDigits member⟩

private theorem isNumberText_negative {text : List Char} (magnitude : IsNumberText text) :
    IsNumberText ('-' :: text) := by
  refine ⟨List.cons_ne_nil _ _, ?_⟩
  intro c member
  rcases List.mem_cons.mp member with rfl | inside
  · decide
  · exact magnitude.2 c inside

private theorem isNumberText_integer (n : Int) : IsNumberText (Number.integer n).text := by
  show IsNumberText (toString n).toList
  cases n with
  | ofNat n =>
      have text : (toString (Int.ofNat n)).toList = Nat.toDigits 10 n := by
        show (Nat.repr n).toList = _
        simp [Nat.repr_eq_ofList_toDigits]
      rw [text]
      exact isNumberText_toDigits n
  | negSucc n =>
      have text : (toString (Int.negSucc n)).toList = '-' :: Nat.toDigits 10 (n + 1) := by
        show ("-" ++ Nat.repr (n + 1)).toList = _
        simp [Nat.repr_eq_ofList_toDigits]
      rw [text]
      exact isNumberText_negative (isNumberText_toDigits (n + 1))

private theorem isNumberText_render (d : Digits) :
    IsNumberText (NumberFormat.standard.render d) := by
  have digits (c : Char) (member : c ∈ Nat.toDigits 10 d.digits) : isNumberChar c = true :=
    isNumberChar_of_mem_toDigits member
  unfold NumberFormat.render
  dsimp only
  split
  · split
    · refine ⟨by simp, ?_⟩
      intro c member
      simp only [List.mem_append, List.mem_replicate, List.mem_cons, List.not_mem_nil, or_false]
        at member
      rcases member with (inside | ⟨_, rfl⟩) | rfl | rfl
      · exact digits c inside
      all_goals decide
    · split
      · refine ⟨by simp, ?_⟩
        intro c member
        simp only [List.mem_append, List.mem_cons] at member
        rcases member with inside | rfl | inside
        · exact digits c (List.mem_of_mem_take inside)
        · decide
        · exact digits c (List.mem_of_mem_drop inside)
      · refine ⟨by simp, ?_⟩
        intro c member
        simp only [List.mem_append, List.mem_cons, List.mem_replicate] at member
        rcases member with (rfl | rfl | ⟨_, rfl⟩) | inside
        · decide
        · decide
        · decide
        · exact digits c inside
  · refine ⟨by simp, ?_⟩
    intro c member
    simp only [List.mem_append, List.mem_cons] at member
    rcases member with (inside | inside) | rfl | sign | inside
    · exact digits c (List.mem_of_mem_take inside)
    · split at inside
      · exact absurd inside List.not_mem_nil
      · rcases List.mem_cons.mp inside with rfl | later
        · decide
        · exact digits c (List.mem_of_mem_drop later)
    · decide
    · rw [sign]
      split <;> decide
    · exact isNumberChar_of_mem_toDigits inside

private theorem isNumberText_text (n : Number) : IsNumberText n.text := by
  cases n with
  | integer n => exact isNumberText_integer n
  | float x =>
      have magnitude : IsNumberText
          (if x.isZero then ['0', '.', '0'] else NumberFormat.standard.render (shortest x)) := by
        split
        · refine ⟨by simp, ?_⟩
          intro c member
          simp only [List.mem_cons, List.not_mem_nil, or_false] at member
          rcases member with rfl | rfl | rfl
          all_goals decide
        · exact isNumberText_render _
      show IsNumberText x.text
      unfold Binary64.text
      dsimp only
      split
      · exact isNumberText_negative magnitude
      · exact magnitude

/-- A text that no number text goes on into. -/
def Delimited (rest : List Char) : Prop :=
  ∀ c ∈ rest.head?, isNumberChar c = false

private theorem takeWhile_isNumberChar {text rest : List Char} (number : IsNumberText text)
    (delimited : Delimited rest) : (text ++ rest).takeWhile isNumberChar = text := by
  rw [List.takeWhile_append_of_pos number.2]
  cases rest with
  | nil => simp
  | cons c rest =>
      have outside : isNumberChar c = false := delimited c rfl
      simp [outside]

private theorem number_split {left right rest other : List Char} (leftNumber : IsNumberText left)
    (rightNumber : IsNumberText right) (delimited : Delimited rest) (otherDelimited : Delimited other)
    (same : left ++ rest = right ++ other) : left = right ∧ rest = other := by
  have texts : left = right := by
    rw [← takeWhile_isNumberChar leftNumber delimited, same,
      takeWhile_isNumberChar rightNumber otherDelimited]
  rw [texts] at same
  exact ⟨texts, List.append_cancel_left same⟩

/-! ## Strings -/

/-- The number below sixteen with a hexadecimal digit. -/
def digitValue (digit : Char) : Nat :=
  ((List.range 16).find? fun n => Text.hexDigit n = digit).getD 0

/-- Splits one character off the inside of a quoted text. -/
def unescape : List Char → Option (Char × List Char)
  | '\\' :: '"' :: rest => some ('"', rest)
  | '\\' :: '\\' :: rest => some ('\\', rest)
  | '\\' :: 'b' :: rest => some (Char.ofNat 0x8, rest)
  | '\\' :: 't' :: rest => some (Char.ofNat 0x9, rest)
  | '\\' :: 'n' :: rest => some (Char.ofNat 0xA, rest)
  | '\\' :: 'f' :: rest => some (Char.ofNat 0xC, rest)
  | '\\' :: 'r' :: rest => some (Char.ofNat 0xD, rest)
  | '\\' :: 'u' :: '0' :: '0' :: high :: low :: rest =>
      some (Char.ofNat (digitValue high * 16 + digitValue low), rest)
  | '"' :: _ => none
  | c :: rest => some (c, rest)
  | [] => none

private theorem digitValue_hexDigit {n : Nat} (small : n < 16) :
    digitValue (Text.hexDigit n) = n := by
  have every : ∀ n < 16, digitValue (Text.hexDigit n) = n := by decide
  exact every n small

private theorem unescape_escapeChar (c : Char) (rest : List Char) :
    unescape (Value.escapeChar c ++ rest) = some (c, rest) := by
  have code {n : Nat} (is : c.toNat = n) : Char.ofNat n = c := by
    rw [← is, Char.ofNat_toNat]
  unfold Value.escapeChar
  split_ifs with quote backslash backspace tab newline formFeed carriageReturn control
  · rw [quote]
    rfl
  · rw [backslash]
    rfl
  · rw [← code backspace]
    rfl
  · rw [← code tab]
    rfl
  · rw [← code newline]
    rfl
  · rw [← code formFeed]
    rfl
  · rw [← code carriageReturn]
    rfl
  · have high : digitValue (Text.hexDigit (c.toNat / 16)) = c.toNat / 16 :=
      digitValue_hexDigit (by omega)
    have low : digitValue (Text.hexDigit (c.toNat % 16)) = c.toNat % 16 :=
      digitValue_hexDigit (by omega)
    show some (Char.ofNat (digitValue (Text.hexDigit (c.toNat / 16)) * 16 +
      digitValue (Text.hexDigit (c.toNat % 16))), rest) = some (c, rest)
    rw [high, low, Nat.div_add_mod', Char.ofNat_toNat]
  · simp only [List.singleton_append]
    unfold unescape
    split <;> simp_all

private theorem escaped_split {left right rest other : List Char}
    (same : left.flatMap Value.escapeChar ++ '"' :: rest =
      right.flatMap Value.escapeChar ++ '"' :: other) : left = right ∧ rest = other := by
  induction left generalizing right with
  | nil =>
      cases right with
      | nil => exact ⟨rfl, (List.cons.inj same).2⟩
      | cons d right =>
          have read := congrArg unescape same
          rw [List.flatMap_cons, List.append_assoc, unescape_escapeChar] at read
          exact absurd read (by simp [unescape])
  | cons c left inductionHypothesis =>
      cases right with
      | nil =>
          have read := congrArg unescape same
          rw [List.flatMap_cons, List.append_assoc, unescape_escapeChar] at read
          exact absurd read (by simp [unescape])
      | cons d right =>
          have read := congrArg unescape same
          rw [List.flatMap_cons, List.flatMap_cons, List.append_assoc, List.append_assoc,
            unescape_escapeChar, unescape_escapeChar, Option.some.injEq, Prod.mk.injEq] at read
          obtain ⟨first, later⟩ := read
          obtain ⟨others, rests⟩ := inductionHypothesis later
          exact ⟨by rw [first, others], rests⟩

private theorem quote_split {left right : String} {rest other : List Char}
    (same : Value.quote left ++ rest = Value.quote right ++ other) : left = right ∧ rest = other := by
  unfold Value.quote at same
  simp only [List.cons_append, List.append_assoc, List.nil_append, List.cons.injEq, true_and]
    at same
  obtain ⟨letters, rests⟩ := escaped_split same
  exact ⟨String.toList_inj.mp letters, rests⟩

/-! ## Values -/

/-- What the first character of a text says about the value. -/
inductive Lead where
  | null
  | bool (b : Bool)
  | number
  | string
  | array
  | object
  | other
  deriving DecidableEq

def Value.lead : Value → Lead
  | .null => .null
  | .bool b => .bool b
  | .number _ => .number
  | .string _ => .string
  | .array _ => .array
  | .object _ => .object

def leadOf (c : Char) : Lead :=
  if isNumberChar c then .number
  else if c = 'n' then .null
  else if c = 't' then .bool true
  else if c = 'f' then .bool false
  else if c = '"' then .string
  else if c = '[' then .array
  else if c = Char.ofNat 0x7B then .object
  else .other

private theorem chars_head (value : Value) :
    ∃ first rest, value.chars = first :: rest ∧ leadOf first = value.lead := by
  cases value with
  | null => exact ⟨_, _, rfl, by decide⟩
  | bool b => cases b <;> exact ⟨_, _, rfl, by decide⟩
  | number n =>
      obtain ⟨filled, numberChars⟩ := isNumberText_text n
      obtain ⟨first, rest, shape⟩ := List.exists_cons_of_ne_nil filled
      refine ⟨first, rest, shape, ?_⟩
      rw [leadOf, if_pos (numberChars first (by rw [shape]; exact List.mem_cons_self))]
      rfl
  | string s => exact ⟨_, _, rfl, rfl⟩
  | array items => exact ⟨_, _, rfl, rfl⟩
  | object members => exact ⟨_, _, rfl, rfl⟩

private theorem lead_eq {left right : Value} {rest other : List Char}
    (same : left.chars ++ rest = right.chars ++ other) : left.lead = right.lead := by
  obtain ⟨leftFirst, leftRest, leftShape, leftLead⟩ := chars_head left
  obtain ⟨rightFirst, rightRest, rightShape, rightLead⟩ := chars_head right
  rw [leftShape, rightShape, List.cons_append, List.cons_append] at same
  rw [← leftLead, ← rightLead, (List.cons.inj same).1]

/-- What follows an item of an array. -/
def itemTail (rest : List Value) : List Char :=
  if rest.isEmpty then [']'] else ',' :: Value.itemChars rest

/-- What follows a member of an object. -/
def memberTail (rest : List (String × Value)) : List Char :=
  if rest.isEmpty then [Char.ofNat 0x7D] else ',' :: Value.memberChars rest

private theorem itemChars_cons (item : Value) (rest : List Value) :
    Value.itemChars (item :: rest) = item.chars ++ itemTail rest := by
  cases rest <;> rfl

private theorem memberChars_cons (key : String) (value : Value) (rest : List (String × Value)) :
    Value.memberChars ((key, value) :: rest) =
      Value.quote key ++ ':' :: (value.chars ++ memberTail rest) := by
  cases rest <;> simp [Value.memberChars, memberTail]

private theorem delimited_itemTail (rest : List Value) (after : List Char) :
    Delimited (itemTail rest ++ after) := by
  cases rest <;> simp [itemTail, Delimited, isNumberChar]

private theorem delimited_memberTail (rest : List (String × Value)) (after : List Char) :
    Delimited (memberTail rest ++ after) := by
  cases rest <;> simp [memberTail, Delimited, isNumberChar]

/-- An array does not end where an item begins. -/
theorem bracket_ne_chars (value : Value) (rest other : List Char) :
    ']' :: rest ≠ value.chars ++ other := by
  intro same
  obtain ⟨first, later, shape, lead⟩ := chars_head value
  rw [shape] at same
  have bracket : leadOf ']' = .other := by decide
  rw [← (List.cons.inj same).1, bracket] at lead
  cases value <;> exact absurd lead (by simp [Value.lead])

mutual

/-- Texts of values that go on differently only behind them are texts of one spelling. -/
theorem chars_split (left right : Value) {rest other : List Char} (delimited : Delimited rest)
    (otherDelimited : Delimited other) (same : left.chars ++ rest = right.chars ++ other) :
    left.spelling = right.spelling ∧ rest = other := by
  have leads := lead_eq same
  match left, right with
  | .null, .null => exact ⟨rfl, List.append_cancel_left same⟩
  | .bool b, .bool c =>
      obtain rfl : b = c := Lead.bool.inj leads
      exact ⟨rfl, List.append_cancel_left same⟩
  | .number m, .number n =>
      obtain ⟨texts, rests⟩ := number_split (isNumberText_text m) (isNumberText_text n) delimited
        otherDelimited same
      exact ⟨congrArg Spelling.number texts, rests⟩
  | .string s, .string t =>
      obtain ⟨strings, rests⟩ := quote_split same
      exact ⟨congrArg Spelling.string strings, rests⟩
  | .array xs, .array ys =>
      obtain ⟨items, rests⟩ := itemChars_split xs ys (List.cons.inj same).2
      exact ⟨congrArg Spelling.array items, rests⟩
  | .object xs, .object ys =>
      obtain ⟨members, rests⟩ := memberChars_split xs ys (List.cons.inj same).2
      exact ⟨congrArg Spelling.object members, rests⟩

theorem itemChars_split (left right : List Value) {rest other : List Char}
    (same : Value.itemChars left ++ rest = Value.itemChars right ++ other) :
    spellItems left = spellItems right ∧ rest = other := by
  match left, right with
  | [], [] => exact ⟨rfl, (List.cons.inj same).2⟩
  | [], item :: items =>
      rw [itemChars_cons, List.append_assoc] at same
      exact absurd same (bracket_ne_chars item _ _)
  | item :: items, [] =>
      rw [itemChars_cons, List.append_assoc] at same
      exact absurd same.symm (bracket_ne_chars item _ _)
  | first :: left, second :: right =>
      rw [itemChars_cons, itemChars_cons, List.append_assoc, List.append_assoc] at same
      obtain ⟨items, tails⟩ := chars_split first second (delimited_itemTail left rest)
        (delimited_itemTail right other) same
      cases left with
      | nil =>
          cases right with
          | nil =>
              refine ⟨?_, (List.cons.inj tails).2⟩
              show [first.spelling] = [second.spelling]
              rw [items]
          | cons item right => exact absurd (List.cons.inj tails).1 (by decide)
      | cons item left =>
          cases right with
          | nil => exact absurd (List.cons.inj tails).1 (by decide)
          | cons other right =>
              obtain ⟨others, rests⟩ :=
                itemChars_split (item :: left) (other :: right) (List.cons.inj tails).2
              refine ⟨?_, rests⟩
              show first.spelling :: spellItems (item :: left) =
                second.spelling :: spellItems (other :: right)
              rw [items, others]

theorem memberChars_split (left right : List (String × Value)) {rest other : List Char}
    (same : Value.memberChars left ++ rest = Value.memberChars right ++ other) :
    spellMembers left = spellMembers right ∧ rest = other := by
  match left, right with
  | [], [] => exact ⟨rfl, (List.cons.inj same).2⟩
  | [], (key, value) :: members =>
      rw [memberChars_cons] at same
      exact absurd (List.cons.inj same).1 (by decide)
  | (key, value) :: members, [] =>
      rw [memberChars_cons] at same
      exact absurd (List.cons.inj same).1 (by decide)
  | (key, value) :: left, (otherKey, otherValue) :: right =>
      rw [memberChars_cons, memberChars_cons, List.append_assoc, List.append_assoc] at same
      obtain ⟨keys, values⟩ := quote_split same
      rw [List.cons_append, List.cons_append, List.append_assoc, List.append_assoc] at values
      have values := (List.cons.inj values).2
      obtain ⟨spellings, tails⟩ := chars_split value otherValue (delimited_memberTail left rest)
        (delimited_memberTail right other) values
      cases left with
      | nil =>
          cases right with
          | nil =>
              refine ⟨?_, (List.cons.inj tails).2⟩
              show [(key, value.spelling)] = [(otherKey, otherValue.spelling)]
              rw [keys, spellings]
          | cons member right => exact absurd (List.cons.inj tails).1 (by decide)
      | cons member left =>
          cases right with
          | nil => exact absurd (List.cons.inj tails).1 (by decide)
          | cons another right =>
              obtain ⟨others, rests⟩ :=
                memberChars_split (member :: left) (another :: right) (List.cons.inj tails).2
              refine ⟨?_, rests⟩
              show (key, value.spelling) :: spellMembers (member :: left) =
                (otherKey, otherValue.spelling) :: spellMembers (another :: right)
              rw [keys, spellings, others]

end

mutual

private theorem chars_of_spelling (left right : Value) (same : left.spelling = right.spelling) :
    left.chars = right.chars := by
  match left, right with
  | .null, .null => rfl
  | .bool b, .bool c => rw [Spelling.bool.inj same]
  | .number m, .number n => exact Spelling.number.inj same
  | .string s, .string t => rw [Spelling.string.inj same]
  | .array xs, .array ys =>
      show '[' :: Value.itemChars xs = '[' :: Value.itemChars ys
      rw [itemChars_of_spelling xs ys (Spelling.array.inj same)]
  | .object xs, .object ys =>
      show _ :: Value.memberChars xs = _ :: Value.memberChars ys
      rw [memberChars_of_spelling xs ys (Spelling.object.inj same)]

theorem itemChars_of_spelling (left right : List Value) (same : spellItems left = spellItems right) :
    Value.itemChars left = Value.itemChars right := by
  match left, right with
  | [], [] => rfl
  | first :: left, second :: right =>
      obtain ⟨items, others⟩ := List.cons.inj same
      have tails : itemTail left = itemTail right := by
        cases left with
        | nil => cases right with
          | nil => rfl
          | cons item right => exact absurd others (by simp [spellItems])
        | cons item left => cases right with
          | nil => exact absurd others (by simp [spellItems])
          | cons other right =>
              show ',' :: Value.itemChars (item :: left) = ',' :: Value.itemChars (other :: right)
              rw [itemChars_of_spelling (item :: left) (other :: right) others]
      rw [itemChars_cons, itemChars_cons, chars_of_spelling first second items, tails]

theorem memberChars_of_spelling (left right : List (String × Value))
    (same : spellMembers left = spellMembers right) :
    Value.memberChars left = Value.memberChars right := by
  match left, right with
  | [], [] => rfl
  | (key, value) :: left, (otherKey, otherValue) :: right =>
      obtain ⟨member, others⟩ := List.cons.inj same
      obtain ⟨keys, spellings⟩ := Prod.mk.inj member
      have tails : memberTail left = memberTail right := by
        cases left with
        | nil => cases right with
          | nil => rfl
          | cons item right => exact absurd others (by simp [spellMembers])
        | cons item left => cases right with
          | nil => exact absurd others (by simp [spellMembers])
          | cons other right =>
              show ',' :: Value.memberChars (item :: left) = ',' :: Value.memberChars (other :: right)
              rw [memberChars_of_spelling (item :: left) (other :: right) others]
      rw [memberChars_cons, memberChars_cons, keys, chars_of_spelling value otherValue spellings,
        tails]

end

/-- Values are spelled alike exactly if their compact texts are equal. -/
theorem spelling_eq_iff {left right : Value} :
    left.spelling = right.spelling ↔ left.chars = right.chars := by
  constructor
  · exact chars_of_spelling left right
  · intro same
    have delimited : Delimited [] := by simp [Delimited]
    exact (chars_split left right delimited delimited (by rw [same])).1

end Admission.Json
