import Admission.Text.Utf8

/-!
Contract: reading UTF-8 and writing it are inverse to each other.

Owns:
- `Spells`, the bytes of each character, and `nextScalar_eq_some_iff`, which of them are read;
- `decodeUtf8?_eq_some_iff`: exactly the bytes of a text are read, as that text.
-/

namespace Admission.Text

/-! ## Characters and their bytes -/

/-- The bytes of a character, by how many they are. -/
inductive Spells : List UInt8 → Char → Prop
  | one {a : Nat} (below : a < 0x80) : Spells [.ofNat a] (Char.ofNat a)
  | two {a b : Nat} (shortest : 2 ≤ a) (lead : a < 32) (second : b < 64) :
      Spells [.ofNat (a + 192), .ofNat (b + 128)] (Char.ofNat (a * 64 + b))
  | three {a b d : Nat} (lead : a < 16) (second : b < 64) (third : d < 64)
      (shortest : 32 ≤ a * 64 + b) (scalar : a = 13 → b < 32) :
      Spells [.ofNat (a + 224), .ofNat (b + 128), .ofNat (d + 128)]
        (Char.ofNat ((a * 64 + b) * 64 + d))
  | four {a b d e : Nat} (second : b < 64) (third : d < 64) (fourth : e < 64)
      (shortest : 16 ≤ a * 64 + b) (scalar : a * 64 + b < 272) :
      Spells [.ofNat (a + 240), .ofNat (b + 128), .ofNat (d + 128), .ofNat (e + 128)]
        (Char.ofNat (((a * 64 + b) * 64 + d) * 64 + e))

private theorem toNat_ofNat_of_valid {value : Nat} (valid : value.isValidChar) :
    (Char.ofNat value).val.toNat = value := by
  unfold Char.ofNat
  rw [dif_pos valid]
  rfl

private theorem encode_of_spells {bytes : List UInt8} {c : Char} (spells : Spells bytes c) :
    String.utf8EncodeChar c = bytes := by
  cases spells with
  | @one a below =>
      have valid : a.isValidChar := .inl (by omega)
      simp only [String.utf8EncodeChar, toNat_ofNat_of_valid valid]
      rw [if_pos (by omega)]
  | @two a b shortest lead second =>
      have valid : (a * 64 + b).isValidChar := .inl (by omega)
      have high : (a * 64 + b) / 64 % 32 = a := by omega
      have low : (a * 64 + b) % 64 = b := by omega
      simp only [String.utf8EncodeChar, toNat_ofNat_of_valid valid, high, low]
      rw [if_neg (by omega), if_pos (by omega)]
  | @three a b d lead second third shortest scalar =>
      have valid : ((a * 64 + b) * 64 + d).isValidChar := by
        unfold Nat.isValidChar
        omega
      have high : ((a * 64 + b) * 64 + d) / 4096 % 16 = a := by omega
      have middle : ((a * 64 + b) * 64 + d) / 64 % 64 = b := by omega
      have low : ((a * 64 + b) * 64 + d) % 64 = d := by omega
      simp only [String.utf8EncodeChar, toNat_ofNat_of_valid valid, high, middle, low]
      rw [if_neg (by omega), if_neg (by omega), if_pos (by omega)]
  | @four a b d e second third fourth shortest scalar =>
      have valid : (((a * 64 + b) * 64 + d) * 64 + e).isValidChar := by
        unfold Nat.isValidChar
        omega
      have high : (((a * 64 + b) * 64 + d) * 64 + e) / 262144 % 8 = a := by omega
      have upper : (((a * 64 + b) * 64 + d) * 64 + e) / 4096 % 64 = b := by omega
      have lower : (((a * 64 + b) * 64 + d) * 64 + e) / 64 % 64 = d := by omega
      have low : (((a * 64 + b) * 64 + d) * 64 + e) % 64 = e := by omega
      simp only [String.utf8EncodeChar, toNat_ofNat_of_valid valid, high, upper, lower, low]
      rw [if_neg (by omega), if_neg (by omega), if_neg (by omega)]

private theorem exists_spells (c : Char) : ∃ bytes, Spells bytes c := by
  have valid : c.toNat < 55296 ∨ 57343 < c.toNat ∧ c.toNat < 1114112 := c.valid
  have point := Char.ofNat_toNat c
  by_cases one : c.toNat < 0x80
  · have spells := Spells.one one
    rw [point] at spells
    exact ⟨_, spells⟩
  by_cases two : c.toNat < 0x800
  · have digits : c.toNat / 64 * 64 + c.toNat % 64 = c.toNat := by omega
    have spells := Spells.two (a := c.toNat / 64) (b := c.toNat % 64) (by omega) (by omega)
      (by omega)
    rw [digits, point] at spells
    exact ⟨_, spells⟩
  by_cases three : c.toNat < 0x10000
  · have digits : (c.toNat / 4096 * 64 + c.toNat / 64 % 64) * 64 + c.toNat % 64 = c.toNat := by
      omega
    have spells := Spells.three (a := c.toNat / 4096) (b := c.toNat / 64 % 64) (d := c.toNat % 64)
      (by omega) (by omega) (by omega) (by omega) (by omega)
    rw [digits, point] at spells
    exact ⟨_, spells⟩
  · have digits : ((c.toNat / 262144 * 64 + c.toNat / 4096 % 64) * 64 + c.toNat / 64 % 64) * 64 +
        c.toNat % 64 = c.toNat := by omega
    have spells := Spells.four (a := c.toNat / 262144) (b := c.toNat / 4096 % 64)
      (d := c.toNat / 64 % 64) (e := c.toNat % 64) (by omega) (by omega) (by omega) (by omega)
      (by omega)
    rw [digits, point] at spells
    exact ⟨_, spells⟩

/-- A character has a lead byte. -/
theorem exists_lead (c : Char) :
    ∃ lead tail, String.utf8EncodeChar c = lead :: tail ∧ Spells (lead :: tail) c := by
  obtain ⟨bytes, spells⟩ := exists_spells c
  cases bytes with
  | nil => cases spells
  | cons lead tail => exact ⟨lead, tail, encode_of_spells spells, spells⟩

/-! ## Bytes -/

/-- What may follow a lead byte, by the number of bytes of its character. -/
inductive Leads : UInt8 → Continuation → Prop
  | two {a : Nat} (shortest : 2 ≤ a) (below : a < 32) :
      Leads (.ofNat (a + 192)) ⟨0x80, 0xBF, 0⟩
  | three {a : Nat} (below : a < 16) :
      Leads (.ofNat (a + 224)) ⟨if a = 0 then 0xA0 else 0x80, if a = 13 then 0x9F else 0xBF, 1⟩
  | four {a : Nat} (below : a < 5) :
      Leads (.ofNat (a + 240)) ⟨if a = 0 then 0x90 else 0x80, if a = 4 then 0x8F else 0xBF, 2⟩

deriving instance DecidableEq for Continuation

private theorem continuationOf_of_leads {lead : UInt8} {bounds : Continuation}
    (leads : Leads lead bounds) :
    continuationOf lead = some bounds := by
  cases leads with
  | @two a shortest below =>
      have each : ∀ a < 32, 2 ≤ a →
          continuationOf (.ofNat (a + 192)) = some ⟨0x80, 0xBF, 0⟩ := by decide +kernel
      exact each a below shortest
  | @three a below =>
      have each : ∀ a < 16, continuationOf (.ofNat (a + 224)) =
          some ⟨if a = 0 then 0xA0 else 0x80, if a = 13 then 0x9F else 0xBF, 1⟩ := by decide +kernel
      exact each a below
  | @four a below =>
      have each : ∀ a < 5, continuationOf (.ofNat (a + 240)) =
          some ⟨if a = 0 then 0x90 else 0x80, if a = 4 then 0x8F else 0xBF, 2⟩ := by decide +kernel
      exact each a below

private theorem Leads.continues {lead : UInt8} {bounds : Continuation} (leads : Leads lead bounds) :
    128 ≤ bounds.low.toNat ∧ bounds.high.toNat ≤ 191 := by
  cases leads with
  | two shortest below => decide
  | three below => constructor <;> dsimp only <;> split <;> decide
  | four below => constructor <;> dsimp only <;> split <;> decide

private theorem ofNat_toNat_sub (byte : UInt8) {base : Nat} (above : base ≤ byte.toNat) :
    byte = .ofNat (byte.toNat - base + base) := by
  rw [Nat.sub_add_cancel above, UInt8.ofNat_toNat]

private theorem toNat_between {low high byte : UInt8}
    (between : (low ≤ byte && byte ≤ high) = true) :
    low.toNat ≤ byte.toNat ∧ byte.toNat ≤ high.toNat := by
  rw [Bool.and_eq_true, decide_eq_true_eq, decide_eq_true_eq] at between
  exact between

private theorem leads_of_continuationOf {lead : UInt8} {bounds : Continuation}
    (follows : continuationOf lead = some bounds) : Leads lead bounds := by
  have three {a : Nat} (below : a < 16) (inner : a ≠ 0 ∧ a ≠ 13) :
      Leads (.ofNat (a + 224)) ⟨0x80, 0xBF, 1⟩ := by
    have leads := Leads.three below
    rwa [if_neg inner.1, if_neg inner.2] at leads
  have four {a : Nat} (below : a < 5) (inner : a ≠ 0 ∧ a ≠ 4) :
      Leads (.ofNat (a + 240)) ⟨0x80, 0xBF, 2⟩ := by
    have leads := Leads.four below
    rwa [if_neg inner.1, if_neg inner.2] at leads
  have different {other : UInt8} (apart : ¬(lead == other) = true) : lead.toNat ≠ other.toNat := by
    intro same
    exact apart (beq_iff_eq.mpr (UInt8.toNat_inj.mp same))
  unfold continuationOf at follows
  split at follows
  · rename_i between
    have range : 194 ≤ lead.toNat ∧ lead.toNat ≤ 223 := toNat_between between
    have same : lead = .ofNat (lead.toNat - 192 + 192) := ofNat_toNat_sub lead (by omega)
    rw [same, ← Option.some.inj follows]
    exact .two (by omega) (by omega)
  split at follows
  · rename_i first
    rw [beq_iff_eq.mp first, ← Option.some.inj follows]
    exact Leads.three (a := 0) (by decide)
  rename_i notFirst
  have notFirst : lead.toNat ≠ 224 := different notFirst
  split at follows
  · rename_i surrogate
    rw [beq_iff_eq.mp surrogate, ← Option.some.inj follows]
    exact Leads.three (a := 13) (by decide)
  rename_i notSurrogate
  have notSurrogate : lead.toNat ≠ 237 := different notSurrogate
  split at follows
  · rename_i between
    have range : 225 ≤ lead.toNat ∧ lead.toNat ≤ 239 := toNat_between between
    have same : lead = .ofNat (lead.toNat - 224 + 224) := ofNat_toNat_sub lead (by omega)
    rw [same, ← Option.some.inj follows]
    exact three (by omega) (by omega)
  split at follows
  · rename_i first
    rw [beq_iff_eq.mp first, ← Option.some.inj follows]
    exact Leads.four (a := 0) (by decide)
  split at follows
  · rename_i between
    have range : 241 ≤ lead.toNat ∧ lead.toNat ≤ 243 := toNat_between between
    have same : lead = .ofNat (lead.toNat - 240 + 240) := ofNat_toNat_sub lead (by omega)
    rw [same, ← Option.some.inj follows]
    exact four (by omega) (by omega)
  split at follows
  · rename_i last
    rw [beq_iff_eq.mp last, ← Option.some.inj follows]
    exact Leads.four (a := 4) (by decide)
  · cases follows

/-- A byte that continues a character is one of 64. -/
theorem exists_of_continues {low high byte : UInt8}
    (between : (low ≤ byte && byte ≤ high) = true) (above : 128 ≤ low.toNat)
    (below : high.toNat ≤ 191) :
    ∃ b < 64, byte = .ofNat (b + 128) ∧ low.toNat ≤ b + 128 ∧ b + 128 ≤ high.toNat := by
  have range := toNat_between between
  refine ⟨byte.toNat - 128, by omega, ofNat_toNat_sub byte (by omega), by omega, by omega⟩

private theorem continues_ofNat {low high : UInt8} {b : Nat} (above : low.toNat ≤ b + 128)
    (below : b + 128 ≤ high.toNat) :
    (low ≤ UInt8.ofNat (b + 128) && UInt8.ofNat (b + 128) ≤ high) = true := by
  have small : (UInt8.ofNat (b + 128)).toNat = b + 128 :=
    UInt8.toNat_ofNat_of_lt' (Nat.lt_of_le_of_lt below high.toNat_lt)
  rw [Bool.and_eq_true, decide_eq_true_eq, decide_eq_true_eq, UInt8.le_iff_toNat_le,
    UInt8.le_iff_toNat_le, small]
  exact ⟨above, below⟩

private theorem digit_of_continues {b : Nat} (below : b < 64) :
    (UInt8.ofNat (b + 128)).toNat % 64 = b := by
  rw [UInt8.toNat_ofNat_of_lt' (show b + 128 < 256 by omega)]
  omega

/-! ## One character -/

private theorem continueScalar_succ {bits tail value : Nat} {bytes rest : List UInt8} :
    continueScalar bits (tail + 1) bytes = (some value, rest) ↔
      ∃ b < 64, ∃ after, bytes = .ofNat (b + 128) :: after ∧
        continueScalar (bits * 64 + b) tail after = (some value, rest) := by
  constructor
  · intro read
    cases bytes with
    | nil => cases read
    | cons byte after =>
        unfold continueScalar at read
        split at read
        · rename_i between
          obtain ⟨b, below, rfl, _⟩ := exists_of_continues between (by decide) (by decide)
          rw [digit_of_continues below] at read
          exact ⟨b, below, after, rfl, read⟩
        · cases read
  · rintro ⟨b, below, after, rfl, read⟩
    have above : (0x80 : UInt8).toNat ≤ b + 128 := Nat.le_add_left 128 b
    have within : b + 128 ≤ (0xBF : UInt8).toNat :=
      Nat.add_le_add_right (Nat.le_of_lt_succ below) 128
    unfold continueScalar
    rw [if_pos (continues_ofNat above within), digit_of_continues below]
    exact read

/-- What is read after a lead byte. -/
theorem nextScalar_of_leads {lead : UInt8} {bounds : Continuation} (leads : Leads lead bounds)
    (wide : ¬lead < 0x80) {rest remaining : List UInt8} {c : Char} :
    nextScalar lead rest = (some c, remaining) ↔
      ∃ b < 64, bounds.low.toNat ≤ b + 128 ∧ b + 128 ≤ bounds.high.toNat ∧
        ∃ after value, rest = .ofNat (b + 128) :: after ∧ Char.ofNat value = c ∧
          continueScalar (leadBits lead bounds.tail * 64 + b) bounds.tail after =
            (some value, remaining) := by
  obtain ⟨above, below⟩ := leads.continues
  unfold nextScalar
  rw [if_neg wide, continuationOf_of_leads leads]
  constructor
  · intro read
    cases rest with
    | nil => cases read
    | cons second after =>
        dsimp only at read
        split at read
        · rename_i between
          obtain ⟨b, small, rfl, atLeast, atMost⟩ := exists_of_continues between above below
          rw [digit_of_continues small] at read
          obtain ⟨point, rfl⟩ := Prod.mk.inj read
          obtain ⟨value, given, rfl⟩ := Option.map_eq_some_iff.mp point
          exact ⟨b, small, atLeast, atMost, after, value, rfl, rfl, Prod.ext given rfl⟩
        · cases read
  · rintro ⟨b, small, atLeast, atMost, after, value, rfl, rfl, read⟩
    dsimp only
    rw [if_pos (continues_ofNat atLeast atMost), digit_of_continues small, read]
    rfl

private theorem not_ascii {base a : Nat} (above : 128 ≤ a + base) (below : a + base < 256) :
    ¬UInt8.ofNat (a + base) < 0x80 := by
  rw [UInt8.lt_iff_toNat_lt, UInt8.toNat_ofNat_of_lt' below]
  exact Nat.not_lt.mpr above

/-- The bits of a lead byte that are its character's. -/
theorem leadBits_ofNat {a base tail : Nat} (below : a < 32 >>> tail)
    (aligned : 32 >>> tail ∣ base) (bounded : a + base < 256) :
    leadBits (.ofNat (a + base)) tail = a := by
  unfold leadBits
  rw [UInt8.toNat_ofNat_of_lt' bounded, Nat.add_mod, Nat.mod_eq_zero_of_dvd aligned, Nat.add_zero,
    Nat.mod_mod, Nat.mod_eq_of_lt below]

private theorem nextScalar_of_spells {lead : UInt8} {tail : List UInt8} {c : Char}
    (spells : Spells (lead :: tail) c) (rest : List UInt8) :
    nextScalar lead (tail ++ rest) = (some c, rest) := by
  cases spells with
  | @one a below =>
      have value : (UInt8.ofNat a).toNat = a := UInt8.toNat_ofNat_of_lt' (show a < 256 by omega)
      have ascii : UInt8.ofNat a < 0x80 := by
        rw [UInt8.lt_iff_toNat_lt, value]
        exact below
      unfold nextScalar
      rw [if_pos ascii, value]
      rfl
  | @two a b shortest lead second =>
      have bits : leadBits (.ofNat (a + 192)) 0 = a := leadBits_ofNat lead (by decide) (by omega)
      rw [nextScalar_of_leads (.two shortest lead) (not_ascii (by omega) (by omega)), bits]
      exact ⟨b, second, Nat.le_add_left 128 b, Nat.add_le_add_right (Nat.le_of_lt_succ second) 128,
        rest, _, rfl, rfl, rfl⟩
  | @three a b d lead second third shortest scalar =>
      have bits : leadBits (.ofNat (a + 224)) 1 = a := leadBits_ofNat lead (by decide) (by omega)
      rw [nextScalar_of_leads (.three lead) (not_ascii (by omega) (by omega)), bits]
      refine ⟨b, second, ?_, ?_, _, _, rfl, rfl, ?_⟩
      · dsimp only
        split
        · exact (by omega : 160 ≤ b + 128)
        · exact Nat.le_add_left 128 b
      · dsimp only
        split
        · exact (by omega : b + 128 ≤ 159)
        · exact (by omega : b + 128 ≤ 191)
      · exact continueScalar_succ.mpr ⟨d, third, rest, rfl, rfl⟩
  | @four a b d e second third fourth shortest scalar =>
      have bits : leadBits (.ofNat (a + 240)) 2 = a :=
        leadBits_ofNat (show a < 8 by omega) (by decide) (by omega)
      rw [nextScalar_of_leads (.four (by omega)) (not_ascii (by omega) (by omega)), bits]
      refine ⟨b, second, ?_, ?_, _, _, rfl, rfl, ?_⟩
      · dsimp only
        split
        · exact (by omega : 144 ≤ b + 128)
        · exact Nat.le_add_left 128 b
      · dsimp only
        split
        · exact (by omega : b + 128 ≤ 143)
        · exact (by omega : b + 128 ≤ 191)
      · exact continueScalar_succ.mpr
          ⟨d, third, _, rfl, continueScalar_succ.mpr ⟨e, fourth, rest, rfl, rfl⟩⟩

private theorem spells_of_nextScalar {lead : UInt8} {rest remaining : List UInt8} {c : Char}
    (read : nextScalar lead rest = (some c, remaining)) :
    ∃ tail, Spells (lead :: tail) c ∧ rest = tail ++ remaining := by
  by_cases ascii : lead < 0x80
  · unfold nextScalar at read
    rw [if_pos ascii] at read
    obtain ⟨point, rfl⟩ := Prod.mk.inj read
    have spells := Spells.one (a := lead.toNat) (UInt8.lt_iff_toNat_lt.mp ascii)
    rw [UInt8.ofNat_toNat, Option.some.inj point] at spells
    exact ⟨[], spells, rfl⟩
  cases follows : continuationOf lead with
  | none =>
      unfold nextScalar at read
      rw [if_neg ascii, follows] at read
      cases read
  | some bounds =>
      have leads := leads_of_continuationOf follows
      obtain ⟨b, second, above, below, after, value, rfl, rfl, continued⟩ :=
        (nextScalar_of_leads leads ascii).mp read
      cases leads with
      | @two a shortest lead =>
          have bits : leadBits (.ofNat (a + 192)) 0 = a :=
            leadBits_ofNat lead (by decide) (by omega)
          rw [bits] at continued
          obtain ⟨point, rfl⟩ := Prod.mk.inj continued
          rw [← Option.some.inj point]
          exact ⟨_, .two shortest lead second, rfl⟩
      | @three a lead =>
          have bits : leadBits (.ofNat (a + 224)) 1 = a :=
            leadBits_ofNat lead (by decide) (by omega)
          rw [bits] at continued
          obtain ⟨d, third, later, rfl, ended⟩ := continueScalar_succ.mp continued
          obtain ⟨point, rfl⟩ := Prod.mk.inj ended
          rw [← Option.some.inj point]
          refine ⟨_, .three lead second third ?_ ?_, rfl⟩
          · dsimp only at above
            split at above
            · have above : 160 ≤ b + 128 := above
              omega
            · omega
          · rintro rfl
            have below : b + 128 ≤ 159 := below
            omega
      | @four a lead =>
          have bits : leadBits (.ofNat (a + 240)) 2 = a :=
            leadBits_ofNat (show a < 8 by omega) (by decide) (by omega)
          rw [bits] at continued
          obtain ⟨d, third, later, rfl, further⟩ := continueScalar_succ.mp continued
          obtain ⟨e, fourth, last, rfl, ended⟩ := continueScalar_succ.mp further
          obtain ⟨point, rfl⟩ := Prod.mk.inj ended
          rw [← Option.some.inj point]
          refine ⟨_, .four second third fourth ?_ ?_, rfl⟩
          · dsimp only at above
            split at above
            · have above : 144 ≤ b + 128 := above
              omega
            · omega
          · dsimp only at below
            split at below
            · have below : b + 128 ≤ 143 := below
              omega
            · omega

/-- The character at the front of some bytes is the one whose bytes they start with. -/
theorem nextScalar_eq_some_iff {lead : UInt8} {rest remaining : List UInt8} {c : Char} :
    nextScalar lead rest = (some c, remaining) ↔
      lead :: rest = String.utf8EncodeChar c ++ remaining := by
  constructor
  · intro read
    obtain ⟨tail, spells, rfl⟩ := spells_of_nextScalar read
    rw [encode_of_spells spells, List.cons_append]
  · intro front
    obtain ⟨first, tail, bytes, spells⟩ := exists_lead c
    rw [bytes] at front
    obtain ⟨rfl, rfl⟩ := List.cons.inj front
    exact nextScalar_of_spells spells remaining

/-! ## Texts -/

/-- Exactly the bytes of a text are read, as that text. -/
theorem decodeUtf8?_eq_some_iff {bytes : List UInt8} {text : List Char} :
    decodeUtf8? bytes = some text ↔ bytes = encodeUtf8 text := by
  constructor
  · intro read
    fun_induction decodeUtf8? bytes generalizing text with
    | case1 => rw [← Option.some.inj read]; rfl
    | case2 => cases read
    | case3 lead rest c remaining split inductionHypothesis =>
        obtain ⟨later, readLater, rfl⟩ := Option.map_eq_some_iff.mp read
        rw [nextScalar_eq_some_iff.mp split, inductionHypothesis readLater]
        rfl
  · rintro rfl
    induction text with
    | nil => simp [encodeUtf8, decodeUtf8?]
    | cons c text inductionHypothesis =>
        obtain ⟨lead, tail, bytes, spells⟩ := exists_lead c
        have front : encodeUtf8 (c :: text) = lead :: (tail ++ encodeUtf8 text) := by
          rw [encodeUtf8, List.flatMap_cons, bytes]
          rfl
        rw [front, decodeUtf8?, nextScalar_of_spells spells]
        exact Option.map_eq_some_iff.mpr ⟨text, inductionHypothesis, rfl⟩

end Admission.Text
