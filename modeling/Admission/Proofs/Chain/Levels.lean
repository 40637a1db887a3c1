import Admission.Chain.Index
import Admission.Proofs.Net.RangeTable
import Admission.Proofs.Table
import Mathlib.Data.List.Pairwise
import Mathlib.Data.Set.Insert

/-!
Contract: what one level of an index stands for, whatever the levels below it are.

A level stands for a set of rules if its keys are the keys that rules have, and the value of a key
stands for the rules that have it. `part` says what the level below stands for.

Owns:
- `Table.StandsFor` and `AddressMatcher.StandsFor`, for levels by key and by range;
- the effect of an insertion on the rules that a level stands for;
- the compilation of a level: when it succeeds (`Free`), that its only error is a range claimed
  twice, and what the compiled level stands for.
-/

namespace Admission

open Admission.Net Admission.Chain

/-! ## Levels by key -/

/-- A dictionary stands for rules: a key is there exactly if some rule has it, and its value stands
for the rules that have it. -/
structure Table.StandsFor {κ α ρ : Type} [DecidableEq κ] (level : ρ → κ)
    (part : α → Set ρ → Prop) (table : Table κ α) (rules : Set ρ) : Prop where
  distinct : table.Distinct
  occurs : ∀ {key value}, table.get? key = some value → ∃ rule ∈ rules, level rule = key
  part : ∀ {key value}, table.get? key = some value → part value {rule ∈ rules | level rule = key}
  missing : ∀ {key}, table.get? key = none → ∀ rule ∈ rules, level rule ≠ key

/-- The rules with the key of a new rule, once it is in. -/
theorem rules_insert_self {κ ρ : Type} (level : ρ → κ) (rule : ρ) (rules : Set ρ) :
    {other ∈ insert rule rules | level other = level rule} =
      insert rule {other ∈ rules | level other = level rule} := by
  ext other
  simp only [Set.mem_ofPred_eq, Set.mem_insert_iff]
  constructor
  · rintro ⟨new | old, has⟩
    · exact .inl new
    · exact .inr ⟨old, has⟩
  · rintro (new | ⟨old, has⟩)
    · exact ⟨.inl new, by rw [new]⟩
    · exact ⟨.inr old, has⟩

/-- The rules with any other key than that of a new rule. -/
theorem rules_insert_of_ne {κ ρ : Type} (level : ρ → κ) {rule : ρ} {key : κ}
    (elsewhere : key ≠ level rule) (rules : Set ρ) :
    {other ∈ insert rule rules | level other = key} = {other ∈ rules | level other = key} := by
  ext other
  simp only [Set.mem_ofPred_eq, Set.mem_insert_iff]
  constructor
  · rintro ⟨new | old, has⟩
    · rw [new] at has
      exact absurd has.symm elsewhere
    · exact ⟨old, has⟩
  · rintro ⟨old, has⟩
    exact ⟨.inr old, has⟩

namespace Table

variable {κ α ρ : Type} [DecidableEq κ] {level : ρ → κ} {part : α → Set ρ → Prop}

theorem standsFor_empty : (Table.empty : Table κ α).StandsFor level part ∅ where
  distinct := distinct_empty
  occurs := by simp
  part := by simp
  missing := by simp

theorem StandsFor.keys_iff {table : Table κ α} {rules : Set ρ}
    (stands : table.StandsFor level part rules) {key : κ} :
    key ∈ table.keys ↔ ∃ rule ∈ rules, level rule = key := by
  constructor
  · intro member
    cases found : table.get? key with
    | none => exact absurd member (get?_eq_none_iff.mp found)
    | some value => exact stands.occurs found
  · rintro ⟨rule, member, has⟩
    by_contra absent
    exact stands.missing (get?_eq_none_iff.mpr absent) rule member has

/-- The value of a key stands for its rules, also where a missing key counts as an empty level. -/
theorem StandsFor.part_getD {table : Table κ α} {rules : Set ρ}
    (stands : table.StandsFor level part rules) {vacant : α} (nothing : part vacant ∅) (key : κ) :
    part ((table.get? key).getD vacant) {rule ∈ rules | level rule = key} := by
  cases found : table.get? key with
  | some value => exact stands.part found
  | none =>
      have empty : {rule ∈ rules | level rule = key} = ∅ := by
        apply Set.eq_empty_of_forall_notMem
        rintro rule ⟨member, has⟩
        exact stands.missing found rule member has
      rw [empty]
      exact nothing

/-- A new rule comes in by giving its key a value that stands for one rule more. -/
theorem StandsFor.insert {table : Table κ α} {rules : Set ρ}
    (stands : table.StandsFor level part rules) (rule : ρ) {value : α}
    (below : part value (Insert.insert rule {other ∈ rules | level other = level rule})) :
    (table.insert (level rule) value).StandsFor level part (Insert.insert rule rules) where
  distinct := stands.distinct.insert _ _
  occurs := by
    intro key found foundAt
    rw [get?_insert] at foundAt
    split at foundAt
    · rename_i here
      exact ⟨rule, Set.mem_insert _ _, here.symm⟩
    · obtain ⟨other, member, has⟩ := stands.occurs foundAt
      exact ⟨other, Set.mem_insert_of_mem _ member, has⟩
  part := by
    intro key found foundAt
    rw [get?_insert] at foundAt
    split at foundAt
    · rename_i here
      rw [here, rules_insert_self, ← Option.some.inj foundAt]
      exact below
    · rename_i elsewhere
      rw [rules_insert_of_ne level elsewhere]
      exact stands.part foundAt
  missing := by
    intro key missingAt other member
    rw [get?_insert] at missingAt
    split at missingAt
    · exact absurd missingAt (by simp)
    · rename_i elsewhere
      rcases Set.mem_insert_iff.mp member with new | old
      · rw [new]
        exact Ne.symm elsewhere
      · exact stands.missing missingAt other old

end Table

/-! ## Levels by range -/

/-- A table of ranges stands for rules: a look-up gives a value that stands for the rules of the
longest range that holds the address, and nothing if no rule has such a range. -/
structure Net.AddressMatcher.StandsFor {α ρ : Type} (level : ρ → CidrRange)
    (part : α → Set ρ → Prop) (matcher : AddressMatcher α) (rules : Set ρ) : Prop where
  found : ∀ {address value}, matcher.get? address = some value →
    ∃ range : CidrRange, range.contains address = true ∧ (∃ rule ∈ rules, level rule = range) ∧
      (∀ rule ∈ rules, (level rule).contains address = true →
        (level rule).length ≤ range.length) ∧
      part value {rule ∈ rules | level rule = range}
  missing : ∀ {address}, matcher.get? address = none →
    ∀ rule ∈ rules, (level rule).contains address = false

namespace Chain.Layout

/-! ## Compiling values -/

section Values

variable {κ α β : Type} {compile : α → Except RangeError β}

private theorem compileValues_cons (key : κ) (value : α) (rest : List (κ × α)) :
    compileValues compile ((key, value) :: rest) =
      match compile value with
      | .error cause => .error cause
      | .ok compiled =>
          match compileValues compile rest with
          | .error cause => .error cause
          | .ok others => .ok ((key, compiled) :: others) := by
  simp only [compileValues]
  cases compile value with
  | error cause => rfl
  | ok compiled => cases compileValues compile rest <;> rfl

/-- Every value compiles, each under its key, or the error is that of a value. -/
theorem compileValues_cases (compile : α → Except RangeError β) (entries : List (κ × α)) :
    (∃ results, compileValues compile entries = .ok results ∧
      List.Forall₂ (fun entry result => result.1 = entry.1 ∧ compile entry.2 = .ok result.2)
        entries results) ∨
    (∃ cause, compileValues compile entries = .error cause ∧
      ∃ entry ∈ entries, compile entry.2 = .error cause) := by
  induction entries with
  | nil => exact .inl ⟨[], rfl, .nil⟩
  | cons entry rest inductionHypothesis =>
      obtain ⟨key, value⟩ := entry
      rw [compileValues_cons]
      cases compiled : compile value with
      | error cause => exact .inr ⟨cause, rfl, (key, value), List.mem_cons_self, compiled⟩
      | ok result =>
          rcases inductionHypothesis with ⟨results, all, each⟩ | ⟨cause, failed, entry, member, why⟩
          · refine .inl ⟨(key, result) :: results, ?_, .cons ⟨rfl, compiled⟩ each⟩
            rw [all]
          · refine .inr ⟨cause, ?_, entry, List.mem_cons_of_mem _ member, why⟩
            rw [failed]

private theorem keys_of_forall₂ {entries : List (κ × α)} {results : List (κ × β)}
    (each : List.Forall₂ (fun entry result => result.1 = entry.1 ∧ compile entry.2 = .ok result.2)
      entries results) : results.map (·.1) = entries.map (·.1) := by
  induction each with
  | nil => rfl
  | cons here _ inductionHypothesis => simp [here.1, inductionHypothesis]

variable [DecidableEq κ]

/-- A look-up among compiled values is the compiled value of a look-up. -/
theorem find_of_forall₂ {entries : List (κ × α)} {results : List (κ × β)}
    (each : List.Forall₂ (fun entry result => result.1 = entry.1 ∧ compile entry.2 = .ok result.2)
      entries results) (key : κ) :
    (Table.find key entries = none ∧ Table.find key results = none) ∨
    ∃ value result, Table.find key entries = some value ∧ compile value = .ok result ∧
      Table.find key results = some result := by
  induction each with
  | nil => exact .inl ⟨rfl, rfl⟩
  | @cons entry result entries results here _ inductionHypothesis =>
      by_cases same : entry.1 = key
      · refine .inr ⟨entry.2, result.2, ?_, here.2, ?_⟩
        · rw [Table.find, if_pos same]
        · rw [Table.find, if_pos (here.1.trans same)]
      · have resultElsewhere : result.1 ≠ key := by
          rw [here.1]
          exact same
        rw [Table.find, Table.find, if_neg same, if_neg resultElsewhere]
        exact inductionHypothesis

end Values

/-! ## Compiling a level

The rules of a compiled level come from those of the level it was compiled from: `expands` says
which rules a rule becomes. -/

/-- The rules that a set of rules becomes. -/
def expansion {ρ σ : Type} (expands : ρ → σ → Prop) (rules : Set ρ) : Set σ :=
  {result | ∃ rule ∈ rules, expands rule result}

/-- No two rules clash. -/
def Free {ρ : Type} (clash : ρ → ρ → Prop) (rules : Set ρ) : Prop :=
  ∀ left ∈ rules, ∀ right ∈ rules, ¬ clash left right

/-- The only error is a range that is claimed twice. -/
def OnlyClaims {α β : Type} (compile : α → Except RangeError β) : Prop :=
  ∀ {value cause}, compile value = .error cause → ∃ text, cause = .claimedTwice text

theorem expansion_level {ρ σ κ : Type} {expands : ρ → σ → Prop} (level : ρ → κ)
    {resultLevel : σ → κ}
    (keeps : ∀ rule result, expands rule result → resultLevel result = level rule)
    (rules : Set ρ) (key : κ) :
    {result ∈ expansion expands rules | resultLevel result = key} =
      expansion expands {rule ∈ rules | level rule = key} := by
  ext result
  constructor
  · rintro ⟨⟨rule, member, becomes⟩, has⟩
    exact ⟨rule, ⟨member, (keeps rule result becomes).symm.trans has⟩, becomes⟩
  · rintro ⟨rule, ⟨member, has⟩, becomes⟩
    exact ⟨⟨rule, member, becomes⟩, (keeps rule result becomes).trans has⟩

/-- A level that is not compiled stands for what its rules become, if its values do. -/
theorem standsFor_expansion {κ α ρ σ : Type} [DecidableEq κ] {level : ρ → κ}
    {part : α → Set ρ → Prop} {table : Table κ α} {rules : Set ρ} {expands : ρ → σ → Prop}
    {resultLevel : σ → κ} {resultPart : α → Set σ → Prop}
    (keeps : ∀ rule result, expands rule result → resultLevel result = level rule)
    (becomes : ∀ rule, ∃ result, expands rule result)
    (below : ∀ value rules, part value rules → resultPart value (expansion expands rules))
    (stands : table.StandsFor level part rules) :
    table.StandsFor resultLevel resultPart (expansion expands rules) where
  distinct := stands.distinct
  occurs := by
    intro key value found
    obtain ⟨rule, member, has⟩ := stands.occurs found
    obtain ⟨result, resultOf⟩ := becomes rule
    exact ⟨result, ⟨rule, member, resultOf⟩, (keeps rule result resultOf).trans has⟩
  part := by
    intro key value found
    rw [expansion_level level keeps]
    exact below _ _ (stands.part found)
  missing := by
    rintro key absent result ⟨rule, member, resultOf⟩ has
    exact stands.missing absent rule member ((keeps rule result resultOf).symm.trans has)

section Keyed

variable {κ α β ρ σ : Type} {compile : α → Except RangeError β} {level : ρ → κ}
  {part : α → Set ρ → Prop} {table : Table κ α} {rules : Set ρ}

private theorem compileTable_eq (table : Table κ α) :
    compileTable compile table = (compileValues compile table.entries).map Table.mk := by
  unfold compileTable
  cases compileValues compile table.entries <;> rfl

theorem compileTable_onlyClaims (below : OnlyClaims compile) :
    OnlyClaims (compileTable compile : Table κ α → Except RangeError (Table κ β)) := by
  intro table cause failed
  rw [compileTable_eq] at failed
  rcases compileValues_cases compile table.entries with
    ⟨results, all, _⟩ | ⟨why, failedAt, entry, _, reason⟩
  · rw [all] at failed
    exact absurd failed (by simp [Except.map])
  · rw [failedAt] at failed
    rw [← Except.error.inj failed]
    exact below reason

variable [DecidableEq κ]

/-- A level by key compiles exactly if no two rules with one key clash below. -/
theorem compileTable_isOk_iff {clash : ρ → ρ → Prop}
    (below : ∀ value rules, part value rules → ((∃ result, compile value = .ok result) ↔
      Free clash rules))
    (stands : table.StandsFor level part rules) :
    (∃ result, compileTable compile table = .ok result) ↔
      Free (fun left right => level left = level right ∧ clash left right) rules := by
  rw [compileTable_eq]
  constructor
  · rintro ⟨result, compiled⟩ left leftMember right rightMember ⟨same, clashing⟩
    have present : table.get? (level left) ≠ none := by
      intro absent
      exact stands.missing absent left leftMember rfl
    rcases compileValues_cases compile table.entries with
      ⟨results, all, each⟩ | ⟨cause, failed, _⟩
    · rcases find_of_forall₂ each (level left) with ⟨absent, _⟩ | ⟨other, part, foundOther, ok, _⟩
      · exact absurd absent present
      · have free := (below _ _ (stands.part foundOther)).mp ⟨part, ok⟩
        exact free left ⟨leftMember, rfl⟩ right ⟨rightMember, same.symm⟩ clashing
    · rw [failed] at compiled
      exact absurd compiled (by simp [Except.map])
  · intro free
    rcases compileValues_cases compile table.entries with
      ⟨results, all, each⟩ | ⟨cause, failed, entry, member, why⟩
    · exact ⟨⟨results⟩, by rw [all]; rfl⟩
    · have found := (stands.distinct.mem_entries_iff).mp member
      have freeBelow : Free clash {rule ∈ rules | level rule = entry.1} := by
        rintro left ⟨leftMember, leftHas⟩ right ⟨rightMember, rightHas⟩ clashing
        exact free left leftMember right rightMember ⟨leftHas.trans rightHas.symm, clashing⟩
      obtain ⟨result, ok⟩ := (below _ _ (stands.part found)).mpr freeBelow
      rw [ok] at why
      exact absurd why (by simp)

/-- A compiled level by key stands for what the rules become, if the levels below do. -/
theorem compileTable_standsFor {expands : ρ → σ → Prop} {resultLevel : σ → κ}
    {resultPart : β → Set σ → Prop}
    (keeps : ∀ rule result, expands rule result → resultLevel result = level rule)
    (becomes : ∀ rule, ∃ result, expands rule result)
    (below : ∀ value rules result, part value rules → compile value = .ok result →
      resultPart result (expansion expands rules))
    (stands : table.StandsFor level part rules) {result : Table κ β}
    (compiled : compileTable compile table = .ok result) :
    result.StandsFor resultLevel resultPart (expansion expands rules) := by
  rw [compileTable_eq] at compiled
  rcases compileValues_cases compile table.entries with
    ⟨results, all, each⟩ | ⟨cause, failed, _⟩
  · rw [all] at compiled
    obtain rfl : (⟨results⟩ : Table κ β) = result := Except.ok.inj compiled
    have looked (key : κ) := find_of_forall₂ each key
    refine ⟨?_, ?_, ?_, ?_⟩
    · show (results.map (·.1)).Nodup
      rw [keys_of_forall₂ each]
      exact stands.distinct
    · intro key value found
      rcases looked key with ⟨_, absent⟩ | ⟨source, _, foundSource, _, _⟩
      · exact absurd (absent.symm.trans found) (by simp)
      · obtain ⟨rule, member, has⟩ := stands.occurs foundSource
        obtain ⟨image, imageOf⟩ := becomes rule
        exact ⟨image, ⟨rule, member, imageOf⟩, (keeps rule image imageOf).trans has⟩
    · intro key value found
      rcases looked key with ⟨_, absent⟩ | ⟨source, other, foundSource, ok, foundOther⟩
      · exact absurd (absent.symm.trans found) (by simp)
      · obtain rfl : other = value := Option.some.inj (foundOther.symm.trans found)
        rw [expansion_level level keeps]
        exact below _ _ _ (stands.part foundSource) ok
    · rintro key missing image ⟨rule, member, imageOf⟩ has
      rcases looked key with ⟨absent, _⟩ | ⟨_, _, _, _, foundOther⟩
      · exact stands.missing absent rule member ((keeps rule image imageOf).symm.trans has)
      · exact absurd (foundOther.symm.trans missing) (by simp)
  · rw [failed] at compiled
    exact absurd compiled (by simp [Except.map])

end Keyed

section Ranged

variable {α β ρ σ : Type} {compile : α → Except RangeError β} {level : ρ → RangeKey}
  {part : α → Set ρ → Prop} {table : Table RangeKey α} {rules : Set ρ}

/-- Two keys have a range in common. -/
def Meet (left right : RangeKey) : Prop :=
  ∃ range ∈ left.ranges, range ∈ right.ranges

instance : Std.Symm fun left right => ¬ Meet left right where
  symm := by
    rintro left right none ⟨range, inRight, inLeft⟩
    exact none ⟨range, inLeft, inRight⟩

/-- The entries of the trie that a compiled level becomes. -/
def trieEntries (results : List (RangeKey × β)) : List (β × List CidrRange) :=
  results.map fun (key, value) => (value, key.ranges)

private theorem compileRanges_eq (table : Table RangeKey α) :
    compileRanges compile table =
      match compileValues compile table.entries with
      | .error cause => .error cause
      | .ok results => AddressMatcher.ofEntries (trieEntries results) := by
  unfold compileRanges
  cases compileValues compile table.entries <;> rfl

private theorem pairwise_apart_iff {results : List (RangeKey × β)}
    (distinct : (results.map (·.1)).Nodup) :
    (trieEntries results).Pairwise AddressMatcher.Apart ↔
      ∀ left ∈ results.map (·.1), ∀ right ∈ results.map (·.1), left ≠ right →
        ¬ Meet left right := by
  have onKeys : (trieEntries results).Pairwise AddressMatcher.Apart ↔
      (results.map (·.1)).Pairwise fun left right => ¬ Meet left right := by
    unfold trieEntries
    rw [List.pairwise_map, List.pairwise_map]
    simp [AddressMatcher.Apart, Meet]
  rw [onKeys]
  constructor
  · intro apart left leftMember right rightMember different
    exact apart.forall leftMember rightMember different
  · intro apart
    exact distinct.pairwise_of_forall_ne apart

/-- A level by range compiles exactly if no two rules with one key clash below, and no two rules
with different keys have a range in common. -/
theorem compileRanges_isOk_iff {clash : ρ → ρ → Prop}
    (below : ∀ value rules, part value rules → ((∃ result, compile value = .ok result) ↔
      Free clash rules))
    (stands : table.StandsFor level part rules) :
    (∃ result, compileRanges compile table = .ok result) ↔
      Free (fun left right => (level left = level right ∧ clash left right) ∨
        (level left ≠ level right ∧ Meet (level left) (level right))) rules := by
  have values := compileTable_isOk_iff below stands
  rw [compileTable_eq] at values
  rw [compileRanges_eq]
  rcases compileValues_cases compile table.entries with
    ⟨results, all, each⟩ | ⟨cause, failed, _⟩
  · have free := values.mp ⟨⟨results⟩, by rw [all]; rfl⟩
    have keys := keys_of_forall₂ each
    have distinct : (results.map (·.1)).Nodup := by
      rw [keys]
      exact stands.distinct
    have apart := pairwise_apart_iff distinct
    rw [keys] at apart
    rw [all]
    constructor
    · rintro ⟨result, made⟩ left leftMember right rightMember (⟨same, clashing⟩ | ⟨different, meet⟩)
      · exact free left leftMember right rightMember ⟨same, clashing⟩
      · rcases AddressMatcher.ofEntries_cases (trieEntries results) with
          ⟨_, _, pairwise, _⟩ | ⟨text, refused, _⟩
        · exact apart.mp pairwise _ (stands.keys_iff.mpr ⟨left, leftMember, rfl⟩) _
            (stands.keys_iff.mpr ⟨right, rightMember, rfl⟩) different meet
        · exact absurd (refused.symm.trans made) (by simp)
    · intro none
      rcases AddressMatcher.ofEntries_cases (trieEntries results) with
        ⟨result, made, _⟩ | ⟨_, _, overlapping⟩
      · exact ⟨result, made⟩
      · refine absurd (apart.mpr ?_) overlapping
        intro left leftKey right rightKey different meet
        obtain ⟨first, firstMember, rfl⟩ := stands.keys_iff.mp leftKey
        obtain ⟨second, secondMember, rfl⟩ := stands.keys_iff.mp rightKey
        exact none first firstMember second secondMember (.inr ⟨different, meet⟩)
  · have clashing : ¬ Free (fun left right => level left = level right ∧ clash left right) rules := by
      intro free
      obtain ⟨result, ok⟩ := values.mpr free
      rw [failed] at ok
      exact absurd ok (by simp [Except.map])
    rw [failed]
    constructor
    · rintro ⟨result, made⟩
      exact absurd made (by simp)
    · intro free
      refine absurd ?_ clashing
      intro left leftMember right rightMember both
      exact free left leftMember right rightMember (.inl both)

theorem compileRanges_onlyClaims (below : OnlyClaims compile) :
    OnlyClaims (compileRanges compile) := by
  intro table cause failed
  rw [compileRanges_eq] at failed
  rcases compileValues_cases compile table.entries with
    ⟨results, all, _⟩ | ⟨why, failedAt, entry, _, reason⟩
  · rw [all] at failed
    rcases AddressMatcher.ofEntries_cases (trieEntries results) with
      ⟨_, made, _⟩ | ⟨text, refused, _⟩
    · exact absurd (made.symm.trans failed) (by simp)
    · exact ⟨text, (Except.error.inj (refused.symm.trans failed)).symm⟩
  · rw [failedAt] at failed
    rw [← Except.error.inj failed]
    exact below reason

/-- What a compiled level of ranges is made of: a value for each key, and ranges of different keys
that are apart. -/
theorem exists_results_of_compileRanges (stands : table.StandsFor level part rules)
    {result : AddressMatcher β} (compiled : compileRanges compile table = .ok result) :
    ∃ results,
      List.Forall₂ (fun entry made => made.1 = entry.1 ∧ compile entry.2 = .ok made.2)
        table.entries results ∧
      results.map (·.1) = table.keys ∧
      (∀ left ∈ rules, ∀ right ∈ rules, level left ≠ level right →
        ¬ Meet (level left) (level right)) ∧
      result.Holds (trieEntries results) := by
  rw [compileRanges_eq] at compiled
  rcases compileValues_cases compile table.entries with
    ⟨results, all, each⟩ | ⟨cause, failed, _⟩
  · rw [all] at compiled
    have keys := keys_of_forall₂ each
    have distinct : (results.map (·.1)).Nodup := by
      rw [keys]
      exact stands.distinct
    rcases AddressMatcher.ofEntries_cases (trieEntries results) with
      ⟨made, ok, pairwise, holds⟩ | ⟨text, refused, _⟩
    · obtain rfl : made = result := Except.ok.inj (ok.symm.trans compiled)
      have apart := (pairwise_apart_iff distinct).mp pairwise
      rw [keys] at apart
      refine ⟨results, each, keys, ?_, holds⟩
      intro left leftMember right rightMember
      exact apart _ (stands.keys_iff.mpr ⟨left, leftMember, rfl⟩) _
        (stands.keys_iff.mpr ⟨right, rightMember, rfl⟩)
    · exact absurd (refused.symm.trans compiled) (by simp)
  · rw [failed] at compiled
    exact absurd compiled (by simp)

/-- The range that a rule is given belongs to an entry of the trie. -/
theorem exists_entry_of_image {expands : CidrRange → ρ → σ → Prop} {resultLevel : σ → CidrRange}
    (keeps : ∀ range rule result, expands range rule result → resultLevel result = range)
    (stands : table.StandsFor level part rules) {results : List (RangeKey × β)}
    (keys : results.map (·.1) = table.keys) {image : σ}
    (member : image ∈ expansion
      (fun rule image => ∃ range ∈ (level rule).ranges, expands range rule image) rules) :
    ∃ entry ∈ trieEntries results, resultLevel image ∈ entry.2 := by
  obtain ⟨rule, ruleMember, range, listed, imageOf⟩ := member
  have isKey : level rule ∈ results.map (·.1) := by
    rw [keys]
    exact stands.keys_iff.mpr ⟨rule, ruleMember, rfl⟩
  obtain ⟨entry, entryMember, sameKey⟩ := List.mem_map.mp isKey
  refine ⟨(entry.2, entry.1.ranges), List.mem_map.mpr ⟨entry, entryMember, rfl⟩, ?_⟩
  rw [keeps range rule image imageOf]
  show range ∈ entry.1.ranges
  rw [sameKey]
  exact listed

/-- Where ranges of different keys are apart, what has a range comes from the rules of its key. -/
theorem expansion_of_range {expands : CidrRange → ρ → σ → Prop} {resultLevel : σ → CidrRange}
    (keeps : ∀ range rule result, expands range rule result → resultLevel result = range)
    (apart : ∀ left ∈ rules, ∀ right ∈ rules, level left ≠ level right →
      ¬ Meet (level left) (level right)) {first : ρ} (firstMember : first ∈ rules)
    {range : CidrRange} (listed : range ∈ (level first).ranges) :
    {image ∈ expansion (fun rule image => ∃ range ∈ (level rule).ranges, expands range rule image)
      rules | resultLevel image = range} =
      expansion (expands range) {rule ∈ rules | level rule = level first} := by
  ext image
  constructor
  · rintro ⟨⟨rule, member, own, ownListed, imageOf⟩, has⟩
    obtain rfl : own = range := (keeps own rule image imageOf).symm.trans has
    refine ⟨rule, ⟨member, ?_⟩, imageOf⟩
    -- Another key would share the range.
    by_contra different
    exact apart rule member first firstMember different ⟨own, ownListed, listed⟩
  · rintro ⟨rule, ⟨member, has⟩, imageOf⟩
    refine ⟨⟨rule, member, range, ?_, imageOf⟩, keeps range rule image imageOf⟩
    rw [has]
    exact listed

/-- A compiled level by range stands for what the rules become, if the levels below do whatever
range of its key a rule is given. -/
theorem compileRanges_standsFor {expands : CidrRange → ρ → σ → Prop} {resultLevel : σ → CidrRange}
    {resultPart : β → Set σ → Prop}
    (keeps : ∀ range rule result, expands range rule result → resultLevel result = range)
    (becomes : ∀ range rule, ∃ result, expands range rule result)
    (below : ∀ value rules result, part value rules → compile value = .ok result →
      ∀ range, resultPart result (expansion (expands range) rules))
    (stands : table.StandsFor level part rules) {result : AddressMatcher β}
    (compiled : compileRanges compile table = .ok result) :
    result.StandsFor resultLevel resultPart
      (expansion (fun rule image => ∃ range ∈ (level rule).ranges, expands range rule image)
        rules) := by
  obtain ⟨results, each, keys, apart, holds⟩ := exists_results_of_compileRanges stands compiled
  refine ⟨?_, ?_⟩
  · intro address value found
    obtain ⟨entry, entryMember, entryValue, range, listed, contained, longest⟩ :=
      holds.exists_of_get?_eq_some found
    obtain ⟨⟨key, compiledValue⟩, resultMember, rfl⟩ := List.mem_map.mp entryMember
    obtain rfl : compiledValue = value := entryValue
    have distinct : (results.map (·.1)).Nodup := by
      rw [keys]
      exact stands.distinct
    have isResult := Table.find_eq_some_of_mem distinct resultMember
    rcases find_of_forall₂ each key with ⟨_, absent⟩ | ⟨source, other, foundSource, ok, foundOther⟩
    · exact absurd (absent.symm.trans isResult) (by simp)
    · obtain rfl : other = compiledValue := Option.some.inj (foundOther.symm.trans isResult)
      obtain ⟨rule, member, rfl⟩ := stands.occurs foundSource
      refine ⟨range, contained, ?_, ?_, ?_⟩
      · obtain ⟨image, imageOf⟩ := becomes range rule
        exact ⟨image, ⟨rule, member, range, listed, imageOf⟩, keeps range rule image imageOf⟩
      · intro image imageMember holdsAddress
        obtain ⟨holder, holderMember, inHolder⟩ :=
          exists_entry_of_image keeps stands keys imageMember
        exact longest holder holderMember _ inHolder holdsAddress
      · rw [expansion_of_range keeps apart member listed]
        exact below _ _ _ (stands.part foundSource) ok range
  · intro address missing image member
    obtain ⟨entry, entryMember, listed⟩ := exists_entry_of_image keeps stands keys member
    exact holds.get?_eq_none_iff.mp missing entry entryMember _ listed

end Ranged

end Chain.Layout

end Admission
