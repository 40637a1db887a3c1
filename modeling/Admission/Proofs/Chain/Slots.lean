import Admission.Chain.Slot
import Admission.Proofs.Except
import Mathlib.Data.List.Perm.Basic

/-!
Contract: the slots of criteria, read off the configured lists.

Owns:
- `MatchCriteria.slots`, which knows neither slot keys nor their validation: one slot for each
  combination of listed values, with the catch-all of a level where nothing is listed;
- `normalize_isOk_iff`, the criteria that pass validation;
- `slots_perm`, by which the validated form of criteria has the same slots, each as often.
-/

namespace Admission.Chain

open Admission.Net

namespace MatchCriteria

/-- The ranges that a list of texts stands for: those it spells, or both families as a whole. -/
def rangesOf (texts : List String) : List CidrRange :=
  if texts.isEmpty then [.allV4, .allV6]
  else texts.filterMap fun text => (CidrRange.parse text).toOption

/-- The key that a server name is stored under. -/
def storedName (name : String) : String :=
  match name.toList with
  | '*' :: '.' :: suffix => String.ofList ('.' :: suffix)
  | _ => name

/-- All combinations of the listed values. -/
def slots (criteria : MatchCriteria) : List Slot :=
  (rangesOf criteria.prefixRanges).flatMap fun destination =>
    (orCatchAll "" (criteria.serverNames.map storedName)).flatMap fun serverName =>
      (orCatchAll "" criteria.applicationProtocols).flatMap fun protocol =>
        (rangesOf criteria.sourcePrefixRanges).flatMap fun source =>
          (orCatchAll 0 criteria.sourcePorts).map fun sourcePort =>
            ⟨criteria.destinationPort, destination, serverName, criteria.transportProtocol,
              protocol, criteria.sourceType, source, sourcePort⟩

/-! ## Validation -/

/-- Every text is a range. -/
def Readable (texts : List String) : Prop :=
  ∀ text ∈ texts, ∃ range, CidrRange.parse text = .ok range

/-- A name passes as it stands, or after its leading star is gone. -/
def Storable (name : String) : Prop :=
  (∃ suffix, name.toList = '*' :: '.' :: suffix) ∨ '*' ∉ name.toList

theorem storedName_of_wildcard {name : String} {suffix : List Char}
    (wildcard : name.toList = '*' :: '.' :: suffix) :
    storedName name = String.ofList ('.' :: suffix) := by
  unfold storedName
  rw [wildcard]
  rfl

theorem storedName_of_not_wildcard {name : String}
    (exact : ∀ suffix, name.toList ≠ '*' :: '.' :: suffix) : storedName name = name := by
  unfold storedName
  split
  · rename_i suffix wildcard
    exact absurd wildcard (exact suffix)
  · rfl

theorem nameKey_ok_iff {name key : String} :
    nameKey name = .ok key ↔ Storable name ∧ storedName name = key := by
  unfold nameKey Storable
  split
  · rename_i suffix wildcard
    rw [storedName_of_wildcard wildcard, Except.ok.injEq]
    constructor
    · intro same
      exact ⟨.inl ⟨suffix, wildcard⟩, same⟩
    · intro stored
      exact stored.2
  · rename_i notWildcard
    rw [storedName_of_not_wildcard notWildcard]
    split
    · rename_i starred
      constructor
      · intro refused
        exact absurd refused (by simp)
      · rintro ⟨⟨suffix, wildcard⟩ | free, _⟩
        · exact absurd wildcard (notWildcard suffix)
        · exact absurd starred free
    · rename_i free
      rw [Except.ok.injEq]
      constructor
      · intro same
        exact ⟨.inr free, same⟩
      · intro stored
        exact stored.2

private theorem names_ok_iff {names keys : List String} :
    names.mapM nameKey = .ok keys ↔ (∀ name ∈ names, Storable name) ∧ names.map storedName = keys := by
  rw [mapM_eq_ok_iff]
  constructor
  · intro each
    induction each with
    | nil => simp
    | cons here _ inductionHypothesis =>
        obtain ⟨storable, stored⟩ := nameKey_ok_iff.mp here
        rw [List.forall_mem_cons, List.map_cons, stored, inductionHypothesis.2]
        exact ⟨⟨storable, inductionHypothesis.1⟩, rfl⟩
  · rintro ⟨storable, rfl⟩
    rw [List.forall₂_map_right_iff, List.forall₂_same]
    intro name listed
    exact nameKey_ok_iff.mpr ⟨storable name listed, rfl⟩

/-- The validated form of one range. -/
def rangeKey (text : String) : Except ConfigError RangeKey :=
  match CidrRange.parse text with
  | .ok range => .ok (.range range)
  | .error cause => .error (.invalidRange cause)

theorem rangeKeys_eq (texts : List String) :
    rangeKeys texts = (texts.mapM rangeKey).map (orCatchAll .everywhere) := by
  unfold rangeKeys
  show (texts.mapM rangeKey >>= fun parsed => pure (orCatchAll .everywhere parsed)) = _
  cases texts.mapM rangeKey <;> rfl

private theorem parsed_ranges {texts : List String} {keys : List RangeKey}
    (parsed : List.Forall₂ (fun text key => rangeKey text = .ok key) texts keys) :
    Readable texts ∧
      keys.flatMap RangeKey.ranges =
        texts.filterMap fun text => (CidrRange.parse text).toOption := by
  induction parsed with
  | nil => simp [Readable]
  | @cons text key texts keys here _ inductionHypothesis =>
      obtain ⟨readable, ranges⟩ := inductionHypothesis
      unfold rangeKey at here
      split at here
      · rename_i range read
        rw [← Except.ok.inj here]
        constructor
        · intro other listed
          rcases List.mem_cons.mp listed with rfl | listed
          · exact ⟨range, read⟩
          · exact readable other listed
        · simp [RangeKey.ranges, read, Except.toOption, ranges]
      · exact absurd here (by simp)

/-- Ranges are validated into keys that stand for the same ranges, in the same order. -/
theorem rangeKeys_isOk_iff {texts : List String} :
    (∃ keys, rangeKeys texts = .ok keys) ↔ Readable texts := by
  rw [rangeKeys_eq]
  constructor
  · rintro ⟨keys, validated⟩
    cases parsed : texts.mapM rangeKey with
    | error error =>
        rw [parsed] at validated
        exact absurd validated (by simp [Except.map])
    | ok results => exact (parsed_ranges (mapM_eq_ok_iff.mp parsed)).1
  · intro readable
    have each : ∀ text ∈ texts, ∃ key, rangeKey text = .ok key := by
      intro text listed
      obtain ⟨range, read⟩ := readable text listed
      exact ⟨.range range, by rw [rangeKey, read]⟩
    obtain ⟨results, parsed⟩ : ∃ results, texts.mapM rangeKey = .ok results := by
      have inhabited : Nonempty RangeKey := ⟨.everywhere⟩
      choose! key ok using each
      refine ⟨texts.map key, mapM_eq_ok_iff.mpr ?_⟩
      rw [List.forall₂_map_right_iff, List.forall₂_same]
      exact ok
    exact ⟨orCatchAll .everywhere results, by rw [parsed]; rfl⟩

private theorem rangeKeys_ranges {texts : List String} {keys : List RangeKey}
    (validated : rangeKeys texts = .ok keys) : keys.flatMap RangeKey.ranges = rangesOf texts := by
  rw [rangeKeys_eq] at validated
  cases parsed : texts.mapM rangeKey with
  | error error =>
      rw [parsed] at validated
      exact absurd validated (by simp [Except.map])
  | ok results =>
      rw [parsed] at validated
      rw [← Except.ok.inj validated]
      have each := mapM_eq_ok_iff.mp parsed
      unfold rangesOf
      cases each with
      | nil => rfl
      | cons here others => exact (parsed_ranges (.cons here others)).2

/-- Criteria that pass validation. -/
structure Valid (criteria : MatchCriteria) : Prop where
  addressSuffix : criteria.addressSuffix = ""
  suffixLength : criteria.suffixLength = none
  destinations : Readable criteria.prefixRanges
  sources : Readable criteria.sourcePrefixRanges
  serverNames : ∀ name ∈ criteria.serverNames, Storable name

/-- A reserved field stops the validation before anything else is looked at. -/
theorem normalize_of_reserved {criteria : MatchCriteria}
    (reserved : ¬(criteria.addressSuffix = "" ∧ criteria.suffixLength = none)) :
    ∃ field, criteria.normalize = .error (.unimplementedField field) := by
  by_cases suffix : criteria.addressSuffix = ""
  · have isSome : criteria.suffixLength.isSome = true :=
      Option.isSome_iff_ne_none.mpr fun none => reserved ⟨suffix, none⟩
    refine ⟨"suffix_len", ?_⟩
    unfold normalize
    rw [if_neg (not_not.mpr suffix), if_pos isSome]
    rfl
  · refine ⟨"address_suffix", ?_⟩
    unfold normalize
    rw [if_pos suffix]
    rfl

theorem normalize_of_unreserved {criteria : MatchCriteria}
    (suffix : criteria.addressSuffix = "") (length : criteria.suffixLength = none) :
    criteria.normalize = (rangeKeys criteria.prefixRanges >>= fun destinations =>
      rangeKeys criteria.sourcePrefixRanges >>= fun sources =>
      criteria.serverNames.mapM nameKey >>= fun serverNames =>
      .ok {
        destinationPort := criteria.destinationPort
        destinations
        serverNames := orCatchAll "" serverNames
        transportProtocol := criteria.transportProtocol
        applicationProtocols := orCatchAll "" criteria.applicationProtocols
        sourceType := criteria.sourceType
        sources
        sourcePorts := orCatchAll 0 criteria.sourcePorts }) := by
  unfold normalize
  rw [if_neg (not_not.mpr suffix), length]
  rfl

/-- Criteria that pass validation, and what they become. -/
theorem normalize_cases (criteria : MatchCriteria) :
    (∃ normal destinations sources, criteria.normalize = .ok normal ∧ criteria.Valid ∧
      rangeKeys criteria.prefixRanges = .ok destinations ∧
      rangeKeys criteria.sourcePrefixRanges = .ok sources ∧
      normal = {
        destinationPort := criteria.destinationPort
        destinations
        serverNames := orCatchAll "" (criteria.serverNames.map storedName)
        transportProtocol := criteria.transportProtocol
        applicationProtocols := orCatchAll "" criteria.applicationProtocols
        sourceType := criteria.sourceType
        sources
        sourcePorts := orCatchAll 0 criteria.sourcePorts }) ∨
    (∃ error, criteria.normalize = .error error ∧ ¬ criteria.Valid) := by
  by_cases unreserved : criteria.addressSuffix = "" ∧ criteria.suffixLength = none
  · obtain ⟨suffix, length⟩ := unreserved
    rw [normalize_of_unreserved suffix length]
    cases validDestinations : rangeKeys criteria.prefixRanges with
    | error error =>
        refine .inr ⟨error, rfl, ?_⟩
        intro valid
        obtain ⟨keys, validated⟩ := rangeKeys_isOk_iff.mpr valid.destinations
        exact nomatch validDestinations.symm.trans validated
    | ok destinations =>
        have readable := rangeKeys_isOk_iff.mp ⟨destinations, validDestinations⟩
        cases validSources : rangeKeys criteria.sourcePrefixRanges with
        | error error =>
            refine .inr ⟨error, rfl, ?_⟩
            intro valid
            obtain ⟨keys, validated⟩ := rangeKeys_isOk_iff.mpr valid.sources
            exact nomatch validSources.symm.trans validated
        | ok sources =>
            have sourcesReadable := rangeKeys_isOk_iff.mp ⟨sources, validSources⟩
            cases validNames : criteria.serverNames.mapM nameKey with
            | error error =>
                refine .inr ⟨error, rfl, ?_⟩
                intro valid
                have validated := names_ok_iff.mpr ⟨valid.serverNames, rfl⟩
                exact nomatch validNames.symm.trans validated
            | ok names =>
                obtain ⟨storable, rfl⟩ := names_ok_iff.mp validNames
                exact .inl ⟨_, destinations, sources, rfl,
                  ⟨suffix, length, readable, sourcesReadable, storable⟩, rfl, rfl, rfl⟩
  · obtain ⟨field, refused⟩ := normalize_of_reserved unreserved
    exact .inr ⟨_, refused, fun valid => unreserved ⟨valid.addressSuffix, valid.suffixLength⟩⟩

theorem normalize_isOk_iff {criteria : MatchCriteria} :
    (∃ normal, criteria.normalize = .ok normal) ↔ criteria.Valid := by
  rcases normalize_cases criteria with ⟨normal, _, _, ok, valid, _⟩ | ⟨error, refused, invalid⟩
  · exact ⟨fun _ => valid, fun _ => ⟨normal, ok⟩⟩
  · constructor
    · rintro ⟨normal, ok⟩
      exact absurd (refused.symm.trans ok) (by simp)
    · intro valid
      exact absurd valid invalid

theorem valid_of_isOk {criteria : MatchCriteria} (ok : criteria.normalize.isOk = true) :
    criteria.Valid := by
  cases normalized : criteria.normalize with
  | error error =>
      rw [normalized] at ok
      exact absurd ok (by simp [Except.isOk, Except.toBool])
  | ok normal => exact normalize_isOk_iff.mp ⟨normal, normalized⟩

/-! ## Slots of the validated form -/

/-- Two nested enumerations in either order. -/
theorem flatMap_swap {α β γ : Type} (xs : List α) (ys : List β) (f : α → β → List γ) :
    (xs.flatMap fun x => ys.flatMap (f x)).Perm (ys.flatMap fun y => xs.flatMap (f · y)) := by
  induction xs with
  | nil => simp
  | cons x xs inductionHypothesis =>
      simp only [List.flatMap_cons]
      exact (inductionHypothesis.append_left _).trans (List.flatMap_append_perm ys _ _)

end MatchCriteria

/-- The slots of a validated form, with the choice of ranges moved out to where their keys are
chosen. -/
theorem NormalCriteria.slots_perm_nested (criteria : NormalCriteria) :
    criteria.slots.Perm <|
      (criteria.destinations.flatMap RangeKey.ranges).flatMap fun destination =>
        criteria.serverNames.flatMap fun serverName =>
          criteria.applicationProtocols.flatMap fun protocol =>
            (criteria.sources.flatMap RangeKey.ranges).flatMap fun source =>
              criteria.sourcePorts.map fun sourcePort =>
                ⟨criteria.destinationPort, destination, serverName, criteria.transportProtocol,
                  protocol, criteria.sourceType, source, sourcePort⟩ := by
  unfold slots slotKeys
  simp only [List.flatMap_assoc, List.flatMap_map]
  refine List.Perm.flatMap_left _ fun destinations _ => ?_
  refine List.Perm.trans ?_ (MatchCriteria.flatMap_swap _ _ _)
  refine List.Perm.flatMap_left _ fun serverName _ => ?_
  refine List.Perm.trans ?_ (MatchCriteria.flatMap_swap _ _ _)
  refine List.Perm.flatMap_left _ fun protocol _ => ?_
  refine List.Perm.trans ?_ (MatchCriteria.flatMap_swap _ _ _)
  refine List.Perm.flatMap_left _ fun sources _ => ?_
  unfold SlotKey.slots
  dsimp only
  refine List.Perm.trans (MatchCriteria.flatMap_swap _ _ _) ?_
  refine List.Perm.flatMap_left _ fun destination _ => ?_
  simp only [List.map_eq_flatMap]
  exact MatchCriteria.flatMap_swap _ _ _

/-- Validation keeps the slots of criteria. -/
theorem MatchCriteria.slots_perm {criteria : MatchCriteria} {normal : NormalCriteria}
    (ok : criteria.normalize = .ok normal) : normal.slots.Perm criteria.slots := by
  rcases normalize_cases criteria with
    ⟨result, destinations, sources, becomes, _, destinationsOk, sourcesOk, rfl⟩ | ⟨_, refused, _⟩
  · rw [← Except.ok.inj (becomes.symm.trans ok)]
    have nested := NormalCriteria.slots_perm_nested {
        destinationPort := criteria.destinationPort
        destinations
        serverNames := orCatchAll "" (criteria.serverNames.map storedName)
        transportProtocol := criteria.transportProtocol
        applicationProtocols := orCatchAll "" criteria.applicationProtocols
        sourceType := criteria.sourceType
        sources
        sourcePorts := orCatchAll 0 criteria.sourcePorts }
    rw [rangeKeys_ranges destinationsOk, rangeKeys_ranges sourcesOk] at nested
    exact nested
  · exact absurd (refused.symm.trans ok) (by simp)

end Admission.Chain
