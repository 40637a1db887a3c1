import Admission.Proofs.Chain.Reordering

/-!
Contract: a batch with a star in the wrong place is refused at the first name that has one, and a
batch whose descriptions are all right one by one for nothing but an overlap.

Owns:
- `HasStrayStar` and `IsWildcard`: a name with a stray star is refused exactly if it does not begin
  with `*.`;
- `normalize_eq_wildcard_iff`, when the validation of criteria stops at a name;
- `FirstFault`, before which nothing in a batch is at fault, and the build of such a batch, which
  is that of the descriptions before;
- `overlapping_of_refused`, by which a batch without such faults can only be overlapping.

Does not own: the other faults of a batch, whose conditions are those of `Faultless`.
-/

namespace Admission.Chain

/-! ## Names -/

namespace MatchCriteria

/-- A name that begins with `*.`. -/
def IsWildcard (name : String) : Prop :=
  ∃ suffix, name.toList = '*' :: '.' :: suffix

/-- What a name has behind a leading `*.`, or all of it. -/
def behindWildcard (name : String) : List Char :=
  match name.toList with
  | '*' :: '.' :: suffix => suffix
  | letters => letters

/-- A name with a star other than that of a leading `*.`. -/
def HasStrayStar (name : String) : Prop :=
  '*' ∈ behindWildcard name

private theorem behindWildcard_of_not_wildcard {name : String} (plain : ¬IsWildcard name) :
    behindWildcard name = name.toList := by
  unfold behindWildcard
  split
  · rename_i suffix wildcard
    exact absurd ⟨suffix, wildcard⟩ plain
  · rfl

/-- The names that are refused: a stray star counts only in a name that is no wildcard. -/
theorem not_storable_iff {name : String} :
    ¬Storable name ↔ HasStrayStar name ∧ ¬IsWildcard name := by
  unfold Storable HasStrayStar
  rw [not_or, not_not, and_comm]
  apply and_congr_left
  intro plain
  rw [behindWildcard_of_not_wildcard plain]

private theorem nameKey_cases (name : String) :
    (nameKey name = .ok (storedName name) ∧ Storable name) ∨
      (nameKey name = .error (.unsupportedWildcard name) ∧ ¬Storable name) := by
  by_cases storable : Storable name
  · exact .inl ⟨nameKey_ok_iff.mpr ⟨storable, rfl⟩, storable⟩
  · refine .inr ⟨?_, storable⟩
    obtain ⟨noWildcard, starred⟩ := not_or.mp storable
    unfold nameKey
    split
    · rename_i suffix wildcard
      exact absurd ⟨suffix, wildcard⟩ noWildcard
    · exact if_pos (not_not.mp starred)

/-- Names are validated in order, up to the first that is refused. -/
theorem names_error_iff {names : List String} {error : ConfigError} :
    names.mapM nameKey = .error error ↔
      ∃ earlier name later, names = earlier ++ name :: later ∧
        (∀ other ∈ earlier, Storable other) ∧ ¬Storable name ∧
        error = .unsupportedWildcard name := by
  induction names with
  | nil =>
      rw [List.mapM_nil]
      constructor
      · intro refused
        exact nomatch refused
      · rintro ⟨earlier, name, later, split, -⟩
        exact absurd split (by simp)
  | cons head tail inductionHypothesis =>
      rw [List.mapM_cons]
      constructor
      · intro refused
        rcases bind_eq_error_iff.mp refused with stopped | ⟨key, stored, refused⟩
        · rcases nameKey_cases head with ⟨stored, -⟩ | ⟨other, starred⟩
          · exact nomatch stored.symm.trans stopped
          · have same := Except.error.inj (stopped.symm.trans other)
            exact ⟨[], head, tail, rfl, by simp, starred, same⟩
        · rcases bind_eq_error_iff.mp refused with stopped | ⟨keys, -, impossible⟩
          · obtain ⟨earlier, name, later, rfl, storable, rest⟩ := inductionHypothesis.mp stopped
            have here := (nameKey_ok_iff.mp stored).1
            exact ⟨head :: earlier, name, later, rfl, by simpa [here] using storable, rest⟩
          · exact nomatch impossible
      · rintro ⟨earlier, name, later, split, storable, starred, rfl⟩
        cases earlier with
        | nil =>
            obtain ⟨rfl, rfl⟩ := List.cons.inj split
            rcases nameKey_cases head with ⟨-, plain⟩ | ⟨stopped, -⟩
            · exact absurd plain starred
            · rw [stopped]
              rfl
        | cons first earlier =>
            obtain ⟨rfl, rfl⟩ := List.cons.inj split
            obtain ⟨here, others⟩ := List.forall_mem_cons.mp storable
            rw [nameKey_ok_iff.mpr ⟨here, rfl⟩,
              inductionHypothesis.mpr ⟨earlier, name, later, rfl, others, starred, rfl⟩]
            rfl

/-! ## Criteria -/

/-- Criteria whose validation stops at a name: no reserved field is set, the ranges are readable,
and no earlier name is refused. -/
structure StopsAt (criteria : MatchCriteria) (name : String) : Prop where
  addressSuffix : criteria.addressSuffix = ""
  suffixLength : criteria.suffixLength = none
  destinations : Readable criteria.prefixRanges
  sources : Readable criteria.sourcePrefixRanges
  first : ∃ earlier later, criteria.serverNames = earlier ++ name :: later ∧
    ∀ other ∈ earlier, ¬(HasStrayStar other ∧ ¬IsWildcard other)
  strayStar : HasStrayStar name
  noWildcard : ¬IsWildcard name

private theorem rangeKeys_error {texts : List String} {error : ConfigError}
    (refused : rangeKeys texts = .error error) : ∃ cause, error = .invalidRange cause := by
  have stopped : texts.mapM rangeKey = .error error := by
    rw [rangeKeys_eq] at refused
    cases parsed : texts.mapM rangeKey with
    | error other =>
        rw [parsed] at refused
        exact refused
    | ok keys =>
        rw [parsed] at refused
        exact nomatch refused
  clear refused
  induction texts with
  | nil => exact nomatch stopped
  | cons text texts inductionHypothesis =>
      rw [List.mapM_cons] at stopped
      rcases bind_eq_error_iff.mp stopped with here | ⟨key, -, later⟩
      · unfold rangeKey at here
        split at here
        · exact nomatch here
        · exact ⟨_, (Except.error.inj here).symm⟩
      · rcases bind_eq_error_iff.mp later with there | ⟨keys, -, impossible⟩
        · exact inductionHypothesis there
        · exact nomatch impossible

theorem normalize_eq_wildcard_iff {criteria : MatchCriteria} {name : String} :
    criteria.normalize = .error (.unsupportedWildcard name) ↔ criteria.StopsAt name := by
  by_cases unreserved : criteria.addressSuffix = "" ∧ criteria.suffixLength = none
  · obtain ⟨suffix, length⟩ := unreserved
    rw [normalize_of_unreserved suffix length]
    constructor
    · intro refused
      rcases bind_eq_error_iff.mp refused with stopped | ⟨destinations, readable, refused⟩
      · obtain ⟨cause, different⟩ := rangeKeys_error stopped
        exact nomatch different
      rcases bind_eq_error_iff.mp refused with stopped | ⟨sources, alsoReadable, refused⟩
      · obtain ⟨cause, different⟩ := rangeKeys_error stopped
        exact nomatch different
      rcases bind_eq_error_iff.mp refused with stopped | ⟨names, -, impossible⟩
      · obtain ⟨earlier, other, later, split, storable, starred, same⟩ := names_error_iff.mp stopped
        cases same
        obtain ⟨stray, plain⟩ := not_storable_iff.mp starred
        refine ⟨suffix, length, rangeKeys_isOk_iff.mp ⟨_, readable⟩,
          rangeKeys_isOk_iff.mp ⟨_, alsoReadable⟩, ⟨earlier, later, split, ?_⟩, stray, plain⟩
        intro name listed
        rw [← not_storable_iff, not_not]
        exact storable name listed
      · exact nomatch impossible
    · intro stops
      obtain ⟨destinations, readable⟩ := rangeKeys_isOk_iff.mpr stops.destinations
      obtain ⟨sources, alsoReadable⟩ := rangeKeys_isOk_iff.mpr stops.sources
      obtain ⟨earlier, later, split, before⟩ := stops.first
      have storable : ∀ other ∈ earlier, Storable other := by
        intro other listed
        have plain := before other listed
        rwa [← not_storable_iff, not_not] at plain
      have stopped := names_error_iff.mpr ⟨earlier, name, later, split, storable,
        not_storable_iff.mpr ⟨stops.strayStar, stops.noWildcard⟩, rfl⟩
      rw [readable, alsoReadable, stopped]
      rfl
  · obtain ⟨field, refused⟩ := normalize_of_reserved unreserved
    rw [refused]
    exact ⟨nofun, fun stops => absurd ⟨stops.addressSuffix, stops.suffixLength⟩ unreserved⟩

end MatchCriteria

/-! ## Batches -/

/-- A name before which nothing is at fault: the descriptions before its own are faultless, and its
own has criteria that none of them has and whose validation stops at the name. -/
structure FirstFault (builder : ChainBuilder) (previous : Option MatchIndex)
    (before : List FilterChainDescriptor) (descriptor : FilterChainDescriptor) (name : String) :
    Prop where
  faultless : Faultless builder previous before
  fresh : descriptor.criteria ∉ before.map (·.criteria)
  stops : descriptor.criteria.StopsAt name

namespace BuildState

variable {builder other : ChainBuilder} {previous : Option MatchIndex}

private theorem addAll_append (state : BuildState) (before rest : List FilterChainDescriptor) :
    state.addAll builder previous (before ++ rest) =
      match state.addAll builder previous before with
      | (after, some error) => (after, some error)
      | (after, none) => after.addAll builder previous rest := by
  induction before generalizing state with
  | nil => rfl
  | cons descriptor before inductionHypothesis =>
      rw [List.cons_append, addAll, addAll]
      rcases state.add builder previous descriptor with ⟨after, _ | error⟩
      · exact inductionHypothesis after
      · rfl

/-- An error comes from the first description that is not taken in. -/
theorem exists_first_refused {state last : BuildState} {descriptors : List FilterChainDescriptor}
    {error : ConfigError}
    (refused : state.addAll builder previous descriptors = (last, some error)) :
    ∃ before descriptor after middle, descriptors = before ++ descriptor :: after ∧
      state.addAll builder previous before = (middle, none) ∧
      middle.add builder previous descriptor = (last, some error) := by
  induction descriptors generalizing state with
  | nil => exact nomatch refused
  | cons descriptor rest inductionHypothesis =>
      rw [addAll] at refused
      rcases added : state.add builder previous descriptor with ⟨next, _ | found⟩
      · rw [added] at refused
        obtain ⟨before, stopped, after, middle, rfl, taken, last⟩ := inductionHypothesis refused
        refine ⟨descriptor :: before, stopped, after, middle, rfl, ?_, last⟩
        rw [addAll, added]
        exact taken
      · rw [added] at refused
        exact ⟨[], descriptor, rest, state, rfl, rfl, added.trans refused⟩

/-- The descriptions of a batch are told to the builder one by one, as they come. -/
theorem addAll_congr {descriptors : List FilterChainDescriptor}
    (agree : ∀ descriptor ∈ descriptors, other descriptor = builder descriptor)
    (state : BuildState) :
    state.addAll other previous descriptors = state.addAll builder previous descriptors := by
  induction descriptors generalizing state with
  | nil => rfl
  | cons descriptor rest inductionHypothesis =>
      obtain ⟨here, others⟩ := List.forall_mem_cons.mp agree
      have same : state.add other previous descriptor = state.add builder previous descriptor := by
        unfold add
        rw [here]
      rw [addAll, addAll, same]
      rcases state.add builder previous descriptor with ⟨after, _ | error⟩
      · exact inductionHypothesis others after
      · rfl

private theorem place_error {state after : BuildState} {key : ReuseKey} {criteria : NormalCriteria}
    {chain : FilterChain} {error : ConfigError}
    (refused : state.place key criteria chain = (after, some error)) :
    error = .overlappingMatchRule := by
  unfold place at refused
  split at refused
  · exact nomatch refused
  · exact (Option.some.inj (Prod.mk.inj refused).2).symm

private theorem add_of_stops {state : BuildState} {descriptor : FilterChainDescriptor}
    {name : String} (fresh : ¬(state.chains.any (·.1.criteria = descriptor.criteria)) = true)
    (stops : descriptor.criteria.StopsAt name) :
    state.add builder previous descriptor = (state, some (.unsupportedWildcard name)) := by
  have steps : state.add builder previous descriptor = _ := if_neg fresh
  rw [steps, MatchCriteria.normalize_eq_wildcard_iff.mpr stops]

/-- A description is refused for a name by its criteria or by the builder. -/
theorem stops_or_refused_of_add {state after : BuildState} {descriptor : FilterChainDescriptor}
    {name : String}
    (refused : state.add builder previous descriptor = (after, some (.unsupportedWildcard name))) :
    (¬(state.chains.any (·.1.criteria = descriptor.criteria)) = true ∧
      descriptor.criteria.StopsAt name) ∨
    ∃ drawn, (builder descriptor).result = .refused (.unsupportedWildcard name) drawn := by
  by_cases present : (state.chains.any (·.1.criteria = descriptor.criteria)) = true
  · have duplicate : state.add builder previous descriptor = _ := if_pos present
    rw [duplicate] at refused
    exact nomatch refused
  · have steps : state.add builder previous descriptor = _ := if_neg present
    rw [steps] at refused
    split at refused
    · rename_i error stopped
      cases (Prod.mk.inj refused).2
      exact .inl ⟨present, MatchCriteria.normalize_eq_wildcard_iff.mp stopped⟩
    · split at refused
      · exact nomatch place_error refused
      · dsimp only at refused
        split at refused
        · rename_i error drawn answer
          cases (Prod.mk.inj refused).2
          exact .inr ⟨drawn, answer⟩
        · exact nomatch place_error refused

/-- What has been done after descriptions without fault. -/
theorem exists_covers {descriptors : List FilterChainDescriptor}
    (faultless : Faultless builder previous descriptors) (next : Nat) :
    ∃ placed after, (start next).addAll builder previous descriptors = (after, none) ∧
      after.Covers placed ∧ placed.map (·.1) = descriptors := by
  rcases (covers_start next).addAll_cases builder previous descriptors with
    ⟨chains, after, taken, supplied, covers⟩ | ⟨_, _, -, fault⟩
  · exact ⟨_, after, taken, covers, List.map_fst_zip (Nat.le_of_eq supplied.length_eq)⟩
  · exact absurd faultless fault

private theorem faultless_of_addAll {descriptors : List FilterChainDescriptor} {next : Nat}
    {after : BuildState}
    (taken : (start next).addAll builder previous descriptors = (after, none)) :
    Faultless builder previous descriptors := by
  rcases (covers_start next).addAll_cases builder previous descriptors with
    ⟨chains, last, -, supplied, covers⟩ | ⟨_, _, refused, -⟩
  · exact covers.faultless supplied
  · exact nomatch taken.symm.trans refused

/-- Descriptions that are taken in are all placed. -/
theorem exists_covers_of_addAll {descriptors : List FilterChainDescriptor} {next : Nat}
    {after : BuildState}
    (taken : (start next).addAll builder previous descriptors = (after, none)) :
    ∃ placed, after.Covers placed ∧ placed.map (·.1) = descriptors := by
  obtain ⟨placed, same, takenAgain, covers, firsts⟩ :=
    exists_covers (faultless_of_addAll taken) next
  cases taken.symm.trans takenAgain
  exact ⟨placed, covers, firsts⟩

/-- Whether criteria are new is a matter of the descriptions before. -/
theorem Covers.fresh_iff {state : BuildState} {placed : List Placement}
    (covers : state.Covers placed) (criteria : MatchCriteria) :
    ¬(state.chains.any (·.1.criteria = criteria)) = true ↔
      criteria ∉ (placed.map (·.1)).map (·.criteria) := by
  rw [covers.taken_iff, List.map_map]
  rfl

/-- At the first fault, a name, the building stops as the descriptions before have left it. -/
theorem addAll_of_firstFault {before after : List FilterChainDescriptor}
    {descriptor : FilterChainDescriptor} {name : String}
    (fault : FirstFault builder previous before descriptor name) (next : Nat) :
    (start next).addAll builder previous (before ++ descriptor :: after) =
      (((start next).addAll builder previous before).1, some (.unsupportedWildcard name)) := by
  obtain ⟨placed, middle, taken, covers, rfl⟩ := exists_covers fault.faultless next
  have stopped : middle.add builder previous descriptor =
      (middle, some (.unsupportedWildcard name)) :=
    add_of_stops ((covers.fresh_iff _).mpr fault.fresh) fault.stops
  rw [addAll_append, taken]
  dsimp only
  rw [addAll, stopped]

private theorem firstFault_of_addAll {descriptors : List FilterChainDescriptor} {next : Nat}
    {last : BuildState} {name : String}
    (refused : (start next).addAll builder previous descriptors =
      (last, some (.unsupportedWildcard name))) :
    (∃ before descriptor after, descriptors = before ++ descriptor :: after ∧
      FirstFault builder previous before descriptor name) ∨
    ∃ descriptor ∈ descriptors, ∃ drawn,
      (builder descriptor).result = .refused (.unsupportedWildcard name) drawn := by
  obtain ⟨before, descriptor, after, middle, rfl, taken, stopped⟩ := exists_first_refused refused
  rcases stops_or_refused_of_add stopped with ⟨fresh, stops⟩ | answer
  · obtain ⟨placed, covers, firsts⟩ := exists_covers_of_addAll taken
    rw [covers.fresh_iff, firsts] at fresh
    exact .inl ⟨before, descriptor, after, rfl, faultless_of_addAll taken, fresh, stops⟩
  · exact .inr ⟨descriptor, by simp, answer⟩

end BuildState

namespace MatchIndex

/-- A batch with a stray star in a name that does not begin with `*.` is rejected. If that name is
the first fault it is the error, and the build is as the descriptions before have left it, whatever
a builder would do for the others. No other name is an error of its own: a name that begins with
`*.` passes with any further stars. -/
theorem stray_stars_rejected (generation : GenerationId) (listener : String)
    (descriptors : List FilterChainDescriptor) (builder : ChainBuilder)
    (previous : Option MatchIndex) (next : Nat) :
    (∀ descriptor ∈ descriptors, ∀ name ∈ descriptor.criteria.serverNames,
      MatchCriteria.HasStrayStar name → ¬MatchCriteria.IsWildcard name →
      ∃ error,
        (build generation listener descriptors builder previous next).outcome = .error error) ∧
    (∀ before descriptor after name, descriptors = before ++ descriptor :: after →
      FirstFault builder previous before descriptor name →
      ∀ other : ChainBuilder, (∀ earlier ∈ before, other earlier = builder earlier) →
        build generation listener descriptors other previous next =
          ⟨((BuildState.start next).addAll builder previous before).1,
            .error (.unsupportedWildcard name)⟩) ∧
    (∀ name,
      (build generation listener descriptors builder previous next).outcome =
        .error (.unsupportedWildcard name) →
      (∃ before descriptor after, descriptors = before ++ descriptor :: after ∧
        FirstFault builder previous before descriptor name) ∨
      ∃ descriptor ∈ descriptors, ∃ drawn,
        (builder descriptor).result = .refused (.unsupportedWildcard name) drawn) := by
  refine ⟨?_, ?_, ?_⟩
  · intro descriptor listed name named stray plain
    rcases build_cases generation listener descriptors builder previous next with
      ⟨_, _, _, _, _, faultless, _, _⟩ | ⟨error, refused, _⟩
    · have storable := (faultless.valid descriptor listed).serverNames name named
      exact absurd storable (MatchCriteria.not_storable_iff.mpr ⟨stray, plain⟩)
    · exact ⟨error, refused⟩
  · rintro before descriptor after name rfl fault other agree
    -- The other builder meets the same first fault, since it agrees on all that comes before.
    have supplied : Faultless other previous before := by
      obtain ⟨different, valid, supplied, keys⟩ := fault.faultless
      refine ⟨different, valid, ?_, keys⟩
      intro earlier listed
      rw [agree earlier listed]
      exact supplied earlier listed
    have stopped : (BuildState.start next).addAll other previous (before ++ descriptor :: after) =
        _ := BuildState.addAll_of_firstFault ⟨supplied, fault.fresh, fault.stops⟩ next
    rw [build, stopped, BuildState.addAll_congr agree]
  · intro name refused
    unfold build at refused
    rcases added : (BuildState.start next).addAll builder previous descriptors with
      ⟨last, _ | error⟩
    · rw [added] at refused
      dsimp only at refused
      split at refused
      · rename_i cause _
        cases cause <;> exact nomatch refused
      · exact nomatch refused
    · rw [added] at refused
      cases Except.error.inj refused
      exact BuildState.firstFault_of_addAll added

/-- A chain for some server names. -/
def chainFor (names : List String) : FilterChainDescriptor :=
  { FilterChainDescriptor.blank with
    name := "web", criteria := { MatchCriteria.anything with serverNames := names } }

/-- The second chain has a name with a second star, which passes, and one with a star inside, which
does not; the third has the criteria of the first. -/
def starredBatch : List FilterChainDescriptor :=
  [chainFor ["a.test"], chainFor ["*.*.test", "b*.test"], chainFor ["a.test"]]

theorem stray_stars_rejected_starredBatch :
    FirstFault (BuildScript.builder ⟨none, false, []⟩) none [chainFor ["a.test"]]
        (chainFor ["*.*.test", "b*.test"]) "b*.test" ∧
      (build ⟨1⟩ "listener" starredBatch (BuildScript.builder ⟨none, false, []⟩) none 1).outcome =
        .error (.unsupportedWildcard "b*.test") ∧
      (build ⟨1⟩ "listener" starredBatch (BuildScript.builder ⟨none, false, []⟩) none
        1).state.built = 1 := by
  have fault : FirstFault (BuildScript.builder ⟨none, false, []⟩) none [chainFor ["a.test"]]
      (chainFor ["*.*.test", "b*.test"]) "b*.test" := by
    have taken : ((BuildState.start 1).addAll (BuildScript.builder ⟨none, false, []⟩) none
        [chainFor ["a.test"]]).2 = none := rfl
    have stopped : (chainFor ["*.*.test", "b*.test"]).criteria.normalize =
        .error (.unsupportedWildcard "b*.test") := rfl
    exact ⟨BuildState.faultless_of_addAll (Prod.ext rfl taken), by decide,
      MatchCriteria.normalize_eq_wildcard_iff.mp stopped⟩
  have outcome := (stray_stars_rejected ⟨1⟩ "listener" starredBatch
    (BuildScript.builder ⟨none, false, []⟩) none 1).2.1 _ _ _ _ rfl fault _ (fun _ _ => rfl)
  rw [outcome]
  exact ⟨fault, rfl, rfl⟩

/-- A name with a second star is accepted. -/
theorem second_star_accepted :
    MatchCriteria.HasStrayStar "*.*.test" ∧
      (build ⟨1⟩ "listener" [chainFor ["*.*.test"]] (BuildScript.builder ⟨none, false, []⟩) none
        1).outcome.isOk = true := by
  constructor
  · unfold MatchCriteria.HasStrayStar
    decide
  · decide +kernel

end MatchIndex

/-! ## Overlaps -/

/-- A description with criteria of its own that pass validation, and that the builder takes, can only
be refused for its slots. -/
theorem BuildState.add_error {builder : ChainBuilder} {previous : Option MatchIndex}
    {state after : BuildState} {descriptor : FilterChainDescriptor} {error : ConfigError}
    (refused : state.add builder previous descriptor = (after, some error))
    (fresh : ¬(state.chains.any (·.1.criteria = descriptor.criteria)) = true)
    (valid : descriptor.criteria.Valid)
    (builds : ∃ blueprint, (builder descriptor).result = .built blueprint) :
    error = .overlappingMatchRule := by
  obtain ⟨normal, normalized⟩ := MatchCriteria.normalize_isOk_iff.mpr valid
  obtain ⟨blueprint, built⟩ := builds
  have steps : state.add builder previous descriptor = _ := if_neg fresh
  rw [steps, normalized] at refused
  dsimp only at refused
  split at refused
  · exact place_error refused
  · rw [built] at refused
    exact place_error refused

namespace MatchIndex

/-- Where descriptions are all right one by one, their criteria differ and the builder takes them,
the batch can only be refused as overlapping. -/
theorem overlapping_of_refused {generation : GenerationId} {listener : String}
    {descriptors : List FilterChainDescriptor} {builder : ChainBuilder}
    {previous : Option MatchIndex} {next : Nat} {error : ConfigError}
    (refused : (build generation listener descriptors builder previous next).outcome = .error error)
    (different : (descriptors.map (·.criteria)).Nodup)
    (valid : ∀ descriptor ∈ descriptors, descriptor.criteria.Valid)
    (builds : ∀ descriptor ∈ descriptors,
      ∃ blueprint, (builder descriptor).result = .built blueprint) :
    error = .overlappingMatchRule := by
  unfold build at refused
  rcases added : (BuildState.start next).addAll builder previous descriptors with ⟨last, _ | found⟩
  · rw [added] at refused
    dsimp only at refused
    split at refused
    · rename_i cause failed
      obtain ⟨text, rfl⟩ := Layout.compile_onlyClaims failed
      exact (Except.error.inj refused).symm
    · exact nomatch refused
  · rw [added] at refused
    rw [← Except.error.inj refused]
    obtain ⟨before, descriptor, after, middle, rfl, taken, stopped⟩ :=
      BuildState.exists_first_refused added
    obtain ⟨placed, covers, firsts⟩ := BuildState.exists_covers_of_addAll taken
    have listed : descriptor ∈ before ++ descriptor :: after := by simp
    apply BuildState.add_error stopped ?_ (valid descriptor listed) (builds descriptor listed)
    rw [covers.fresh_iff, firsts]
    rw [List.map_append, List.map_cons] at different
    intro earlier
    exact (List.nodup_append.mp different).2.2 _ earlier _ List.mem_cons_self rfl

end MatchIndex

end Admission.Chain
