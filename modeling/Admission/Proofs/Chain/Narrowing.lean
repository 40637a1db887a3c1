import Admission.Proofs.Chain.Meaning

/-!
Contract: selection as the narrowing of a flat list of slots, and its agreement with the compiled
levels.

A list of slots is narrowed level by level. Each level commits to one key, the most specific one
that is left, and keeps the slots with that key; there is no way back to another key.

Owns:
- `Rules.narrow`, which knows neither dictionaries nor tries;
- `MatchIndex.sourceLevel?`, the level at which a look-up comes to the source types, and that it
  stands for the rules that are left there (`finds_sourceLevel`);
- `find_answers`, by which a look-up in levels that answer for a list of rules is what narrowing
  leaves of that list.
-/

namespace Admission.Chain

open Admission.Net Admission.Listener

/-- Slots with their owners. -/
abbrev Rules (α : Type) := List (Slot × α)

namespace Rules

variable {α κ : Type} [DecidableEq κ]

/-- The rules with the first of some keys that any rule has; nothing if none has one. -/
def commit (rules : Rules α) (level : Slot → κ) (keys : List κ) : Rules α :=
  match keys.find? fun key => rules.any fun rule => level rule.1 = key with
  | some key => rules.filter fun rule => level rule.1 = key
  | none => []

/-- The rules that fit such that none that fits is longer. -/
def longest (rules : Rules α) (fits : Slot → Bool) (size : Slot → Nat) : Rules α :=
  rules.filter fun rule =>
    fits rule.1 && rules.all fun other => !fits other.1 || decide (size other.1 ≤ size rule.1)

/-- The first of two lists of rules that is not empty. -/
def orElse (rules others : Rules α) : Rules α :=
  if rules.isEmpty then others else rules

/-- The port of an IP socket if a slot has it, else port 0. -/
def byPort (rules : Rules α) (socket : Socket) : Rules α :=
  rules.commit Slot.port (socket.localAddress.port?.toList ++ [0])

/-- The longest range that holds the local address. -/
def byDestination (rules : Rules α) (socket : Socket) : Rules α :=
  rules.longest (fun slot => slot.destination.contains socket.localAddress.ipOrPlaceholder)
    fun slot => slot.destination.length

/-- Whether a key is a wildcard for a name: a dot and more, at the end of a longer name. -/
def isWildcardOf (key name : String) : Bool :=
  decide (key.toList.head? = some '.' ∧ 2 ≤ key.toList.length ∧ key.toList <:+ name.toList ∧
    key ≠ name)

/-- The server name itself, else its longest wildcard, else the empty name. -/
def byServerName (rules : Rules α) (socket : Socket) : Rules α :=
  (rules.commit Slot.serverName [socket.serverName]).orElse <|
    (rules.longest (fun slot => isWildcardOf slot.serverName socket.serverName)
      fun slot => slot.serverName.toList.length).orElse <|
    rules.commit Slot.serverName [""]

/-- The detected transport protocol, else the empty one. -/
def byTransport (rules : Rules α) (socket : Socket) : Rules α :=
  rules.commit Slot.transport [socket.transportProtocol, ""]

/-- The first offered application protocol that a slot has, else the empty one. -/
def byProtocol (rules : Rules α) (socket : Socket) : Rules α :=
  rules.commit Slot.protocol (socket.applicationProtocols ++ [""])

/-- The whereabouts of the peer if a slot asks for them, else any. -/
def bySourceType (rules : Rules α) (socket : Socket) : Rules α :=
  rules.commit Slot.sourceType [if socket.isLocal then .sameHost else .external, .any]

/-- The longest range that holds the peer's address. -/
def bySource (rules : Rules α) (socket : Socket) : Rules α :=
  rules.longest (fun slot => slot.source.contains socket.remoteAddress.ipOrPlaceholder)
    fun slot => slot.source.length

/-- The peer's port if a slot has it, else port 0. -/
def bySourcePort (rules : Rules α) (socket : Socket) : Rules α :=
  rules.commit Slot.sourcePort [socket.remoteAddress.port?.getD 0, 0]

/-- The rules that are left where the source type is looked at. -/
def path (rules : Rules α) (socket : Socket) : Rules α :=
  ((((rules.byPort socket).byDestination socket).byServerName socket).byTransport socket).byProtocol
    socket

/-- What is left of rules for a socket. -/
def narrow (rules : Rules α) (socket : Socket) : Rules α :=
  (((((((rules.byPort socket).byDestination socket).byServerName socket).byTransport
    socket).byProtocol socket).bySourceType socket).bySource socket).bySourcePort socket

/-! ## Steps of narrowing -/

@[simp]
theorem commit_nil (level : Slot → κ) (keys : List κ) :
    commit ([] : Rules α) level keys = [] := by
  unfold commit
  cases keys.find? fun key => ([] : Rules α).any fun rule => level rule.1 = key <;> rfl

@[simp]
theorem longest_nil (fits : Slot → Bool) (size : Slot → Nat) :
    longest ([] : Rules α) fits size = [] := rfl

@[simp]
theorem byDestination_nil (socket : Socket) : byDestination ([] : Rules α) socket = [] := rfl

@[simp]
theorem byServerName_nil (socket : Socket) : byServerName ([] : Rules α) socket = [] := rfl

@[simp]
theorem byTransport_nil (socket : Socket) : byTransport ([] : Rules α) socket = [] :=
  commit_nil _ _

@[simp]
theorem byProtocol_nil (socket : Socket) : byProtocol ([] : Rules α) socket = [] :=
  commit_nil _ _

@[simp]
theorem bySourceType_nil (socket : Socket) : bySourceType ([] : Rules α) socket = [] :=
  commit_nil _ _

@[simp]
theorem bySource_nil (socket : Socket) : bySource ([] : Rules α) socket = [] := rfl

@[simp]
theorem bySourcePort_nil (socket : Socket) : bySourcePort ([] : Rules α) socket = [] :=
  commit_nil _ _

/-- Narrowing to one key at a time is narrowing to the first list that is left. -/
theorem commit_append (rules : Rules α) (level : Slot → κ) (keys others : List κ) :
    rules.commit level (keys ++ others) =
      (rules.commit level keys).orElse (rules.commit level others) := by
  unfold commit orElse
  rw [List.find?_append]
  cases found : keys.find? fun key => rules.any fun rule => level rule.1 = key with
  | none => simp
  | some key =>
      have present : (rules.any fun rule => level rule.1 = key) = true := by
        simpa using List.find?_some found
      obtain ⟨rule, member, has⟩ := List.any_eq_true.mp present
      have left : rule ∈ rules.filter fun rule => level rule.1 = key :=
        List.mem_filter.mpr ⟨member, has⟩
      have filled : (rules.filter fun rule => level rule.1 = key).isEmpty = false := by
        rw [List.isEmpty_eq_false_iff]
        exact List.ne_nil_of_mem left
      simp [filled]

/-- Where keys are given from the longest to the shortest, a rule with one of them has the first that
any rule has, or a shorter one. -/
theorem eq_or_shorter_of_first {rules : Rules α} {level : Slot → κ} {keys : List κ} {measure : κ → Nat}
    (descending : keys.Pairwise fun left right => measure right < measure left) {key : κ}
    (found : (keys.find? fun key => rules.any fun rule => level rule.1 = key) = some key)
    {rule : Slot × α} (member : rule ∈ rules) (listed : level rule.1 ∈ keys) :
    level rule.1 = key ∨ measure (level rule.1) < measure key := by
  obtain ⟨_, before, after, split, absent⟩ := List.find?_eq_some_iff_append.mp found
  rw [split, List.pairwise_append, List.pairwise_cons] at descending
  rw [split, List.mem_append, List.mem_cons] at listed
  rcases listed with early | same | late
  · have nowhere := absent _ early
    rw [Bool.not_eq_true', List.any_eq_false] at nowhere
    exact absurd (decide_eq_true rfl) (nowhere rule member)
  · exact .inl same
  · exact .inr (descending.2.1.1 _ late)

/-- Where the keys that fit are given from the longest to the shortest, the longest rules are those
with the first of these keys. -/
theorem commit_eq_longest {rules : Rules α} {level : Slot → κ} {keys : List κ}
    {fits : Slot → Bool} {size : Slot → Nat} {measure : κ → Nat}
    (fits_iff : ∀ slot, fits slot = true ↔ level slot ∈ keys)
    (sizes : ∀ slot, size slot = measure (level slot))
    (descending : keys.Pairwise fun left right => measure right < measure left) :
    rules.commit level keys = rules.longest fits size := by
  unfold commit longest
  cases found : keys.find? fun key => rules.any fun rule => level rule.1 = key with
  | none =>
      symm
      rw [List.filter_eq_nil_iff]
      intro rule member kept
      rw [Bool.and_eq_true] at kept
      have isKey := (fits_iff rule.1).mp kept.1
      have nowhere := List.find?_eq_none.mp found _ isKey
      rw [List.any_eq_true] at nowhere
      exact nowhere ⟨rule, member, decide_eq_true rfl⟩
  | some key =>
      have present : (rules.any fun rule => level rule.1 = key) = true := by
        simpa using List.find?_some found
      have isKey : key ∈ keys := List.mem_of_find?_eq_some found
      obtain ⟨owner, ownerMember, ownerHas⟩ := List.any_eq_true.mp present
      have owns : level owner.1 = key := of_decide_eq_true ownerHas
      apply List.filter_congr
      intro rule member
      rw [Bool.eq_iff_iff, decide_eq_true_eq, Bool.and_eq_true, List.all_eq_true]
      constructor
      · intro has
        refine ⟨(fits_iff rule.1).mpr (has ▸ isKey), ?_⟩
        intro other otherMember
        rw [Bool.or_eq_true, Bool.not_eq_true', decide_eq_true_eq]
        by_cases fit : fits other.1 = true
        · right
          rw [sizes, sizes, has]
          rcases eq_or_shorter_of_first descending found otherMember ((fits_iff other.1).mp fit) with
            same | shorter
          · rw [same]
          · exact Nat.le_of_lt shorter
        · left
          simpa using fit
      · intro kept
        obtain ⟨fit, longest⟩ := kept
        rcases eq_or_shorter_of_first descending found member ((fits_iff rule.1).mp fit) with
          same | shorter
        · exact same
        · -- The rule with the first key fits as well and is longer.
          have bound := longest owner ownerMember
          rw [(fits_iff owner.1).mpr (owns ▸ isKey), sizes, sizes, owns] at bound
          simp only [Bool.not_true, Bool.false_or, decide_eq_true_eq] at bound
          omega

/-! ## Wildcards -/

private theorem mem_suffixes {name suffix : List Char} :
    suffix ∈ MatchIndex.wildcardSuffixes.suffixes name ↔ suffix <:+ name ∧ suffix ≠ [] := by
  induction name with
  | nil => simp [MatchIndex.wildcardSuffixes.suffixes]
  | cons first rest inductionHypothesis =>
      rw [MatchIndex.wildcardSuffixes.suffixes, List.mem_cons, inductionHypothesis,
        List.suffix_cons_iff]
      constructor
      · rintro (whole | ⟨part, filled⟩)
        · exact ⟨.inl whole, by simp [whole]⟩
        · exact ⟨.inr part, filled⟩
      · rintro ⟨whole | part, filled⟩
        · exact .inl whole
        · exact .inr ⟨part, filled⟩

private theorem suffixes_descending (name : List Char) :
    (MatchIndex.wildcardSuffixes.suffixes name).Pairwise fun left right =>
      right.length < left.length := by
  induction name with
  | nil => exact .nil
  | cons first rest inductionHypothesis =>
      refine .cons ?_ inductionHypothesis
      intro suffix member
      have bound := (mem_suffixes.mp member).1.length_le
      rw [List.length_cons]
      omega

private theorem mem_wildcardSuffixes {name suffix : List Char} :
    suffix ∈ MatchIndex.wildcardSuffixes name ↔
      suffix.head? = some '.' ∧ 2 ≤ suffix.length ∧ suffix <:+ name ∧ suffix ≠ name := by
  cases name with
  | nil =>
      simp only [MatchIndex.wildcardSuffixes, List.not_mem_nil, List.suffix_nil, false_iff]
      rintro ⟨_, _, same, different⟩
      exact different same
  | cons first rest =>
      simp only [MatchIndex.wildcardSuffixes, List.mem_filter, mem_suffixes, decide_eq_true_eq]
      constructor
      · rintro ⟨⟨part, _⟩, dot, long⟩
        refine ⟨dot, long, part.trans (List.suffix_cons first rest), ?_⟩
        rintro rfl
        have bound := part.length_le
        rw [List.length_cons] at bound
        omega
      · rintro ⟨dot, long, part, proper⟩
        rcases List.suffix_cons_iff.mp part with whole | inside
        · exact absurd whole proper
        · refine ⟨⟨inside, ?_⟩, dot, long⟩
          rintro rfl
          exact absurd long (by simp)

/-- The keys under which a wildcard for a name is looked up, the longest first. -/
def wildcardKeys (name : String) : List String :=
  (MatchIndex.wildcardSuffixes name.toList).map String.ofList

theorem isWildcardOf_iff {key name : String} :
    isWildcardOf key name = true ↔ key ∈ wildcardKeys name := by
  rw [isWildcardOf, decide_eq_true_eq, wildcardKeys, List.mem_map]
  have proper : key ≠ name ↔ key.toList ≠ name.toList := by
    rw [ne_eq, ne_eq, String.toList_inj]
  rw [proper, ← mem_wildcardSuffixes]
  constructor
  · intro member
    exact ⟨key.toList, member, String.ofList_toList⟩
  · rintro ⟨suffix, member, rfl⟩
    rw [String.toList_ofList]
    exact member

private theorem wildcardKeys_descending (name : String) :
    (wildcardKeys name).Pairwise fun left right =>
      right.toList.length < left.toList.length := by
  rw [wildcardKeys, List.pairwise_map]
  have descending : (MatchIndex.wildcardSuffixes name.toList).Pairwise fun left right =>
      right.length < left.length := by
    cases name.toList with
    | nil => exact .nil
    | cons first rest => exact (suffixes_descending rest).filter _
  refine descending.imp ?_
  intro left right shorter
  rw [String.toList_ofList, String.toList_ofList]
  exact shorter

/-- Narrowing by name, as one list of keys. -/
theorem byServerName_eq (rules : Rules α) (socket : Socket) :
    rules.byServerName socket =
      rules.commit Slot.serverName ([socket.serverName] ++ (wildcardKeys socket.serverName ++ [""])) := by
  rw [commit_append, commit_append, byServerName]
  congr 2
  symm
  refine commit_eq_longest ?_ ?_ (wildcardKeys_descending socket.serverName)
  · intro slot
    exact isWildcardOf_iff
  · intro slot
    rfl

@[simp]
theorem orElse_nil : orElse ([] : Rules α) [] = [] := rfl

end Rules

/-! ## Look-ups -/

/-- The rules of a list, as a set. -/
def members {α : Type} (rules : Rules α) : Set (Slot × α) :=
  {rule | rule ∈ rules}

/-- The outcome of a look-up against the rules it should leave: a value that stands for them, or
nothing where none is left. -/
def Finds {α β : Type} (part : β → Set (Slot × α) → Prop) (outcome : Option β) (rules : Rules α) :
    Prop :=
  match outcome with
  | some value => rules ≠ [] ∧ part value (members rules)
  | none => rules = []

section Finds

variable {α β γ κ : Type} [DecidableEq κ] {part : β → Set (Slot × α) → Prop} {rules : Rules α}

private theorem members_filter (rules : Rules α) (level : Slot → κ) (key : κ) :
    members (rules.filter fun rule => level rule.1 = key) =
      {rule ∈ members rules | level rule.1 = key} := by
  ext rule
  simp [members]

/-- A look-up below a look-up. -/
theorem Finds.bind {next : γ → Set (Slot × α) → Prop} {outcome : Option β} {go : β → Option γ}
    (narrow : Rules α → Rules α) (finds : Finds part outcome rules) (vacant : narrow [] = [])
    (below : ∀ value rules, part value (members rules) → Finds next (go value) (narrow rules)) :
    Finds next (outcome.bind go) (narrow rules) := by
  cases outcome with
  | none =>
      have empty : rules = [] := finds
      rw [empty, vacant]
      rfl
  | some value => exact below value rules finds.2

/-- Where each key finds its rules, a list of keys finds what narrowing to it leaves. -/
theorem finds_commit {level : Slot → κ} {get : κ → Option β}
    (each : ∀ key, Finds part (get key) (rules.filter fun rule => level rule.1 = key))
    (keys : List κ) : Finds part (keys.findSome? get) (rules.commit level keys) := by
  induction keys with
  | nil => rfl
  | cons key keys inductionHypothesis =>
      have found := each key
      unfold Rules.commit
      rw [List.findSome?_cons, List.find?_cons]
      cases outcome : get key with
      | none =>
          rw [outcome] at found
          have absent : (rules.any fun rule => level rule.1 = key) = false := by
            rw [List.any_eq_false]
            exact List.filter_eq_nil_iff.mp found
          rw [absent]
          exact inductionHypothesis
      | some value =>
          rw [outcome] at found
          have present : (rules.any fun rule => level rule.1 = key) = true := by
            obtain ⟨rule, member⟩ := List.exists_mem_of_ne_nil _ found.1
            obtain ⟨listed, has⟩ := List.mem_filter.mp member
            exact List.any_eq_true.mpr ⟨rule, listed, has⟩
          rw [present]
          exact found

/-- A level by key finds the rules of a key. -/
theorem finds_filter {level : Slot → κ} {table : Table κ β}
    (stands : table.StandsFor (fun rule => level rule.1) part (members rules)) (key : κ) :
    Finds part (table.get? key) (rules.filter fun rule => level rule.1 = key) := by
  cases found : table.get? key with
  | none =>
      show _ = []
      rw [List.filter_eq_nil_iff]
      intro rule member
      rw [decide_eq_true_eq]
      exact stands.missing found rule member
  | some value =>
      obtain ⟨rule, member, has⟩ := stands.occurs found
      refine ⟨List.ne_nil_of_mem (List.mem_filter.mpr ⟨member, decide_eq_true has⟩), ?_⟩
      rw [members_filter]
      exact stands.part found

/-- A level by range finds the longest rules. -/
theorem finds_longest {level : Slot → CidrRange} {matcher : AddressMatcher β}
    (stands : matcher.StandsFor (fun rule => level rule.1) part (members rules))
    (address : IpAddress) :
    Finds part (matcher.get? address)
      (rules.longest (fun slot => (level slot).contains address)
        fun slot => (level slot).length) := by
  unfold Rules.longest
  cases found : matcher.get? address with
  | none =>
      show _ = []
      rw [List.filter_eq_nil_iff]
      intro rule member
      have outside : (level rule.1).contains address = false := stands.missing found rule member
      simp [outside]
  | some value =>
      obtain ⟨range, contained, ⟨owner, ownerMember, owns⟩, bound, below⟩ := stands.found found
      -- The longest range that holds the address is the only one of its length that does.
      have chosen : (rules.filter fun rule => (level rule.1).contains address &&
          rules.all fun other => !(level other.1).contains address ||
            decide ((level other.1).length ≤ (level rule.1).length)) =
          rules.filter fun rule => level rule.1 = range := by
        apply List.filter_congr
        intro rule member
        rw [Bool.eq_iff_iff, decide_eq_true_eq, Bool.and_eq_true, List.all_eq_true]
        constructor
        · rintro ⟨holds, longest⟩
          have atLeast := longest owner ownerMember
          rw [owns, contained, Bool.not_true, Bool.false_or, decide_eq_true_eq] at atLeast
          have atMost := bound rule member holds
          exact CidrRange.eq_of_contains holds contained (Nat.le_antisymm atMost atLeast)
        · intro has
          rw [has]
          refine ⟨contained, ?_⟩
          intro other otherMember
          rw [Bool.or_eq_true, Bool.not_eq_true', decide_eq_true_eq]
          by_cases holds : (level other.1).contains address = true
          · exact .inr (bound other otherMember holds)
          · exact .inl (Bool.eq_false_iff.mpr holds)
      rw [chosen]
      refine ⟨List.ne_nil_of_mem (List.mem_filter.mpr ⟨ownerMember, decide_eq_true owns⟩), ?_⟩
      rw [members_filter]
      exact below

end Finds

/-! ## The level of the source types -/

namespace MatchIndex

/-- The source types that a look-up comes to. -/
def sourceLevel? (index : MatchIndex) (socket : Socket) : Option SourceLevel :=
  let destinations :=
    (socket.localAddress.port?.bind index.destinations.get?).or (index.destinations.get? 0)
  let names := destinations.bind (·.get? socket.localAddress.ipOrPlaceholder)
  let transports := names.bind (nameLevel · socket.serverName)
  let protocols := transports.bind fun level =>
    (level.get? socket.transportProtocol).or (level.get? "")
  protocols.bind fun level =>
    (socket.applicationProtocols.findSome? level.get?).or (level.get? "")

/-- A look-up goes on at the source types that it comes to. -/
theorem find_eq (index : MatchIndex) (socket : Socket) :
    index.find socket =
      match index.sourceLevel? socket with
      | some types => findSourceType types socket
      | none => .ofChain none := by
  unfold find sourceLevel?
  dsimp only
  cases (socket.localAddress.port?.bind index.destinations.get?).or (index.destinations.get? 0) with
  | none => rfl
  | some destinations =>
      simp only [findDestination, Option.bind_some]
      cases destinations.get? socket.localAddress.ipOrPlaceholder with
      | none => rfl
      | some names =>
          simp only [findName, Option.bind_some]
          cases nameLevel names socket.serverName with
          | none => rfl
          | some transports =>
              simp only [findTransport, Option.bind_some]
              cases (transports.get? socket.transportProtocol).or (transports.get? "") with
              | none => rfl
              | some protocols => rfl

end MatchIndex

/-! ## Agreement -/

/-- A chain against the rules that should be left: it owns them all, or none is left. -/
def Answers : Option FilterChain → Rules FilterChain → Prop :=
  Finds fun chain rules => ∀ rule ∈ rules, rule.2 = chain

section Agreement

variable {rules : Rules FilterChain} (socket : Socket)

private theorem findSource_answers {sources : AddressMatcher SourcePorts}
    (answer : SourcesAnswer sources (members rules)) :
    Answers (MatchIndex.findSource sources socket) ((rules.bySource socket).bySourcePort socket) := by
  have steps : MatchIndex.findSource sources socket =
      (sources.get? socket.remoteAddress.ipOrPlaceholder).bind fun ports =>
        [socket.remoteAddress.port?.getD 0, 0].findSome? ports.get? := by
    unfold MatchIndex.findSource
    congr 1
    funext ports
    cases first : ports.get? (socket.remoteAddress.port?.getD 0) <;>
      cases second : ports.get? 0 <;> simp [first, second]
  rw [steps]
  refine Finds.bind (fun left => left.bySourcePort socket)
    (finds_longest answer _) (by simp) ?_
  intro ports left portsAnswer
  exact finds_commit (finds_filter portsAnswer) _

private theorem findSourceType_answers {types : SourceLevel}
    (answer : TypesAnswer types (members rules)) :
    Answers (MatchIndex.findSourceType types socket).chain
      (((rules.bySourceType socket).bySource socket).bySourcePort socket) := by
  have steps : (MatchIndex.findSourceType types socket).chain =
      ([if socket.isLocal then .sameHost else .external, .any].findSome? types.get).bind
        (MatchIndex.findSource · socket) := by
    unfold MatchIndex.findSourceType
    cases sameHost : types.sameHost <;> cases external : types.external <;>
      cases any : types.any <;> cases socket.isLocal <;>
      simp [MatchIndex.Selection.ofChain, BySource.get, sameHost, external, any]
  have each (type : SourceType) :
      Finds SourcesAnswer (types.get type) (rules.filter fun rule => rule.1.sourceType = type) := by
    have part := answer type
    rw [← members_filter rules Slot.sourceType] at part
    unfold SourceTypeAnswers at part
    split at part
    · rename_i sources found
      rw [found]
      obtain ⟨⟨rule, member⟩, below⟩ := part
      exact ⟨List.ne_nil_of_mem member, below⟩
    · rename_i absent
      rw [absent]
      exact List.eq_nil_iff_forall_not_mem.mpr (Set.eq_empty_iff_forall_notMem.mp part)
  rw [steps]
  refine Finds.bind (fun left => (left.bySource socket).bySourcePort socket)
    (finds_commit each _) (by simp) ?_
  intro sources left sourcesAnswer
  exact findSource_answers socket sourcesAnswer

/-- A level of ports finds the rules of the port, or of port 0. -/
theorem finds_port {ports : Table UInt16 DestinationLevel}
    (answer : PortLevelAnswers ports (members rules)) :
    Finds DestinationsAnswer ((socket.localAddress.port?.bind ports.get?).or (ports.get? 0))
      (rules.byPort socket) := by
  have each := finds_commit (finds_filter answer) (socket.localAddress.port?.toList ++ [0])
  rw [List.findSome?_append, List.findSome?_singleton] at each
  cases port : socket.localAddress.port? <;> simpa [port, Rules.byPort] using each

private theorem nameLevel_eq (names : NameLevel) (name : String) :
    MatchIndex.nameLevel names name =
      ([name] ++ (Rules.wildcardKeys name ++ [""])).findSome? names.get? := by
  rw [List.findSome?_append, List.findSome?_append, List.findSome?_singleton,
    List.findSome?_singleton, Rules.wildcardKeys, List.findSome?_map, ← Option.or_assoc]
  rfl

/-- A level of names finds the rules of the name, of its longest wildcard, or of the empty name. -/
theorem finds_name {names : NameLevel} (answer : NamesAnswer names (members rules)) :
    Finds TransportsAnswer (MatchIndex.nameLevel names socket.serverName)
      (rules.byServerName socket) := by
  rw [nameLevel_eq, Rules.byServerName_eq]
  exact finds_commit (finds_filter answer) _

/-- A level of transport protocols finds the rules of the detected one, or of the empty one. -/
theorem finds_transport {transports : TransportLevel}
    (answer : TransportsAnswer transports (members rules)) :
    Finds ProtocolsAnswer
      ((transports.get? socket.transportProtocol).or (transports.get? ""))
      (rules.byTransport socket) := by
  have each := finds_commit (finds_filter answer) ([socket.transportProtocol] ++ [""])
  rw [List.findSome?_append, List.findSome?_singleton, List.findSome?_singleton] at each
  exact each

/-- A level of application protocols finds the rules of the first offered one that has any, or of the
empty one. -/
theorem finds_protocol {protocols : ProtocolLevel}
    (answer : ProtocolsAnswer protocols (members rules)) :
    Finds TypesAnswer
      ((socket.applicationProtocols.findSome? protocols.get?).or (protocols.get? ""))
      (rules.byProtocol socket) := by
  have each := finds_commit (finds_filter answer) (socket.applicationProtocols ++ [""])
  rw [List.findSome?_append, List.findSome?_singleton] at each
  exact each

/-- The source types that a look-up comes to stand for the rules on the path of the socket. -/
theorem finds_sourceLevel {index : MatchIndex}
    (answer : PortLevelAnswers index.destinations (members rules)) :
    Finds TypesAnswer (index.sourceLevel? socket) (rules.path socket) := by
  have names := (finds_port socket answer).bind (·.byDestination socket) rfl
    fun _ _ part => finds_longest part socket.localAddress.ipOrPlaceholder
  have transports := names.bind (·.byServerName socket) rfl fun _ _ part => finds_name socket part
  have protocols := transports.bind (·.byTransport socket) (Rules.byTransport_nil socket)
    fun _ _ part => finds_transport socket part
  exact protocols.bind (·.byProtocol socket) (Rules.byProtocol_nil socket)
    fun _ _ part => finds_protocol socket part

/-- A look-up in levels that answer for a list of rules finds what narrowing leaves of it. -/
theorem find_answers {index : MatchIndex}
    (answer : PortLevelAnswers index.destinations (members rules)) :
    Answers (index.find socket).chain (rules.narrow socket) := by
  have steps : (index.find socket).chain =
      (index.sourceLevel? socket).bind fun types =>
        (MatchIndex.findSourceType types socket).chain := by
    rw [MatchIndex.find_eq]
    cases index.sourceLevel? socket <;> rfl
  rw [steps]
  refine (finds_sourceLevel socket answer).bind
    (fun left => ((left.bySourceType socket).bySource socket).bySourcePort socket) (by simp) ?_
  intro types left typesAnswer
  exact findSourceType_answers socket typesAnswer

end Agreement

end Admission.Chain
