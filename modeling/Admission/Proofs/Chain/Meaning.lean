import Admission.Proofs.Chain.Levels

/-!
Contract: a layout stands for the slot keys that were put into it, and what it compiles to stands
for their slots.

Owns:
- `Layout.Holds`, the claims that a layout stands for, and `insert_cases`, by which a claim is
  refused exactly if its key is taken;
- `Collide`, the only reason for which a layout does not compile;
- `Answers` for every compiled level, and `compile_answers`.

Does not own: look-ups in the compiled levels (`Admission.Proofs.Chain.Narrowing`).
-/

namespace Admission.Chain

open Admission.Net

/-- A slot key with the chain that claims it. -/
abbrev Claim := SlotKey × FilterChain

/-- A slot with the chain that is found through it. -/
abbrev Rule := Slot × FilterChain

namespace Layout

/-! ## Layouts -/

/-- What a dictionary of source ports stands for. -/
def PortsHold : SourcePorts → Set Claim → Prop :=
  Table.StandsFor (·.1.sourcePort) fun chain claims => ∀ claim ∈ claims, claim.2 = chain

/-- What source ranges stand for. -/
def SourcesHold : SourceLayout → Set Claim → Prop :=
  Table.StandsFor (·.1.source) PortsHold

/-- What the source ranges of all source types stand for. -/
def TypesHold (types : BySource SourceLayout) (claims : Set Claim) : Prop :=
  ∀ type, SourcesHold (types.get type) {claim ∈ claims | claim.1.sourceType = type}

/-- What application protocols stand for. -/
def ProtocolsHold : ProtocolLayout → Set Claim → Prop :=
  Table.StandsFor (·.1.protocol) TypesHold

/-- What transport protocols stand for. -/
def TransportsHold : TransportLayout → Set Claim → Prop :=
  Table.StandsFor (·.1.transport) ProtocolsHold

/-- What server names stand for. -/
def NamesHold : NameLayout → Set Claim → Prop :=
  Table.StandsFor (·.1.serverName) TransportsHold

/-- What destination ranges stand for. -/
def DestinationsHold : DestinationLayout → Set Claim → Prop :=
  Table.StandsFor (·.1.destination) NamesHold

/-- What a layout stands for. -/
def Holds : Layout → Set Claim → Prop :=
  Table.StandsFor (·.1.port) DestinationsHold

private theorem typesHold_vacant : TypesHold ⟨.empty, .empty, .empty⟩ ∅ := by
  intro type
  have nothing : {claim ∈ (∅ : Set Claim) | claim.1.sourceType = type} = ∅ := by simp
  rw [nothing]
  cases type <;> exact Table.standsFor_empty

theorem holds_empty : Holds .empty ∅ :=
  Table.standsFor_empty

private theorem get_set {α : Type} (values : BySource α) (value : α) (type other : SourceType) :
    (values.set value type).get other = if other = type then value else values.get other := by
  cases type <;> cases other <;> rfl

/-- A claim comes in below the source types. -/
theorem TypesHold.set {types : BySource SourceLayout} {claims : Set Claim}
    (holds : TypesHold types claims) (claim : Claim) {sources : SourceLayout}
    (below : SourcesHold sources
      (Insert.insert claim {other ∈ claims | other.1.sourceType = claim.1.sourceType})) :
    TypesHold (types.set sources claim.1.sourceType) (Insert.insert claim claims) := by
  intro type
  rw [get_set]
  split
  · rename_i here
    rw [here, rules_insert_self fun other : Claim => other.1.sourceType]
    exact below
  · rename_i elsewhere
    rw [rules_insert_of_ne (fun other : Claim => other.1.sourceType) elsewhere]
    exact holds type

/-- The claims that share all levels above the source port with a key. -/
def companions (claims : Set Claim) (key : SlotKey) : Set Claim :=
  {claim ∈ {claim ∈ {claim ∈ {claim ∈ {claim ∈ {claim ∈ {claim ∈ claims |
    claim.1.port = key.port} | claim.1.destination = key.destination} |
    claim.1.serverName = key.serverName} | claim.1.transport = key.transport} |
    claim.1.protocol = key.protocol} | claim.1.sourceType = key.sourceType} |
    claim.1.source = key.source}

private theorem mem_companions {claims : Set Claim} {key : SlotKey} {claim : Claim}
    (port : claim.1.sourcePort = key.sourcePort) :
    claim ∈ companions claims key ↔ claim ∈ claims ∧ claim.1 = key := by
  obtain ⟨⟨claimPort, destination, serverName, transport, protocol, type, source, sourcePort⟩,
    chain⟩ := claim
  cases key
  simp only [companions, Set.mem_ofPred_eq, SlotKey.mk.injEq] at port ⊢
  simp [port, and_assoc]

/-- A claim comes in exactly if its key is not taken. -/
theorem insert_cases {layout : Layout} {claims : Set Claim} (holds : layout.Holds claims)
    (key : SlotKey) (chain : FilterChain) :
    (∃ result, layout.insert key chain = some result ∧ (∀ claim ∈ claims, claim.1 ≠ key) ∧
      result.Holds (Insert.insert (key, chain) claims)) ∨
    (layout.insert key chain = none ∧ ∃ claim ∈ claims, claim.1 = key) := by
  -- What the levels on the way stand for, down to the source ports.
  have destinations := holds.part_getD Table.standsFor_empty key.port
  have names := destinations.part_getD Table.standsFor_empty key.destination
  have transports := names.part_getD Table.standsFor_empty key.serverName
  have protocols := transports.part_getD Table.standsFor_empty key.transport
  have types := protocols.part_getD typesHold_vacant key.protocol
  have sources := types key.sourceType
  have ports := sources.part_getD Table.standsFor_empty key.source
  unfold insert
  dsimp only [level]
  split
  · rename_i found
    refine .inr ⟨rfl, ?_⟩
    obtain ⟨claim, member, port⟩ := ports.occurs found
    obtain ⟨inside, same⟩ := (mem_companions port).mp member
    exact ⟨claim, inside, same⟩
  · rename_i vacant
    refine .inl ⟨_, rfl, ?_, ?_⟩
    · intro claim member same
      exact ports.missing vacant claim
        ((mem_companions (by rw [same])).mpr ⟨member, same⟩) (by rw [same])
    · -- Back up again, each level with the claim added.
      refine holds.insert (key, chain) ?_
      refine destinations.insert (key, chain) ?_
      refine names.insert (key, chain) ?_
      refine transports.insert (key, chain) ?_
      refine protocols.insert (key, chain) ?_
      refine types.set (key, chain) ?_
      refine sources.insert (key, chain) ?_
      refine ports.insert (key, chain) ?_
      rintro claim (rfl | ⟨member, port⟩)
      · rfl
      · exact absurd port (ports.missing vacant claim member)

/-! ## Compiled levels -/

end Layout

def SlotKey.at (key : SlotKey) (destination source : CidrRange) : Slot :=
  ⟨key.port, destination, key.serverName, key.transport, key.protocol, key.sourceType, source,
    key.sourcePort⟩

theorem SlotKey.mem_slots_iff {key : SlotKey} {slot : Slot} :
    slot ∈ key.slots ↔ ∃ destination ∈ key.destination.ranges, ∃ source ∈ key.source.ranges,
      slot = key.at destination source := by
  simp only [SlotKey.slots, List.mem_flatMap, List.mem_map, SlotKey.at, eq_comm]

/-- What a dictionary of source ports answers for. -/
def PortsAnswer : SourcePorts → Set Rule → Prop :=
  Table.StandsFor (·.1.sourcePort) fun chain rules => ∀ rule ∈ rules, rule.2 = chain

/-- What a trie of source ranges answers for. -/
def SourcesAnswer : AddressMatcher SourcePorts → Set Rule → Prop :=
  AddressMatcher.StandsFor (·.1.source) PortsAnswer

/-- What the tries of one source type answer for; without a trie, for nothing. -/
def SourceTypeAnswers (sources : Option (AddressMatcher SourcePorts)) (rules : Set Rule) : Prop :=
  match sources with
  | some sources => rules.Nonempty ∧ SourcesAnswer sources rules
  | none => rules = ∅

/-- What the tries of all source types answer for. -/
def TypesAnswer (types : SourceLevel) (rules : Set Rule) : Prop :=
  ∀ type, SourceTypeAnswers (types.get type) {rule ∈ rules | rule.1.sourceType = type}

/-- What application protocols answer for. -/
def ProtocolsAnswer : ProtocolLevel → Set Rule → Prop :=
  Table.StandsFor (·.1.protocol) TypesAnswer

/-- What transport protocols answer for. -/
def TransportsAnswer : TransportLevel → Set Rule → Prop :=
  Table.StandsFor (·.1.transport) ProtocolsAnswer

/-- What server names answer for. -/
def NamesAnswer : NameLevel → Set Rule → Prop :=
  Table.StandsFor (·.1.serverName) TransportsAnswer

/-- What the destination ranges of a port answer for. -/
def DestinationsAnswer : DestinationLevel → Set Rule → Prop :=
  AddressMatcher.StandsFor (·.1.destination) NamesAnswer

/-- What the levels of an index answer for. -/
def PortLevelAnswers : Table UInt16 DestinationLevel → Set Rule → Prop :=
  Table.StandsFor (·.1.port) DestinationsAnswer

/-! ## Compilation -/

/-- Two claims of different source ranges that share a slot of the trie below one source type. -/
def SourcesCollide (left right : Claim) : Prop :=
  left.1.source ≠ right.1.source ∧ Layout.Meet left.1.source right.1.source

/-- Two keys that keep a layout from being compiled: they differ in their range at some level,
agree above it, and have a range in common there. The levels below do not count. -/
def SlotKey.Collides (left right : SlotKey) : Prop :=
  left.port = right.port ∧
    ((left.destination ≠ right.destination ∧ Layout.Meet left.destination right.destination) ∨
    (left.destination = right.destination ∧ left.serverName = right.serverName ∧
      left.transport = right.transport ∧ left.protocol = right.protocol ∧
      left.sourceType = right.sourceType ∧ left.source ≠ right.source ∧
      Layout.Meet left.source right.source))

/-- Two claims whose keys collide. -/
def Collide (left right : Claim) : Prop :=
  left.1.Collides right.1

namespace Layout

/-- A claim at one range of its destination and one of its source. -/
def BecomesAt (destination source : CidrRange) (claim : Claim) (rule : Rule) : Prop :=
  rule = (claim.1.at destination source, claim.2)

/-- A claim at one range of its destination. -/
def BecomesUnder (destination : CidrRange) (claim : Claim) (rule : Rule) : Prop :=
  ∃ source ∈ claim.1.source.ranges, BecomesAt destination source claim rule

/-- A claim at any of its ranges. -/
def Becomes (claim : Claim) (rule : Rule) : Prop :=
  ∃ destination ∈ claim.1.destination.ranges, BecomesUnder destination claim rule

theorem ranges_ne_nil (key : RangeKey) : ∃ range, range ∈ key.ranges := by
  cases key with
  | everywhere => exact ⟨.allV4, by simp [RangeKey.ranges]⟩
  | range range => exact ⟨range, by simp [RangeKey.ranges]⟩

private theorem exists_becomesUnder (destination : CidrRange) (claim : Claim) :
    ∃ rule, BecomesUnder destination claim rule := by
  obtain ⟨source, listed⟩ := ranges_ne_nil claim.1.source
  exact ⟨_, source, listed, rfl⟩

private theorem exists_becomes (claim : Claim) : ∃ rule, Becomes claim rule := by
  obtain ⟨destination, listed⟩ := ranges_ne_nil claim.1.destination
  obtain ⟨rule, under⟩ := exists_becomesUnder destination claim
  exact ⟨rule, destination, listed, under⟩

section Sources

variable {sources : SourceLayout} {claims : Set Claim}

private theorem compileRanges_ports_isOk_iff (holds : SourcesHold sources claims) :
    (∃ result, compileRanges .ok sources = .ok result) ↔ Free SourcesCollide claims := by
  have nothingBelow : ∀ (ports : SourcePorts) (claims : Set Claim), PortsHold ports claims →
      ((∃ result, (.ok ports : Except RangeError SourcePorts) = .ok result) ↔
        Free (fun _ _ => False) claims) := by
    intro ports claims _
    simp [Free]
  rw [compileRanges_isOk_iff nothingBelow holds]
  simp [Free, SourcesCollide]

private theorem compileRanges_ports_answers (holds : SourcesHold sources claims)
    {result : AddressMatcher SourcePorts} (compiled : compileRanges .ok sources = .ok result)
    (destination : CidrRange) :
    SourcesAnswer result (expansion (BecomesUnder destination) claims) := by
  refine compileRanges_standsFor ?_ ?_ ?_ holds compiled
  · intro range claim rule becomes
    rw [becomes]
    rfl
  · intro range claim
    exact ⟨_, rfl⟩
  · intro ports portClaims result portsHold same source
    obtain rfl : ports = result := Except.ok.inj same
    refine standsFor_expansion ?_ ?_ ?_ portsHold
    · intro claim rule becomes
      rw [becomes]
      rfl
    · intro claim
      exact ⟨_, rfl⟩
    · intro chain members owned rule member
      obtain ⟨claim, claimMember, becomes⟩ := member
      rw [becomes]
      exact owned claim claimMember

/-- The rules of a claim at a range keep its name, its protocols, its source type and its port. -/
theorem BecomesUnder.keeps {destination : CidrRange} {claim : Claim} {rule : Rule}
    (becomes : BecomesUnder destination claim rule) :
    rule.1.port = claim.1.port ∧ rule.1.destination = destination ∧
      rule.1.serverName = claim.1.serverName ∧ rule.1.transport = claim.1.transport ∧
      rule.1.protocol = claim.1.protocol ∧ rule.1.sourceType = claim.1.sourceType := by
  obtain ⟨source, _, same⟩ := becomes
  rw [same]
  exact ⟨rfl, rfl, rfl, rfl, rfl, rfl⟩

private theorem isEmpty_iff_of_hold (holds : SourcesHold sources claims) :
    sources.isEmpty = true ↔ claims = ∅ := by
  constructor
  · intro empty
    apply Set.eq_empty_of_forall_notMem
    intro claim member
    have isKey := holds.keys_iff.mpr ⟨claim, member, rfl⟩
    simp only [Table.isEmpty, List.isEmpty_iff] at empty
    simp [Table.keys, empty] at isKey
  · intro none
    rw [Table.isEmpty, List.isEmpty_iff]
    by_contra entries
    obtain ⟨entry, member⟩ := List.exists_mem_of_ne_nil _ entries
    have isKey : entry.1 ∈ sources.keys := List.mem_map.mpr ⟨entry, member, rfl⟩
    obtain ⟨claim, claimed, _⟩ := holds.keys_iff.mp isKey
    rw [none] at claimed
    exact claimed

private theorem compileSources_isOk_iff (holds : SourcesHold sources claims) :
    (∃ result, compileSources sources = .ok result) ↔ Free SourcesCollide claims := by
  unfold compileSources
  split
  · rename_i empty
    rw [(isEmpty_iff_of_hold holds).mp empty]
    simp [Free]
  · rw [← compileRanges_ports_isOk_iff holds]
    cases compileRanges .ok sources <;> simp [Except.map]

private theorem compileSources_answers (holds : SourcesHold sources claims)
    {result : Option (AddressMatcher SourcePorts)} (compiled : compileSources sources = .ok result)
    (destination : CidrRange) :
    SourceTypeAnswers result (expansion (BecomesUnder destination) claims) := by
  unfold compileSources at compiled
  split at compiled
  · rename_i empty
    rw [← Except.ok.inj compiled, (isEmpty_iff_of_hold holds).mp empty]
    simp [SourceTypeAnswers, expansion]
  · rename_i filled
    cases made : compileRanges .ok sources with
    | error cause =>
        rw [made] at compiled
        exact absurd compiled (by simp [Except.map])
    | ok trie =>
        rw [made] at compiled
        rw [← Except.ok.inj compiled]
        refine ⟨?_, compileRanges_ports_answers holds made destination⟩
        obtain ⟨claim, member⟩ : claims.Nonempty := by
          rw [Set.nonempty_iff_ne_empty]
          exact fun none => filled ((isEmpty_iff_of_hold holds).mpr none)
        obtain ⟨rule, becomes⟩ := exists_becomesUnder destination claim
        exact ⟨rule, claim, member, becomes⟩

private theorem compileSources_onlyClaims : OnlyClaims compileSources := by
  intro sources cause failed
  unfold compileSources at failed
  split at failed
  · exact absurd failed (by simp)
  · cases made : compileRanges .ok sources with
    | ok trie =>
        rw [made] at failed
        exact absurd failed (by simp [Except.map])
    | error why =>
        rw [made] at failed
        rw [← Except.error.inj failed]
        exact compileRanges_onlyClaims (by intro _ _ never; exact absurd never (by simp)) made

end Sources

section Types

variable {types : BySource SourceLayout} {claims : Set Claim}

private theorem compileSourceTypes_eq (types : BySource SourceLayout) :
    compileSourceTypes types =
      match compileSources types.any, compileSources types.sameHost,
        compileSources types.external with
      | .ok any, .ok sameHost, .ok external => .ok ⟨any, sameHost, external⟩
      | .error cause, _, _ => .error cause
      | .ok _, .error cause, _ => .error cause
      | .ok _, .ok _, .error cause => .error cause := by
  unfold compileSourceTypes
  cases compileSources types.any <;> cases compileSources types.sameHost <;>
    cases compileSources types.external <;> rfl

private theorem compileSourceTypes_ok_iff {result : SourceLevel} :
    compileSourceTypes types = .ok result ↔
      ∀ type, compileSources (types.get type) = .ok (result.get type) := by
  rw [compileSourceTypes_eq]
  constructor
  · intro compiled type
    split at compiled
    · rename_i any sameHost external
      rw [← Except.ok.inj compiled]
      cases type
      · exact any
      · exact sameHost
      · exact external
    all_goals exact absurd compiled (by simp)
  · intro each
    rw [show compileSources types.any = .ok result.any from each .any,
      show compileSources types.sameHost = .ok result.sameHost from each .sameHost,
      show compileSources types.external = .ok result.external from each .external]

private theorem compileSourceTypes_isOk_iff (holds : TypesHold types claims) :
    (∃ result, compileSourceTypes types = .ok result) ↔
      Free (fun left right => left.1.sourceType = right.1.sourceType ∧ SourcesCollide left right)
        claims := by
  have each (type : SourceType) := compileSources_isOk_iff (holds type)
  constructor
  · rintro ⟨result, compiled⟩ left leftMember right rightMember ⟨same, collide⟩
    have ok := compileSourceTypes_ok_iff.mp compiled left.1.sourceType
    exact (each _).mp ⟨_, ok⟩ left ⟨leftMember, rfl⟩ right ⟨rightMember, same.symm⟩ collide
  · intro free
    have ok (type : SourceType) : ∃ result, compileSources (types.get type) = .ok result := by
      rw [each]
      rintro left ⟨leftMember, leftHas⟩ right ⟨rightMember, rightHas⟩ collide
      exact free left leftMember right rightMember ⟨leftHas.trans rightHas.symm, collide⟩
    obtain ⟨any, anyOk⟩ := ok .any
    obtain ⟨sameHost, sameHostOk⟩ := ok .sameHost
    obtain ⟨external, externalOk⟩ := ok .external
    refine ⟨⟨any, sameHost, external⟩, compileSourceTypes_ok_iff.mpr ?_⟩
    intro type
    cases type
    · exact anyOk
    · exact sameHostOk
    · exact externalOk

private theorem compileSourceTypes_answers (holds : TypesHold types claims) {result : SourceLevel}
    (compiled : compileSourceTypes types = .ok result) (destination : CidrRange) :
    TypesAnswer result (expansion (BecomesUnder destination) claims) := by
  intro type
  rw [expansion_level fun claim : Claim => claim.1.sourceType]
  · exact compileSources_answers (holds type) (compileSourceTypes_ok_iff.mp compiled type) destination
  · intro claim rule becomes
    exact becomes.keeps.2.2.2.2.2

private theorem compileSourceTypes_onlyClaims : OnlyClaims compileSourceTypes := by
  intro types cause failed
  rw [compileSourceTypes_eq] at failed
  split at failed
  · exact absurd failed (by simp)
  all_goals
    rw [← Except.error.inj failed]
    exact compileSources_onlyClaims (by assumption)

end Types

section Compile

variable {claims : Set Claim}

private theorem compileProtocols_isOk_iff {protocols : ProtocolLayout}
    (holds : ProtocolsHold protocols claims) :
    (∃ result, compileTable compileSourceTypes protocols = .ok result) ↔
      Free (fun left right => left.1.protocol = right.1.protocol ∧
        left.1.sourceType = right.1.sourceType ∧ SourcesCollide left right) claims :=
  compileTable_isOk_iff (fun _ _ => compileSourceTypes_isOk_iff) holds

private theorem compileTransports_isOk_iff {transports : TransportLayout}
    (holds : TransportsHold transports claims) :
    (∃ result, compileTable (compileTable compileSourceTypes) transports = .ok result) ↔
      Free (fun left right => left.1.transport = right.1.transport ∧
        left.1.protocol = right.1.protocol ∧ left.1.sourceType = right.1.sourceType ∧
        SourcesCollide left right) claims :=
  compileTable_isOk_iff (fun _ _ => compileProtocols_isOk_iff) holds

private theorem compileNames_isOk_iff {names : NameLayout} (holds : NamesHold names claims) :
    (∃ result, compileTable (compileTable (compileTable compileSourceTypes)) names = .ok result) ↔
      Free (fun left right => left.1.serverName = right.1.serverName ∧
        left.1.transport = right.1.transport ∧ left.1.protocol = right.1.protocol ∧
        left.1.sourceType = right.1.sourceType ∧ SourcesCollide left right) claims :=
  compileTable_isOk_iff (fun _ _ => compileTransports_isOk_iff) holds

private theorem compileDestinations_isOk_iff {destinations : DestinationLayout}
    (holds : DestinationsHold destinations claims) :
    (∃ result, compileDestinations destinations = .ok result) ↔
      Free (fun left right =>
        (left.1.destination = right.1.destination ∧ left.1.serverName = right.1.serverName ∧
          left.1.transport = right.1.transport ∧ left.1.protocol = right.1.protocol ∧
          left.1.sourceType = right.1.sourceType ∧ SourcesCollide left right) ∨
        (left.1.destination ≠ right.1.destination ∧
          Meet left.1.destination right.1.destination)) claims :=
  compileRanges_isOk_iff (fun _ _ => compileNames_isOk_iff) holds

/-- A layout compiles exactly if no two of its claims collide. -/
theorem compile_isOk_iff {layout : Layout} (holds : layout.Holds claims) :
    (∃ result, layout.compile = .ok result) ↔ Free Collide claims := by
  refine Iff.trans (compileTable_isOk_iff (fun _ _ => compileDestinations_isOk_iff) holds) ?_
  apply forall_congr'
  intro left
  apply forall_congr'
  intro _
  apply forall_congr'
  intro right
  apply forall_congr'
  intro _
  rw [Collide, SlotKey.Collides, or_comm]
  rfl

/-- The only error of a compilation is a range that is claimed twice. -/
theorem compile_onlyClaims : OnlyClaims compile := by
  apply compileTable_onlyClaims
  apply compileRanges_onlyClaims
  apply compileTable_onlyClaims
  apply compileTable_onlyClaims
  apply compileTable_onlyClaims
  exact compileSourceTypes_onlyClaims

private theorem compileNames_answers {names : NameLayout} (holds : NamesHold names claims)
    {result : NameLevel}
    (compiled : compileTable (compileTable (compileTable compileSourceTypes)) names = .ok result)
    (destination : CidrRange) :
    NamesAnswer result (expansion (BecomesUnder destination) claims) := by
  have some := exists_becomesUnder destination
  refine compileTable_standsFor (fun _ _ becomes => becomes.keeps.2.2.1) some ?_ holds compiled
  intro transports claims result transportsHold compiled
  refine compileTable_standsFor (fun _ _ becomes => becomes.keeps.2.2.2.1) some ?_ transportsHold
    compiled
  intro protocols claims result protocolsHold compiled
  refine compileTable_standsFor (fun _ _ becomes => becomes.keeps.2.2.2.2.1) some ?_ protocolsHold
    compiled
  intro types claims result typesHold compiled
  exact compileSourceTypes_answers typesHold compiled destination

private theorem compileDestinations_answers {destinations : DestinationLayout}
    (holds : DestinationsHold destinations claims) {result : DestinationLevel}
    (compiled : compileDestinations destinations = .ok result) :
    DestinationsAnswer result (expansion Becomes claims) := by
  refine compileRanges_standsFor ?_ exists_becomesUnder ?_ holds compiled
  · intro destination claim rule becomes
    exact becomes.keeps.2.1
  · intro names claims result namesHold compiled destination
    exact compileNames_answers namesHold compiled destination

/-- What a layout compiles to answers for the slots of its claims. -/
theorem compile_answers {layout : Layout} (holds : layout.Holds claims)
    {result : Table UInt16 DestinationLevel} (compiled : layout.compile = .ok result) :
    PortLevelAnswers result (expansion Becomes claims) := by
  refine compileTable_standsFor ?_ exists_becomes ?_ holds compiled
  · intro claim rule becomes
    obtain ⟨destination, _, under⟩ := becomes
    exact under.keeps.1
  · intro destinations claims result destinationsHold compiled
    exact compileDestinations_answers destinationsHold compiled

end Compile

end Layout

end Admission.Chain
