import Admission.Chain.Index
import Admission.Proofs.Table

/-!
Contract: the levels of an index do not look at the chains in them.

Owns: `relabel` for a range table, for the levels of a layout and for an index, which puts another
chain in the place of each, and its exchange with the insertion of slots, with compilation and with
look-up.
-/

namespace Admission.Net.AddressMatcher

variable {α β : Type}

/-- The same ranges with other values. -/
def map (change : α → β) (matcher : AddressMatcher α) : AddressMatcher β :=
  { matcher with values := matcher.values.map change }

variable (change : α → β)

private theorem claimAll_map (matcher : AddressMatcher α) (owner : Nat) (ranges : List CidrRange) :
    (matcher.map change).claimAll owner ranges =
      (matcher.claimAll owner ranges).map (map change) := by
  induction ranges generalizing matcher with
  | nil => rfl
  | cons range ranges inductionHypothesis =>
      unfold claimAll
      have v4 : (matcher.map change).v4 = matcher.v4 := rfl
      have v6 : (matcher.map change).v6 = matcher.v6 := rfl
      rw [v4, v6]
      generalize (if range.isV4 then matcher.v4 else matcher.v6).insert range.networkBits owner =
        claimed
      obtain ⟨trie, claim⟩ := claimed
      cases claim with
      | takenBy other => rfl
      | granted =>
          dsimp only
          rw [← inductionHypothesis]
          split
          · rfl
          · rfl

private theorem add_map (matcher : AddressMatcher α) (value : α) (ranges : List CidrRange) :
    (matcher.map change).add (change value) ranges =
      (matcher.add value ranges).map (map change) := by
  unfold add
  rw [← claimAll_map]
  unfold map
  dsimp only
  rw [Array.map_push, Array.size_map]

private theorem addAll_map (matcher : AddressMatcher α) (entries : List (α × List CidrRange)) :
    (matcher.map change).addAll (entries.map (Prod.map change id)) =
      (matcher.addAll entries).map (map change) := by
  induction entries generalizing matcher with
  | nil => rfl
  | cons entry entries inductionHypothesis =>
      obtain ⟨value, ranges⟩ := entry
      rw [List.map_cons, Prod.map_apply, id]
      unfold addAll
      rw [add_map]
      cases matcher.add value ranges with
      | error cause => rfl
      | ok added => exact inductionHypothesis added

private theorem ofEntries_map (entries : List (α × List CidrRange)) :
    ofEntries (entries.map (Prod.map change id)) = (ofEntries entries).map (map change) := by
  have none : (empty : AddressMatcher α).map change = empty := by
    unfold map empty
    rw [List.map_toArray, List.map_nil]
  unfold ofEntries
  rw [← none, addAll_map]

@[simp]
theorem get?_map (matcher : AddressMatcher α) (address : IpAddress) :
    (matcher.map change).get? address = (matcher.get? address).map change := by
  unfold get? map
  dsimp only
  generalize (if address.isV4 then matcher.v4 else matcher.v6).longestMatch address.bits = owner
  cases owner with
  | none => rfl
  | some owner =>
      rw [Option.bind_some, Option.bind_some, Array.getElem?_map]

end Admission.Net.AddressMatcher

namespace Admission.Chain

open Admission.Net Admission.Listener

namespace BySource

variable {α β : Type}

def map (change : α → β) (values : BySource α) : BySource β :=
  ⟨change values.any, change values.sameHost, change values.external⟩

@[simp]
theorem get_map (change : α → β) (values : BySource α) (source : SourceType) :
    (values.map change).get source = change (values.get source) := by
  cases source with
  | any => rfl
  | sameHost => rfl
  | external => rfl

private theorem set_map (change : α → β) (values : BySource α) (value : α) (source : SourceType) :
    (values.map change).set (change value) source = (values.set value source).map change := by
  cases source with
  | any => rfl
  | sameHost => rfl
  | external => rfl

end BySource

/-! ## Layouts -/

namespace Layout

variable (change : FilterChain → FilterChain)

def relabelSources : SourceLayout → SourceLayout := Table.map (Table.map change)

def relabelProtocols : ProtocolLayout → ProtocolLayout :=
  Table.map (BySource.map (relabelSources change))

def relabelNames : NameLayout → NameLayout := Table.map (Table.map (relabelProtocols change))

/-- Another chain in the place of each. -/
def relabel : Layout → Layout := Table.map (Table.map (relabelNames change))

private theorem level_map {κ μ α β : Type} [DecidableEq κ] (change : α → β)
    (table : Table κ (Table μ α)) (key : κ) : level (table.map (Table.map change)) key =
    (level table key).map change := by
  unfold level
  rw [Table.get?_map]
  cases table.get? key with
  | none => rfl
  | some level => rfl

private theorem insert_relabel (layout : Layout) (key : SlotKey) (chain : FilterChain) :
    (relabel change layout).insert key (change chain) =
      (layout.insert key chain).map (relabel change) := by
  unfold insert
  dsimp only
  have first : level (relabel change layout) key.port =
      (level layout key.port).map (relabelNames change) := level_map _ layout key.port
  rw [first]
  generalize level layout key.port = destinations
  have second : level (destinations.map (relabelNames change)) key.destination =
      (level destinations key.destination).map (Table.map (relabelProtocols change)) :=
    level_map _ destinations key.destination
  rw [second]
  generalize level destinations key.destination = names
  rw [level_map]
  generalize level names key.serverName = transports
  have fourth : level (transports.map (relabelProtocols change)) key.transport =
      (level transports key.transport).map (BySource.map (relabelSources change)) :=
    level_map _ transports key.transport
  rw [fourth]
  generalize level transports key.transport = protocols
  have fifth : ((protocols.map (BySource.map (relabelSources change))).get? key.protocol).getD
      ⟨.empty, .empty, .empty⟩ =
        ((protocols.get? key.protocol).getD ⟨.empty, .empty, .empty⟩).map
          (relabelSources change) := by
    rw [Table.get?_map]
    cases protocols.get? key.protocol with
    | none => rfl
    | some types => rfl
  rw [fifth]
  generalize (protocols.get? key.protocol).getD ⟨.empty, .empty, .empty⟩ = types
  rw [BySource.get_map]
  have seventh : level (relabelSources change (types.get key.sourceType)) key.source =
      (level (types.get key.sourceType) key.source).map change :=
    level_map _ (types.get key.sourceType) key.source
  rw [seventh, Table.get?_map]
  generalize level (types.get key.sourceType) key.source = ports
  cases ports.get? key.sourcePort with
  | some taken => rfl
  | none =>
      dsimp only [Option.map_none, Option.map_some]
      unfold relabelSources relabel relabelNames relabelProtocols
      rw [Table.insert_map, Table.insert_map]
      unfold relabelSources
      rw [BySource.set_map, Table.insert_map, Table.insert_map, Table.insert_map, Table.insert_map,
        Table.insert_map]

theorem insertAll_relabel (layout : Layout) (chain : FilterChain) (keys : List SlotKey) :
    (relabel change layout).insertAll (change chain) keys =
      (layout.insertAll chain keys).map (relabel change) := by
  induction keys generalizing layout with
  | nil => rfl
  | cons key keys inductionHypothesis =>
      unfold insertAll
      rw [insert_relabel]
      cases layout.insert key chain with
      | none => rfl
      | some layout => exact inductionHypothesis layout

end Layout

/-! ## Compiled levels -/

namespace Layout

section Compile

variable {κ α β α' β' : Type} {onSource : α → α'} {onTarget : β → β'}
  {compileLeft : α' → Except RangeError β'} {compileRight : α → Except RangeError β}
  (exchanges : ∀ value, compileLeft (onSource value) = (compileRight value).map onTarget)

include exchanges

private theorem compileValues_map (entries : List (κ × α)) :
    compileValues compileLeft (entries.map (Prod.map id onSource)) =
      (compileValues compileRight entries).map (List.map (Prod.map id onTarget)) := by
  induction entries with
  | nil => rfl
  | cons entry entries inductionHypothesis =>
      obtain ⟨key, value⟩ := entry
      rw [List.map_cons, Prod.map_apply]
      unfold compileValues
      rw [exchanges, inductionHypothesis]
      cases compileRight value with
      | error cause => rfl
      | ok compiled =>
          cases compileValues compileRight entries with
          | error cause => rfl
          | ok others => rfl

private theorem compileTable_map (table : Table κ α) :
    compileTable compileLeft (table.map onSource) =
      (compileTable compileRight table).map (Table.map onTarget) := by
  unfold compileTable
  have entries := compileValues_map exchanges table.entries
  have same : (table.map onSource).entries = table.entries.map (Prod.map id onSource) := rfl
  rw [same, entries]
  cases compileValues compileRight table.entries with
  | error cause => rfl
  | ok compiled => rfl

private theorem compileRanges_map (table : Table RangeKey α) :
    compileRanges compileLeft (table.map onSource) =
      (compileRanges compileRight table).map (AddressMatcher.map onTarget) := by
  unfold compileRanges
  have entries := compileValues_map exchanges table.entries
  have same : (table.map onSource).entries = table.entries.map (Prod.map id onSource) := rfl
  rw [same, entries]
  cases compileValues compileRight table.entries with
  | error cause => rfl
  | ok compiled =>
      have ranges : (compiled.map (Prod.map id onTarget)).map
            (fun entry => (entry.2, entry.1.ranges)) =
          (compiled.map fun entry => (entry.2, entry.1.ranges)).map (Prod.map onTarget id) := by
        rw [List.map_map, List.map_map]
        rfl
      have added := AddressMatcher.ofEntries_map onTarget
        (compiled.map fun entry => (entry.2, entry.1.ranges))
      rw [← ranges] at added
      exact added

end Compile

variable (change : FilterChain → FilterChain)

def relabelSourceTypes : SourceLevel → SourceLevel :=
  BySource.map (Option.map (AddressMatcher.map (Table.map change)))

def relabelProtocolLevel : ProtocolLevel → ProtocolLevel := Table.map (relabelSourceTypes change)

def relabelTransportLevel : TransportLevel → TransportLevel :=
  Table.map (relabelProtocolLevel change)

def relabelNameLevel : NameLevel → NameLevel := Table.map (relabelTransportLevel change)

def relabelDestinationLevel : DestinationLevel → DestinationLevel :=
  AddressMatcher.map (relabelNameLevel change)

private theorem compileSources_relabel (sources : SourceLayout) :
    compileSources (relabelSources change sources) =
      (compileSources sources).map (Option.map (AddressMatcher.map (Table.map change))) := by
  have ranges : compileRanges .ok (relabelSources change sources) =
      (compileRanges .ok sources).map (AddressMatcher.map (Table.map change)) := by
    unfold relabelSources
    apply compileRanges_map
    intro ports
    rfl
  have isEmpty : (relabelSources change sources).isEmpty = sources.isEmpty :=
    Table.isEmpty_map _ sources
  unfold compileSources
  rw [ranges, isEmpty]
  split
  · rfl
  · cases compileRanges .ok sources with
    | error cause => rfl
    | ok compiled => rfl

private theorem compileSourceTypes_relabel (types : BySource SourceLayout) :
    compileSourceTypes (types.map (relabelSources change)) =
      (compileSourceTypes types).map (relabelSourceTypes change) := by
  unfold compileSourceTypes BySource.map
  dsimp only
  rw [compileSources_relabel, compileSources_relabel, compileSources_relabel]
  cases compileSources types.any with
  | error cause => rfl
  | ok any =>
      cases compileSources types.sameHost with
      | error cause => rfl
      | ok sameHost =>
          cases compileSources types.external with
          | error cause => rfl
          | ok external => rfl

theorem compile_relabel (layout : Layout) :
    (relabel change layout).compile =
      layout.compile.map (Table.map (relabelDestinationLevel change)) := by
  apply compileTable_map
  intro destinations
  apply compileRanges_map
  intro names
  apply compileTable_map
  intro transports
  apply compileTable_map
  intro protocols
  apply compileTable_map
  exact compileSourceTypes_relabel change

end Layout

namespace MatchIndex

variable (change : FilterChain → FilterChain)

/-- The index with another chain in the place of each. -/
def relabel (index : MatchIndex) : MatchIndex :=
  { index with
    destinations := index.destinations.map (Layout.relabelDestinationLevel change)
    chains := index.chains.map (Prod.map id change) }

/-- A selection with another chain. -/
def Selection.relabel (selection : Selection) : Selection :=
  { selection with chain := selection.chain.map change }

private theorem findSource_relabel (sources : AddressMatcher SourcePorts) (socket : Socket) :
    findSource (sources.map (Table.map change)) socket = (findSource sources socket).map change := by
  unfold findSource
  rw [AddressMatcher.get?_map]
  cases sources.get? socket.remoteAddress.ipOrPlaceholder with
  | none => rfl
  | some ports =>
      show ((ports.map change).get? _ <|> (ports.map change).get? 0) =
        (ports.get? _ <|> ports.get? 0).map change
      rw [Table.get?_map, Table.get?_map]
      cases ports.get? (socket.remoteAddress.port?.getD 0) with
      | none => rfl
      | some chain => rfl

private theorem findSourceType_relabel (types : SourceLevel) (socket : Socket) :
    findSourceType (Layout.relabelSourceTypes change types) socket =
      (findSourceType types socket).relabel change := by
  have find : ∀ sources : Option (AddressMatcher SourcePorts),
      (sources.map (AddressMatcher.map (Table.map change))).bind (findSource · socket) =
        (sources.bind (findSource · socket)).map change := by
    intro sources
    cases sources with
    | none => rfl
    | some sources => exact findSource_relabel change sources socket
  obtain ⟨any, sameHost, external⟩ := types
  unfold findSourceType Layout.relabelSourceTypes BySource.map
  dsimp only
  rw [find, Option.isSome_map, Option.isSome_map]
  split
  · have chosen : (if socket.isLocal then sameHost.map (AddressMatcher.map (Table.map change))
          else external.map (AddressMatcher.map (Table.map change))) =
        (if socket.isLocal then sameHost else external).map
          (AddressMatcher.map (Table.map change)) := by
      split
      · rfl
      · rfl
    rw [chosen]
    cases if socket.isLocal then sameHost else external with
    | none => rfl
    | some sources =>
        dsimp only [Option.map_some]
        rw [findSource_relabel]
        rfl
  · rfl

private theorem findProtocol_relabel (protocols : ProtocolLevel) (socket : Socket) :
    findProtocol (Layout.relabelProtocolLevel change protocols) socket =
      (findProtocol protocols socket).relabel change := by
  have get : (Layout.relabelProtocolLevel change protocols).get? =
      Option.map (Layout.relabelSourceTypes change) ∘ protocols.get? :=
    funext (Table.get?_map _ protocols)
  unfold findProtocol
  rw [get, ← List.map_findSome?, Function.comp_apply, ← Option.map_or]
  cases (socket.applicationProtocols.findSome? protocols.get?).or (protocols.get? "") with
  | none => rfl
  | some types => exact findSourceType_relabel change types socket

private theorem findTransport_relabel (transports : TransportLevel) (socket : Socket) :
    findTransport (Layout.relabelTransportLevel change transports) socket =
      (findTransport transports socket).relabel change := by
  unfold findTransport Layout.relabelTransportLevel
  rw [Table.get?_map, Table.get?_map, ← Option.map_or]
  cases (transports.get? socket.transportProtocol).or (transports.get? "") with
  | none => rfl
  | some protocols => exact findProtocol_relabel change protocols socket

private theorem findName_relabel (names : NameLevel) (socket : Socket) :
    findName (Layout.relabelNameLevel change names) socket =
      (findName names socket).relabel change := by
  have level : nameLevel (Layout.relabelNameLevel change names) socket.serverName =
      (nameLevel names socket.serverName).map (Layout.relabelTransportLevel change) := by
    have get : (Layout.relabelNameLevel change names).get? =
        Option.map (Layout.relabelTransportLevel change) ∘ names.get? :=
      funext (Table.get?_map _ names)
    unfold nameLevel
    rw [get, Function.comp_apply, Function.comp_apply, Option.map_or, Option.map_or,
      List.map_findSome?]
    rfl
  unfold findName
  rw [level]
  cases nameLevel names socket.serverName with
  | none => rfl
  | some transports => exact findTransport_relabel change transports socket

private theorem findDestination_relabel (destinations : DestinationLevel) (socket : Socket) :
    findDestination (Layout.relabelDestinationLevel change destinations) socket =
      (findDestination destinations socket).relabel change := by
  unfold findDestination Layout.relabelDestinationLevel
  rw [AddressMatcher.get?_map]
  cases destinations.get? socket.localAddress.ipOrPlaceholder with
  | none => rfl
  | some names => exact findName_relabel change names socket

/-- A look-up finds what stands in the place of the chain. -/
theorem find_relabel (index : MatchIndex) (socket : Socket) :
    (index.relabel change).find socket = (index.find socket).relabel change := by
  have get : ∀ port, (index.relabel change).destinations.get? port =
      (index.destinations.get? port).map (Layout.relabelDestinationLevel change) :=
    Table.get?_map _ index.destinations
  have exact : socket.localAddress.port?.bind (index.relabel change).destinations.get? =
      (socket.localAddress.port?.bind index.destinations.get?).map
        (Layout.relabelDestinationLevel change) := by
    cases socket.localAddress.port? with
    | none => rfl
    | some port => exact get port
  unfold find
  dsimp only
  rw [exact, get, ← Option.map_or]
  cases (socket.localAddress.port?.bind index.destinations.get?).or
      (index.destinations.get? 0) with
  | none => rfl
  | some destinations => exact findDestination_relabel change destinations socket

end MatchIndex

end Admission.Chain
