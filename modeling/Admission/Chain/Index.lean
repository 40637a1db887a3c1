import Admission.Table
import Admission.Chain.Slot
import Admission.Listener.Socket

/-!
Contract: one generation of filter chains, compiled for look-up.

The index is a cascade of levels, consulted in this order: destination port, destination range,
server name, transport protocol, application protocol, source type, source range, source port.
At every level the most specific key that is present wins and the look-up commits to it; the
catch-all (port 0, the empty text, the ranges of a whole family) counts only when nothing more
specific is present.

Owns:
- `Layout`, the levels while a batch is inserted, with ranges as keys;
- `MatchIndex`, the compiled levels with a trie for each range level;
- the building of a batch, which takes over unchanged chains of an earlier index, and its first
  fault;
- `MatchIndex.find`.
-/

namespace Admission.Chain

open Admission.Net Admission.Listener

structure BySource (α : Type) where
  any : α
  sameHost : α
  external : α

namespace BySource

def get (values : BySource α) : SourceType → α
  | .any => values.any
  | .sameHost => values.sameHost
  | .external => values.external

def set (values : BySource α) (value : α) : SourceType → BySource α
  | .any => { values with any := value }
  | .sameHost => { values with sameHost := value }
  | .external => { values with external := value }

end BySource

/-! ## Layout -/

abbrev SourcePorts := Table UInt16 FilterChain

abbrev SourceLayout := Table RangeKey SourcePorts

abbrev ProtocolLayout := Table String (BySource SourceLayout)

abbrev TransportLayout := Table String ProtocolLayout

abbrev NameLayout := Table String TransportLayout

abbrev DestinationLayout := Table RangeKey NameLayout

abbrev Layout := Table UInt16 DestinationLayout

namespace Layout

/-- The value of a key, or the empty level. -/
def level [DecidableEq κ] (table : Table κ (Table μ α)) (key : κ) : Table μ α :=
  (table.get? key).getD .empty

/-- Puts a chain into a slot; nothing if the slot is taken. -/
def insert (layout : Layout) (key : SlotKey) (chain : FilterChain) : Option Layout :=
  let destinations := level layout key.port
  let names := level destinations key.destination
  let transports := level names key.serverName
  let protocols := level transports key.transport
  let sourceTypes := (protocols.get? key.protocol).getD ⟨.empty, .empty, .empty⟩
  let sources := sourceTypes.get key.sourceType
  let ports := level sources key.source
  match ports.get? key.sourcePort with
  | some _ => none
  | none =>
      let sources := sources.insert key.source (ports.insert key.sourcePort chain)
      let protocols := protocols.insert key.protocol (sourceTypes.set sources key.sourceType)
      let names := names.insert key.serverName (transports.insert key.transport protocols)
      some (Table.insert layout key.port (destinations.insert key.destination names))

/-- Puts a chain into slots, in order; nothing if one of them is taken. -/
def insertAll (layout : Layout) (chain : FilterChain) : List SlotKey → Option Layout
  | [] => some layout
  | key :: keys => (layout.insert key chain).bind (·.insertAll chain keys)

end Layout

/-! ## Compiled levels -/

/-- Source ports by source range, for each source type that any chain names. -/
abbrev SourceLevel := BySource (Option (AddressMatcher SourcePorts))

abbrev ProtocolLevel := Table String SourceLevel

abbrev TransportLevel := Table String ProtocolLevel

abbrev NameLevel := Table String TransportLevel

abbrev DestinationLevel := AddressMatcher NameLevel

namespace Layout

def compileValues (compile : α → Except RangeError β) :
    List (κ × α) → Except RangeError (List (κ × β))
  | [] => .ok []
  | (key, value) :: rest => do
      let compiled ← compile value
      let others ← compileValues compile rest
      return (key, compiled) :: others

/-- Compiles a dictionary, value by value. -/
def compileTable (compile : α → Except RangeError β) (table : Table κ α) :
    Except RangeError (Table κ β) := do
  return ⟨← compileValues compile table.entries⟩

/-- Compiles a level with ranges as keys into a trie, its values first. -/
def compileRanges (compile : α → Except RangeError β) (table : Table RangeKey α) :
    Except RangeError (AddressMatcher β) := do
  let compiled ← compileValues compile table.entries
  AddressMatcher.ofEntries (compiled.map fun (key, value) => (value, key.ranges))

/-- Compiles the source ranges of one source type, if there are any. -/
def compileSources (sources : SourceLayout) :
    Except RangeError (Option (AddressMatcher SourcePorts)) :=
  if sources.isEmpty then .ok none else (compileRanges .ok sources).map some

def compileSourceTypes (types : BySource SourceLayout) : Except RangeError SourceLevel := do
  let any ← compileSources types.any
  let sameHost ← compileSources types.sameHost
  let external ← compileSources types.external
  return ⟨any, sameHost, external⟩

def compileDestinations (destinations : DestinationLayout) : Except RangeError DestinationLevel :=
  compileRanges (compileTable (compileTable (compileTable compileSourceTypes))) destinations

def compile (layout : Layout) : Except RangeError (Table UInt16 DestinationLevel) :=
  compileTable compileDestinations layout

end Layout

/-- One generation of filter chains. -/
structure MatchIndex where
  generation : GenerationId
  listener : String
  destinations : Table UInt16 DestinationLevel
  /-- The chains of the batch, in its order. -/
  chains : List (ReuseKey × FilterChain)
  /-- How many chains were taken over from an earlier index. -/
  reused : Nat

namespace MatchIndex

def size (index : MatchIndex) : Nat := index.chains.length

def chainIds (index : MatchIndex) : List FilterChainId := index.chains.map (·.2.id)

def chainOf? (index : MatchIndex) (key : ReuseKey) : Option FilterChain :=
  (index.chains.find? (·.1 = key)).map (·.2)

def debug (index : MatchIndex) : String :=
  s!"MatchIndex \x7b generation: GenerationId({index.generation.value}), listener: " ++
    Text.quoted index.listener ++
    s!", filter_chains: {index.size}, reused: {index.reused} \x7d"

end MatchIndex

/-! ## Building -/

/-- How far the building of a batch has come. -/
structure BuildState where
  layout : Layout
  chains : List (ReuseKey × FilterChain)
  reused : Nat
  nextChain : Nat
  /-- The warm-up targets registered so far. -/
  targets : List TargetRequest
  /-- How many chains the builder has made. -/
  built : Nat

namespace BuildState

/-- Before the first description. -/
def start (nextChain : Nat) : BuildState where
  layout := .empty
  chains := []
  reused := 0
  nextChain
  targets := []
  built := 0

/-- Puts the chain of a description into its slots. -/
def place (state : BuildState) (key : ReuseKey) (criteria : NormalCriteria) (chain : FilterChain) :
    BuildState × Option ConfigError :=
  match state.layout.insertAll chain criteria.slotKeys with
  | some layout => ({ state with layout, chains := state.chains ++ [(key, chain)] }, none)
  | none => (state, some .overlappingMatchRule)

/-- Takes in a description: checks it, takes over its chain or has it built, and places it. What
was drawn and registered stays so if a fault is found. -/
def add
    (builder : ChainBuilder)
    (previous : Option MatchIndex)
    (state : BuildState)
    (descriptor : FilterChainDescriptor) : BuildState × Option ConfigError :=
  let key := descriptor.reuseKey
  if state.chains.any (·.1.criteria = key.criteria) then (state, some .duplicateMatchRule)
  else match descriptor.criteria.normalize with
    | .error error => (state, some error)
    | .ok criteria =>
        match previous.bind (·.chainOf? key) with
        | some chain => { state with reused := state.reused + 1 }.place key criteria chain
        | none =>
            let report := builder descriptor
            let state := { state with targets := state.targets ++ report.targets }
            match report.result with
            | .refused error drawn =>
                ({ state with nextChain := state.nextChain + drawn }, some error)
            | .built blueprint =>
                let chain : FilterChain := { blueprint with id := ⟨state.nextChain⟩ }
                { state with nextChain := state.nextChain + 1, built := state.built + 1 }.place
                  key criteria chain

/-- Takes in descriptions, in order, up to the first fault. -/
def addAll
    (builder : ChainBuilder)
    (previous : Option MatchIndex)
    (state : BuildState) : List FilterChainDescriptor → BuildState × Option ConfigError
  | [] => (state, none)
  | descriptor :: rest =>
      match state.add builder previous descriptor with
      | (state, some error) => (state, some error)
      | (state, none) => state.addAll builder previous rest

end BuildState

/-- The building of a batch: how far it came, and the index or the first fault. -/
structure Build where
  state : BuildState
  outcome : Except ConfigError MatchIndex

namespace MatchIndex

/-- Two ranges of different keys that are one range share their slots. -/
def compileError : RangeError → ConfigError
  | .claimedTwice _ => .overlappingMatchRule
  | cause => .invalidRange cause

/-- Compiles a batch of descriptions. Chains whose description is unchanged from `previous` are
taken over without asking the builder. The first fault rejects the whole batch. -/
def build
    (generation : GenerationId)
    (listener : String)
    (descriptors : List FilterChainDescriptor)
    (builder : ChainBuilder)
    (previous : Option MatchIndex)
    (nextChain : Nat) : Build :=
  match (BuildState.start nextChain).addAll builder previous descriptors with
  | (state, some error) => ⟨state, .error error⟩
  | (state, none) =>
      match state.layout.compile with
      | .error cause => ⟨state, .error (compileError cause)⟩
      | .ok destinations =>
          ⟨state, .ok ⟨generation, listener, destinations, state.chains, state.reused⟩⟩

/-! ## Look-up -/

/-- The outcome of a look-up: the chain, and how often the locality of the peer was checked. -/
structure Selection where
  chain : Option FilterChain
  localityChecks : Nat
  deriving DecidableEq, Repr

/-- A look-up that ends without a locality check. -/
def Selection.ofChain (chain : Option FilterChain) : Selection := ⟨chain, 0⟩

/-- The proper suffixes of a name that start with a dot and go on after it, longest first. -/
def wildcardSuffixes (name : List Char) : List (List Char) :=
  match name with
  | [] => []
  | _ :: rest => (suffixes rest).filter fun suffix => suffix.head? = some '.' ∧ 2 ≤ suffix.length
where
  suffixes : List Char → List (List Char)
    | [] => []
    | c :: rest => (c :: rest) :: suffixes rest

def findSource (sources : AddressMatcher SourcePorts) (socket : Socket) : Option FilterChain := do
  let ports ← sources.get? socket.remoteAddress.ipOrPlaceholder
  ports.get? (socket.remoteAddress.port?.getD 0) <|> ports.get? 0

/-- The chain for the peer's whereabouts. Locality is checked only if a chain asks for it. -/
def findSourceType (types : SourceLevel) (socket : Socket) : Selection :=
  let fromAny := types.any.bind (findSource · socket)
  if types.sameHost.isSome || types.external.isSome then
    match if socket.isLocal then types.sameHost else types.external with
    | some sources => ⟨findSource sources socket, 1⟩
    | none => ⟨fromAny, 1⟩
  else .ofChain fromAny

/-- The chain for the first offered protocol that is a key, else for the catch-all. -/
def findProtocol (protocols : ProtocolLevel) (socket : Socket) : Selection :=
  match (socket.applicationProtocols.findSome? protocols.get?).or (protocols.get? "") with
  | some types => findSourceType types socket
  | none => .ofChain none

/-- The chain for the detected transport protocol, else for the catch-all. -/
def findTransport (transports : TransportLevel) (socket : Socket) : Selection :=
  match (transports.get? socket.transportProtocol).or (transports.get? "") with
  | some protocols => findProtocol protocols socket
  | none => .ofChain none

/-- The level of a server name: its own, else that of its longest wildcard, else the catch-all. -/
def nameLevel (names : NameLevel) (name : String) : Option TransportLevel :=
  ((names.get? name).or
    ((wildcardSuffixes name.toList).findSome? fun suffix => names.get? (String.ofList suffix))).or
    (names.get? "")

def findName (names : NameLevel) (socket : Socket) : Selection :=
  match nameLevel names socket.serverName with
  | some transports => findTransport transports socket
  | none => .ofChain none

def findDestination (destinations : DestinationLevel) (socket : Socket) : Selection :=
  match destinations.get? socket.localAddress.ipOrPlaceholder with
  | some names => findName names socket
  | none => .ofChain none

def find (index : MatchIndex) (socket : Socket) : Selection :=
  let exact := socket.localAddress.port?.bind index.destinations.get?
  match exact.or (index.destinations.get? 0) with
  | some destinations => findDestination destinations socket
  | none => .ofChain none

end MatchIndex

end Admission.Chain
