import Admission.Net.AddressMatcher
import Admission.Chain.FilterChain

/-!
Contract: the meaning of match criteria as a flat list of slots.

A slot is one combination of the values that criteria list, with a catch-all wherever they list
none. Two chains may not claim the same slot.

Owns: the validation of criteria, their normal form, and their expansion into slot keys. A slot
key still has the mark `everywhere` for an empty list of ranges; `Slot` has actual ranges.
-/

namespace Admission.Chain

open Admission.Net

inductive RangeKey where
  /-- No range was listed: both families as a whole. -/
  | everywhere
  | range (range : CidrRange)
  deriving DecidableEq

def RangeKey.ranges : RangeKey → List CidrRange
  | .everywhere => [.allV4, .allV6]
  | .range r => [r]

/-- Criteria after validation, every list non-empty. -/
structure NormalCriteria where
  destinationPort : UInt16
  destinations : List RangeKey
  serverNames : List String
  transportProtocol : String
  applicationProtocols : List String
  sourceType : SourceType
  sources : List RangeKey
  sourcePorts : List UInt16

/-- One combination of values: a path through the levels of an index. -/
@[ext]
structure SlotKey where
  port : UInt16
  destination : RangeKey
  serverName : String
  transport : String
  protocol : String
  sourceType : SourceType
  source : RangeKey
  sourcePort : UInt16
  deriving DecidableEq

/-- One combination of values with actual ranges. -/
@[ext]
structure Slot where
  port : UInt16
  destination : CidrRange
  serverName : String
  transport : String
  protocol : String
  sourceType : SourceType
  source : CidrRange
  sourcePort : UInt16
  deriving DecidableEq

def SlotKey.slots (key : SlotKey) : List Slot :=
  key.destination.ranges.flatMap fun destination =>
    key.source.ranges.map fun source =>
      ⟨key.port, destination, key.serverName, key.transport, key.protocol, key.sourceType, source,
        key.sourcePort⟩

namespace MatchCriteria

/-- A list, or a catch-all alone if it is empty. -/
def orCatchAll (catchAll : α) : List α → List α
  | [] => [catchAll]
  | values => values

def rangeKeys (ranges : List String) : Except ConfigError (List RangeKey) := do
  let parsed ← ranges.mapM fun range =>
    match CidrRange.parse range with
    | .ok range => .ok (.range range)
    | .error cause => .error (.invalidRange cause)
  return orCatchAll .everywhere parsed

/-- The key of a server name: a leading `*.` loses its star. -/
def nameKey (name : String) : Except ConfigError String :=
  match name.toList with
  | '*' :: '.' :: suffix => .ok (String.ofList ('.' :: suffix))
  | letters => if '*' ∈ letters then .error (.unsupportedWildcard name) else .ok name

/-- Validates criteria. Reserved fields come first, then the ranges of destination and source, then
the server names. -/
def normalize (criteria : MatchCriteria) : Except ConfigError NormalCriteria := do
  if criteria.addressSuffix ≠ "" then throw (.unimplementedField "address_suffix")
  if criteria.suffixLength.isSome then throw (.unimplementedField "suffix_len")
  let destinations ← rangeKeys criteria.prefixRanges
  let sources ← rangeKeys criteria.sourcePrefixRanges
  let serverNames ← criteria.serverNames.mapM nameKey
  return {
    destinationPort := criteria.destinationPort
    destinations
    serverNames := orCatchAll "" serverNames
    transportProtocol := criteria.transportProtocol
    applicationProtocols := orCatchAll "" criteria.applicationProtocols
    sourceType := criteria.sourceType
    sources
    sourcePorts := orCatchAll 0 criteria.sourcePorts }

end MatchCriteria

/-- All combinations of values, in the order of the lists. -/
def NormalCriteria.slotKeys (criteria : NormalCriteria) : List SlotKey :=
  criteria.destinations.flatMap fun destination =>
    criteria.serverNames.flatMap fun serverName =>
      criteria.applicationProtocols.flatMap fun protocol =>
        criteria.sources.flatMap fun source =>
          criteria.sourcePorts.map fun sourcePort =>
            ⟨criteria.destinationPort, destination, serverName, criteria.transportProtocol,
              protocol, criteria.sourceType, source, sourcePort⟩

/-- All slots, in the order of the lists. -/
def NormalCriteria.slots (criteria : NormalCriteria) : List Slot :=
  criteria.slotKeys.flatMap SlotKey.slots

end Admission.Chain
