import Admission.Json.Decode

/-!
Contract: the criteria that select a filter chain for a socket, as they are configured.

Equality of criteria is structural and sensitive to order: the same server names in another
order make different criteria.

Owns: the criteria, their JSON form and its decoder. The meaning of the criteria is owned by
`Admission.Chain.Slot` and `Admission.Chain.Index`.
-/

namespace Admission.Chain

open Admission.Json

/-- Where a peer connects from. -/
inductive SourceType where
  | any
  | sameHost
  /-- The peer is not on this host. -/
  | external
  deriving DecidableEq, Repr

namespace SourceType

def name : SourceType → String
  | any => "any"
  | sameHost => "local"
  | external => "external"

/-- Reads a source type. The peer's own host has a second name. -/
def decoder : Decoder SourceType :=
  Decoder.choice "enum ConnectionSourceType"
    [("any", any), ("local", sameHost), ("same_ip_or_loopback", sameHost), ("external", external)]
    ["any", "local", "external"]

end SourceType

/-- The attributes that a socket must have. Empty lists and texts, and port zero, match anything
that nothing more specific matches. -/
structure MatchCriteria where
  destinationPort : UInt16
  /-- Ranges that hold the local address. -/
  prefixRanges : List String
  /-- Reserved; must be empty. -/
  addressSuffix : String
  /-- Reserved; must be unset. -/
  suffixLength : Option Nat
  /-- Names, or `*.` followed by a suffix. -/
  serverNames : List String
  transportProtocol : String
  applicationProtocols : List String
  sourceType : SourceType
  /-- Ranges that hold the peer's address. -/
  sourcePrefixRanges : List String
  sourcePorts : List UInt16
  deriving DecidableEq, Repr

namespace MatchCriteria

def anything : MatchCriteria where
  destinationPort := 0
  prefixRanges := []
  addressSuffix := ""
  suffixLength := none
  serverNames := []
  transportProtocol := ""
  applicationProtocols := []
  sourceType := .any
  sourcePrefixRanges := []
  sourcePorts := []

instance : Inhabited MatchCriteria := ⟨anything⟩

def setField (field : String) (criteria : MatchCriteria) : Decoder MatchCriteria :=
  fun origin draft =>
    match field with
    | "destination_port" =>
        return { criteria with destinationPort := ← Decoder.word16 origin draft }
    | "prefix_ranges" =>
        return { criteria with prefixRanges := ← Decoder.text.list origin draft }
    | "address_suffix" =>
        return { criteria with addressSuffix := ← Decoder.text origin draft }
    | "suffix_len" =>
        return { criteria with suffixLength := ← Decoder.nat32.optional origin draft }
    | "server_names" =>
        return { criteria with serverNames := ← Decoder.text.list origin draft }
    | "transport_protocol" =>
        return { criteria with transportProtocol := ← Decoder.text origin draft }
    | "application_protocols" =>
        return { criteria with applicationProtocols := ← Decoder.text.list origin draft }
    | "source_type" =>
        return { criteria with sourceType := ← SourceType.decoder origin draft }
    | "source_prefix_ranges" =>
        return { criteria with sourcePrefixRanges := ← Decoder.text.list origin draft }
    | "source_ports" =>
        return { criteria with sourcePorts := ← Decoder.word16.list origin draft }
    | _ => return criteria

/-- Reads criteria; every field may be left out. -/
def decoder : Decoder MatchCriteria :=
  Decoder.record
    { label := "struct MatchCriteria"
      fields := ["destination_port", "prefix_ranges", "address_suffix", "suffix_len",
        "server_names", "transport_protocol", "application_protocols", "source_type",
        "source_prefix_ranges", "source_ports"]
      required := []
      default := anything
      set := setField }

/-- The JSON form, with every field. -/
def toJson (criteria : MatchCriteria) : Value :=
  .ofMembers [
    ("destination_port", .ofNat criteria.destinationPort.toNat),
    ("prefix_ranges", .ofStrings criteria.prefixRanges),
    ("address_suffix", .string criteria.addressSuffix),
    ("suffix_len", .ofOption .ofNat criteria.suffixLength),
    ("server_names", .ofStrings criteria.serverNames),
    ("transport_protocol", .string criteria.transportProtocol),
    ("application_protocols", .ofStrings criteria.applicationProtocols),
    ("source_type", .string criteria.sourceType.name),
    ("source_prefix_ranges", .ofStrings criteria.sourcePrefixRanges),
    ("source_ports", .array (criteria.sourcePorts.map fun port => .ofNat port.toNat))]

end MatchCriteria

end Admission.Chain
