import Admission.Chain.Criteria
import Admission.Digest.Sha256
import Admission.Text.Utf8

/-!
Contract: the configured description of a filter chain.

Owns:
- descriptors with their JSON form and decoder;
- the fingerprint, a digest of everything but the criteria, which does not depend on the order of
  keys in the configuration;
- the key under which a built chain may be taken over by a later batch.
-/

namespace Admission.Chain

open Admission.Json

/-- A factory by name, with configuration for it. -/
structure FactoryConfig where
  name : String
  config : Value
  deriving Repr

namespace FactoryConfig

def named (name : String) : FactoryConfig := ⟨name, .null⟩

/-- The transport of a chain that configures none. -/
def rawBuffer : FactoryConfig := named "raw_buffer"

def setField (field : String) (factory : FactoryConfig) : Decoder FactoryConfig :=
  fun origin draft =>
    match field with
    | "name" => return { factory with name := ← Decoder.text origin draft }
    | "config" => return { factory with config := ← Decoder.any origin draft }
    | _ => return factory

/-- Reads a factory reference; the name is required. -/
def decoder : Decoder FactoryConfig :=
  Decoder.record
    { label := "struct FactoryConfig"
      fields := ["name", "config"]
      required := ["name"]
      default := named ""
      set := setField }

def toJson (factory : FactoryConfig) : Value :=
  .ofMembers [("name", .string factory.name), ("config", factory.config)]

/-- Equality as data: configurations are compared as JSON values. -/
def same (x y : FactoryConfig) : Bool :=
  x.name == y.name && x.config.same y.config

end FactoryConfig

structure FilterChainDescriptor where
  name : String
  criteria : MatchCriteria
  transportSocket : FactoryConfig
  filters : List FactoryConfig
  /-- Time for the transport to connect, in milliseconds. -/
  transportSocketConnectTimeout : Option Nat
  deriving Repr

namespace FilterChainDescriptor

/-- The description with every field left out. -/
def blank : FilterChainDescriptor := ⟨"", .anything, .rawBuffer, [], none⟩

def setField (field : String) (descriptor : FilterChainDescriptor) : Decoder FilterChainDescriptor :=
  fun origin draft =>
    match field with
    | "name" => return { descriptor with name := ← Decoder.text origin draft }
    | "filter_chain_match" =>
        return { descriptor with criteria := ← MatchCriteria.decoder origin draft }
    | "transport_socket" =>
        return { descriptor with transportSocket := ← FactoryConfig.decoder origin draft }
    | "filters" =>
        return { descriptor with filters := ← FactoryConfig.decoder.list origin draft }
    | "transport_socket_connect_timeout_ms" =>
        return { descriptor with
          transportSocketConnectTimeout := ← Decoder.nat64.optional origin draft }
    | _ => return descriptor

/-- Reads a description; every field may be left out. -/
def decoder : Decoder FilterChainDescriptor :=
  Decoder.record
    { label := "struct FilterChainDescriptor"
      fields := ["name", "filter_chain_match", "transport_socket", "filters",
        "transport_socket_connect_timeout_ms"]
      required := []
      default := blank
      set := setField }

/-- The members of the JSON form that do not belong to the criteria. -/
def contentMembers (descriptor : FilterChainDescriptor) : List (String × Value) := [
  ("name", .string descriptor.name),
  ("transport_socket", descriptor.transportSocket.toJson),
  ("filters", .array (descriptor.filters.map FactoryConfig.toJson)),
  ("transport_socket_connect_timeout_ms",
    .ofOption .ofNat descriptor.transportSocketConnectTimeout)]

/-- The JSON form, with every field. -/
def toJson (descriptor : FilterChainDescriptor) : Value :=
  .ofMembers (("filter_chain_match", descriptor.criteria.toJson) :: descriptor.contentMembers)

/-- Everything but the criteria, as one JSON value. -/
def content (descriptor : FilterChainDescriptor) : Value :=
  .ofMembers descriptor.contentMembers

def fingerprint (descriptor : FilterChainDescriptor) : String :=
  Digest.sha256Hex (Text.encodeUtf8 descriptor.content.chars)

end FilterChainDescriptor

/-- What identifies a chain across batches: criteria and fingerprint. -/
structure ReuseKey where
  criteria : MatchCriteria
  fingerprint : String
  deriving DecidableEq, Repr

def FilterChainDescriptor.reuseKey (descriptor : FilterChainDescriptor) : ReuseKey :=
  ⟨descriptor.criteria, descriptor.fingerprint⟩

end Admission.Chain
