import Admission.Chain.Builtin
import Admission.Listener.Config
import Admission.Tls.Inspector

/-!
Contract: the listener file, a JSON description of one listener with its filter chains.

Owns:
- the decoder and the defaults of the file;
- the settings of the listener that the file describes, and the listener filters known by name;
- the digest that tells whether a file has changed;
- the faults of loading a file, apart for reading its bytes and for what they spell.
-/

namespace Admission.Config

open Admission.Net Admission.Json Admission.Chain Admission.Listener

structure ListenerFile where
  name : String
  address : SocketAddress
  listenerFilters : List FactoryConfig
  /-- In milliseconds; zero is without limit. -/
  filterTimeout : Nat
  continueOnTimeout : Bool
  bufferLimit : Nat
  filterChains : List FilterChainDescriptor
  deriving Repr

/-- Why a listener file could not be loaded. -/
inductive LoadError where
  /-- There is no such file. -/
  | absent
  | notUtf8
  | undecodable (problem : DecodeError)
  deriving DecidableEq, Repr

namespace LoadError

/-- What was being done to the file at a path when the fault came up. -/
def context (path : String) : LoadError → String
  | undecodable _ => s!"Failed to parse listener file {path}"
  | _ => s!"Failed to read listener file {path}"

/-- The fault itself. -/
def message : LoadError → String
  | absent => "No such file or directory (os error 2)"
  | notUtf8 => "stream did not contain valid UTF-8"
  | undecodable problem => problem.message

end LoadError

/-- Reads the optional size limit of the inspector's configuration. -/
def inspectorLimitDecoder : Decoder (Option Nat) :=
  Decoder.record
    { label := "struct TlsInspectorConfig"
      fields := ["max_client_hello_bytes"]
      required := []
      default := none
      set := fun field limit origin draft =>
        if field = "max_client_hello_bytes" then Decoder.size.optional origin draft else .ok limit }

def listenerFilter (memory : σ) (factory : FactoryConfig) :
    Except ConfigError (ListenerFilter σ) :=
  if factory.name = Tls.inspectorName then
    match factory.config with
    | .null => .ok (Tls.inspector Tls.defaultInspectorLimit memory)
    | config =>
        match inspectorLimitDecoder.ofValue config with
        | .ok limit => .ok (Tls.inspector (limit.getD Tls.defaultInspectorLimit) memory)
        | .error _ => .error (.unknownFactory .listenerFilterConfig factory.name)
  else .error (.unknownFactory .listenerFilter factory.name)

namespace ListenerFile

/-- The file with every field left out; name and address are no valid ones. -/
def blank : ListenerFile :=
  ⟨"", .v4 0#32 0, [], defaultFilterTimeout, false, defaultBufferLimit, []⟩

def setField (field : String) (file : ListenerFile) : Decoder ListenerFile :=
  fun origin draft =>
    match field with
    | "name" => return { file with name := ← Decoder.text origin draft }
    | "address" => return { file with address := ← Builtin.socketAddress origin draft }
    | "listener_filters" =>
        return { file with listenerFilters := ← FactoryConfig.decoder.list origin draft }
    | "listener_filters_timeout_ms" =>
        return { file with filterTimeout := ← Decoder.nat64 origin draft }
    | "continue_on_listener_filters_timeout" =>
        return { file with continueOnTimeout := ← Decoder.bool origin draft }
    | "per_connection_buffer_limit_bytes" =>
        return { file with bufferLimit := ← Decoder.nat32 origin draft }
    | "filter_chains" =>
        return { file with filterChains := ← FilterChainDescriptor.decoder.list origin draft }
    | _ => return file

/-- Reads a listener file; name and address are required. -/
def decoder : Decoder ListenerFile :=
  Decoder.record
    { label := "struct ListenerFile"
      fields := ["name", "address", "listener_filters", "listener_filters_timeout_ms",
        "continue_on_listener_filters_timeout", "per_connection_buffer_limit_bytes",
        "filter_chains"]
      required := ["name", "address"]
      default := blank
      set := setField }

def parse (text : String) : Except DecodeError ListenerFile :=
  decoder.ofText text

/-- The file that bytes spell; without bytes there is no file. -/
def load : Option (List UInt8) → Except LoadError ListenerFile
  | none => .error .absent
  | some bytes =>
      match Text.decodeUtf8? bytes with
      | none => .error .notUtf8
      | some text =>
          match parse (String.ofList text) with
          | .ok file => .ok file
          | .error problem => .error (.undecodable problem)

/-- The digest of the bytes of a file. -/
def digest (contents : List UInt8) : String :=
  Digest.sha256Hex contents

/-- The settings of the described listener, or the first listener filter that cannot be made. Each
filter starts with the given memory. -/
def listenerConfig (file : ListenerFile) (memory : σ) :
    Except ConfigError (ListenerConfig σ) := do
  let filters ← file.listenerFilters.mapM (listenerFilter memory)
  return {
    name := file.name
    address := .ip file.address
    filterTimeout := file.filterTimeout
    continueOnTimeout := file.continueOnTimeout
    bufferLimit := file.bufferLimit
    filters }

/-- Whether two lists of listener filters are equal as data. -/
def sameFilters : List FactoryConfig → List FactoryConfig → Bool
  | [], [] => true
  | x :: xs, y :: ys => x.same y && sameFilters xs ys
  | _, _ => false

/-- Whether files differ in what only a restart can change: the name, the address and the listener
filters. -/
def needsRestart (running changed : ListenerFile) : Bool :=
  changed.name != running.name || changed.address != running.address ||
    !sameFilters changed.listenerFilters running.listenerFilters

end ListenerFile

end Admission.Config
