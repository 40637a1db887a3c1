import Admission.Chain.FilterChain

/-!
Contract: the transports and network filters that a standalone listener has, and the builder that
knows them by name.

Owns: the names, the configuration of the proxy, and the order in which the faults of a
description are found: the transport, the filters from first to last, then a connect timeout,
which the plain transport cannot keep.
-/

namespace Admission.Chain.Builtin

open Admission.Net Admission.Json

/-- The name of the plain transport. -/
def rawBuffer : String := "raw_buffer"

/-- The name of the filter that writes every byte back. -/
def echo : String := "echo"

def tcpProxy : String := "tcp_proxy"

/-- How long connecting to a backend may take if nothing is configured, in milliseconds. -/
def defaultConnectTimeout : Nat := 2000

def socketAddress : Decoder SocketAddress :=
  Decoder.parsed "socket address" fun text =>
    match SocketAddress.parse? text with
    | some address => .ok address
    | none => .error "invalid socket address syntax"

def setProxyField (field : String) (proxy : TcpProxy) : Decoder TcpProxy :=
  fun origin draft =>
    match field with
    | "upstream" => return { proxy with backend := ← socketAddress origin draft }
    | "connect_timeout_ms" =>
        return { proxy with
          connectTimeout := (← Decoder.nat64.optional origin draft).getD defaultConnectTimeout }
    | "idle_timeout_ms" =>
        return { proxy with idleTimeout := ← Decoder.nat64.optional origin draft }
    | _ => return proxy

/-- Reads a proxy's configuration; the address of the backend is required. -/
def proxyDecoder : Decoder TcpProxy :=
  Decoder.record
    { label := "struct TcpProxyConfig"
      fields := ["upstream", "connect_timeout_ms", "idle_timeout_ms"]
      required := ["upstream"]
      default := ⟨.v4 0#32 0, defaultConnectTimeout, none⟩
      set := setProxyField }

def transport (config : FactoryConfig) : Except ConfigError Transport :=
  if config.name = rawBuffer then .ok ⟨rawBuffer, rawBuffer, false⟩
  else .error (.unknownFactory .transportSocket config.name)

/-- The network filter factory of a name, for a chain. -/
def networkFilter (chain : String) (config : FactoryConfig) :
    Except ConfigError NetworkFilterFactory :=
  if config.name = echo then .ok ⟨echo, .install ⟨echo, .echo⟩⟩
  else if config.name = tcpProxy then
    match proxyDecoder.ofValue config.config with
    | .ok proxy => .ok ⟨tcpProxy, .install ⟨tcpProxy, .proxy proxy⟩⟩
    | .error problem =>
        .error (.chainBuild chain s!"invalid tcp_proxy config: {problem.message}")
  else .error (.unknownFactory .networkFilter config.name)

def parts (descriptor : FilterChainDescriptor) :
    Except ConfigError (Transport × List NetworkFilterFactory) := do
  let transport ← transport descriptor.transportSocket
  let filters ← descriptor.filters.mapM (networkFilter descriptor.name)
  return (transport, filters)

/-- The builder of a standalone listener. It registers no warm-up targets. -/
def builder : ChainBuilder := fun descriptor =>
  { targets := []
    result :=
      match parts descriptor, descriptor.transportSocketConnectTimeout with
      | .error error, _ => .refused error 0
      | .ok (transport, filters), none => .built ⟨descriptor.name, transport, filters, none⟩
      | .ok _, some _ =>
          let reason :=
            s!"transport_socket_connect_timeout_ms is not supported by the {rawBuffer} " ++
              "transport socket"
          .refused (.chainBuild descriptor.name reason) 1 }

end Admission.Chain.Builtin
