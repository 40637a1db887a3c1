import Admission.Net.SocketAddress
import Admission.Chain.Descriptor
import Admission.Chain.Error
import Admission.Text.Quoted

/-!
Contract: built filter chains and the builders that make them from descriptions.

Owns:
- the identities of chains and generations;
- transports and network filters, as far as they matter to a connection, and what the factories of
  filters do with a new connection;
- `ChainBuilder`: what a builder answers for a description, namely the warm-up targets it
  registers and either a blueprint or a refusal. A chain is a blueprint with an identity of its
  own, so two chains are never confused.
-/

namespace Admission.Chain

open Admission.Net

structure FilterChainId where
  value : Nat
  deriving DecidableEq, Repr

def FilterChainId.text (id : FilterChainId) : String := s!"fc-{id.value}"

/-- The identity of one generation of a listener's filter chains. -/
structure GenerationId where
  value : Nat
  deriving DecidableEq, Repr

/-- A proxy to a fixed backend. Times are in milliseconds. -/
structure TcpProxy where
  backend : SocketAddress
  connectTimeout : Nat
  idleTimeout : Option Nat
  deriving DecidableEq, Repr

/-- What a network filter does with the byte streams of its connection. -/
inductive FilterRole where
  /-- Nothing. -/
  | passive
  /-- Writes every byte back. -/
  | echo
  /-- Relays to a backend. -/
  | proxy (settings : TcpProxy)
  deriving DecidableEq, Repr

structure NetworkFilter where
  name : String
  role : FilterRole
  deriving DecidableEq, Repr

/-- How a connection is closed. -/
inductive CloseType where
  | flushWrite
  /-- At once; pending data is dropped. -/
  | noFlush
  deriving DecidableEq, Repr

inductive FactoryAction where
  | install (filter : NetworkFilter)
  | nothing
  | closeWith (kind : CloseType)
  deriving DecidableEq, Repr

/-- Closes a connection at once. -/
def FactoryAction.close : FactoryAction := .closeWith .noFlush

/-- Puts network filters on new connections. -/
structure NetworkFilterFactory where
  name : String
  action : FactoryAction
  deriving DecidableEq, Repr

/-- The transport under a connection. -/
structure Transport where
  name : String
  protocol : String
  secure : Bool
  deriving DecidableEq, Repr

/-- A filter chain without identity. Times are in milliseconds. -/
structure Blueprint where
  name : String
  transport : Transport
  filters : List NetworkFilterFactory
  connectTimeout : Option Nat
  deriving DecidableEq, Repr

structure FilterChain extends Blueprint where
  id : FilterChainId
  deriving DecidableEq, Repr

namespace FilterChain

def debug (chain : FilterChain) : String :=
  let filters := String.intercalate ", " (chain.filters.map fun f => Text.quoted f.name)
  s!"FilterChain \x7b id: FilterChainId({chain.id.value}), name: " ++ Text.quoted chain.name ++
    ", transport_socket: " ++ Text.quoted chain.transport.name ++ s!", filters: [{filters}] \x7d"

end FilterChain

/-- A warm-up target that a builder registers; it may be ready at once. -/
structure TargetRequest where
  name : String
  ready : Bool
  deriving DecidableEq, Repr

inductive BuildResult where
  | built (blueprint : Blueprint)
  /-- A refusal, which may come after identities were drawn. -/
  | refused (error : ConfigError) (drawn : Nat)
  deriving DecidableEq, Repr

/-- What a builder answers for one description. -/
structure BuildReport where
  targets : List TargetRequest
  result : BuildResult
  deriving DecidableEq, Repr

abbrev ChainBuilder := FilterChainDescriptor → BuildReport

end Admission.Chain
