import Admission.Chain.FilterChain

/-!
Contract: a chain builder that follows a script, for driving the core without a network.

It rejects the chain of a given name, registers warm-up targets as told, and makes a passive
filter of each configured name; the names `noop` and `close` stand for factories that install
nothing and that close the connection.
-/

namespace Admission.Chain

/-- What the builder is told to do. -/
structure BuildScript where
  failOn : Option String
  ownTargets : Bool
  /-- Targets to register when a chain of a name comes up, before anything else. -/
  extraTargets : List (String × List TargetRequest)
  deriving Repr

namespace BuildScript

def networkFilter (config : FactoryConfig) : NetworkFilterFactory :=
  if config.name = "noop" then ⟨"noop", .nothing⟩
  else if config.name = "close" then ⟨"close", .close⟩
  else ⟨config.name, .install ⟨config.name, .passive⟩⟩

def blueprint (descriptor : FilterChainDescriptor) : Blueprint :=
  let transport := descriptor.transportSocket.name
  { name := descriptor.name
    transport := ⟨transport, transport, false⟩
    filters := descriptor.filters.map networkFilter
    connectTimeout := descriptor.transportSocketConnectTimeout }

/-- The targets that come up with a chain of a name. -/
def extra (script : BuildScript) (chain : String) : List TargetRequest :=
  ((script.extraTargets.find? (·.1 == chain)).map (·.2)).getD []

def builder (script : BuildScript) : ChainBuilder := fun descriptor =>
  let extra := script.extra descriptor.name
  if script.failOn = some descriptor.name then
    ⟨extra, .refused (.chainBuild descriptor.name "rejected by test builder") 0⟩
  else
    let own := if script.ownTargets then [⟨descriptor.name, false⟩] else []
    ⟨extra ++ own, .built (blueprint descriptor)⟩

end BuildScript

end Admission.Chain
