import Admission.Net.Cidr

/-!
Contract: the reasons for which a batch of filter chains, or the configuration of a listener, is
rejected, with their messages.
-/

namespace Admission.Chain

open Admission.Net

inductive FactoryKind where
  | transportSocket
  | networkFilter
  | listenerFilter
  | listenerFilterConfig
  deriving DecidableEq, Repr

def FactoryKind.text : FactoryKind → String
  | transportSocket => "transport socket"
  | networkFilter => "network filter"
  | listenerFilter => "listener filter"
  | listenerFilterConfig => "listener filter config"

/-- Why a configuration is rejected. -/
inductive ConfigError where
  | duplicateMatchRule
  /-- Two combinations of criteria claim the same slot. -/
  | overlappingMatchRule
  /-- A range cannot be read. -/
  | invalidRange (cause : RangeError)
  /-- A server name has a star other than that of a leading `*.`. -/
  | unsupportedWildcard (serverName : String)
  /-- A reserved field of the criteria is set. -/
  | unimplementedField (field : String)
  | chainBuild (chain reason : String)
  | unknownFactory (kind : FactoryKind) (name : String)
  deriving DecidableEq, Repr

namespace ConfigError

/-- Whether the criteria are to blame, and not the contents of a chain. -/
def isMatchError : ConfigError → Bool
  | chainBuild _ _ => false
  | unknownFactory _ _ => false
  | _ => true

/-- What is wrong, without the listener. -/
def reason : ConfigError → String
  | duplicateMatchRule => "multiple filter chains with the same matching rules are defined"
  | overlappingMatchRule => "multiple filter chains with overlapping matching rules are defined"
  | invalidRange cause => cause.message
  | unsupportedWildcard serverName =>
      "partial wildcards are not supported in \"server_names\" (" ++ serverName ++ ")"
  | unimplementedField field => s!"contains filter chains with unimplemented fields ({field})"
  | chainBuild chain reason => s!"failed to build filter chain '{chain}': {reason}"
  | unknownFactory kind name => s!"unknown {kind.text} factory '{name}'"

/-- The messages of what lies behind the error, outermost first. -/
def causes : ConfigError → List String
  | invalidRange cause => [cause.message]
  | _ => []

def message (listener : String) : ConfigError → String
  | error@(unknownFactory _ _) => error.reason
  | error => s!"error adding listener '{listener}': {error.reason}"

end ConfigError

end Admission.Chain
