import Admission.Config.Environment
import Admission.Config.ListenerFile

/-!
Contract: errors as JSON objects, each with a kind and, where there is one, a message.
-/

namespace Admission.Report

open Admission.Json Admission.Net Admission.Chain Admission.Config

def failure (kind message : String) : List (String × Value) :=
  [("error", .string kind), ("message", .string message)]

def rangeKind : RangeError → String
  | .empty _ => "InvalidCidr"
  | .unreadable _ => "InvalidCidr"
  | .tooLong _ _ => "InvalidPrefix"
  | .claimedTwice _ => "DuplicatePrefix"

def rangeError (error : RangeError) : List (String × Value) :=
  failure (rangeKind error) error.message

def configKind : ConfigError → String
  | .duplicateMatchRule => "DuplicateMatchRule"
  | .overlappingMatchRule => "OverlappingMatchRule"
  | .invalidRange _ => "InvalidCidr"
  | .unsupportedWildcard _ => "UnsupportedWildcard"
  | .unimplementedField _ => "UnimplementedField"
  | .chainBuild _ _ => "ChainBuild"
  | .unknownFactory _ _ => "UnknownFactory"

def configError (listener : String) (error : ConfigError) : List (String × Value) :=
  ("is_match_error", .bool error.isMatchError) ::
    failure (configKind error) (error.message listener)

/-- The category of a decoding problem: the text is malformed, ends early, or has a value of the
wrong shape. -/
def category : DecodeError → String
  | .text .malformed => "syntax"
  | .text .truncated => "eof"
  | .shape _ => "data"

def decodeError (problem : DecodeError) : List (String × Value) :=
  [("error", .string "JsonError"), ("category", .string (category problem))]

/-- A listener file that could not be loaded from a path. -/
def loadError (path : String) (error : LoadError) : List (String × Value) :=
  ("context", .string (error.context path)) ::
    match error with
    | .undecodable problem => decodeError problem
    | error => failure "ReadError" error.message

/-- Settings that could not be read from the environment. -/
def environmentError (error : EnvironmentError) : List (String × Value) :=
  ("cause", .ofStrings error.causes) :: failure "ConfigError" error.message

end Admission.Report
