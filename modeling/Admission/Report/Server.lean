import Admission.Report.Listener
import Admission.Server.State

/-!
Contract: what a server and its byte streams came to, as JSON.
-/

namespace Admission.Report

open Admission.Json Admission.Net Admission.Listener Admission.Server

/-- How many bytes are written out in full. -/
def maxShownBytes : Nat := 300

/-- Bytes: in full, or as their number and digest if they are many. -/
def bytes (data : List UInt8) : List (String × Value) :=
  if data.length ≤ maxShownBytes then [("data", .string (Text.encodeHex data))]
  else [("len", .ofNat data.length), ("digest", .string (Digest.sha256Hex data))]

/-- The name of what a look at the listener file came to. -/
def reloadName : ReloadOutcome → String
  | .unreadable => "unreadable"
  | .unchanged => "unchanged"
  | .invalid => "invalid"
  | .rejected _ => "rejected"
  | .applied _ => "applied"

/-- What a look at the listener file came to. -/
def reloadOutcome (outcome : ReloadOutcome) : Value :=
  .ofMembers [
    ("result", .string (reloadName outcome)),
    ("restart_needed", .bool outcome.needsRestart)]

/-- A server that does not start. -/
def bindError (error : BindError) : List (String × Value) :=
  [("error", .string "ServerError"), ("chain", .ofStrings error.messages)]

/-- A server before it runs, and the address on which it can be reached. -/
def bound (ip : IpAddress) (server : ServerState) : Value :=
  .ofMembers [
    ("ip", .string (String.ofList ip.text)),
    ("debug", .string server.debug),
    ("generation", generation server.core.registry.active)]

/-- The access log of a whole run by connection, and lines of one connection by their text. -/
def wholeLog (listener : String) (log : List StreamInfo) : Value :=
  let lines := log.map fun info =>
    (info.connectionId.getD 0, Value.ofMembers (logLine listener info))
  listOf (·.2) (lines.mergeSort fun x y => x.1 < y.1 || x.1 == y.1 && x.2.text ≤ y.2.text)

end Admission.Report
