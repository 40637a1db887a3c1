import Admission.Listener.State
import Admission.Report.Chain

/-!
Contract: connections, the access log and the outcomes of sockets as JSON.
-/

namespace Admission.Report

open Admission.Json Admission.Chain Admission.Listener

def pipelineState : PipelineState → String
  | .running => "running"
  | .suspended => "suspended"
  | .completed => "completed"
  | .terminated => "terminated"

def connectionState : ConnectionState → String
  | .live => "open"
  | .closing => "closing"
  | .closed => "closed"

def closeType : CloseType → String
  | .noFlush => "no_flush"
  | .flushWrite => "flush_write"

/-- What became of a connection so far. -/
def connection (connection : Connection) : Value :=
  .ofMembers [
    ("id", .ofNat connection.id),
    ("state", .string (connectionState connection.state)),
    ("closes", .ofStrings (connection.closes.map closeType)),
    ("filters", .ofStrings (connection.filters.map (·.name))),
    ("buffer_limit", .ofOption .ofNat connection.bufferLimit),
    ("connect_timeout_ms", .ofOption .ofNat connection.connectTimeout),
    ("sni", .string connection.serverName),
    ("transport", .string connection.transportProtocol),
    ("destroyed", .bool connection.destroyed)]

def networkFilter (filter : NetworkFilter) : Value :=
  let settings := match filter.role with
    | .proxy settings => [
        ("upstream", Value.string settings.backend.text),
        ("connect_timeout_ms", .ofNat settings.connectTimeout),
        ("idle_timeout_ms", .ofOption .ofNat settings.idleTimeout)]
    | _ => []
  .ofMembers (("name", .string filter.name) :: settings)

/-- A line of the access log without the addresses. -/
def logLine (listener : String) (info : StreamInfo) : List (String × Value) :=
  let connection := match info.connectionId with
    | some id => [("connection_id", Value.ofNat id)]
    | none => []
  connection ++ [
    ("listener", .string listener),
    ("filter_chain", .string info.chainText),
    ("response_flag", .string info.flagText),
    ("details", .string info.detailsText)]

def logLineWithAddresses (listener : String) (info : StreamInfo) : List (String × Value) :=
  ("downstream_local", .string info.localAddress.text) ::
    ("downstream_remote", .string info.remoteAddress.text) :: logLine listener info

/-- The lines of an access log by connection; those without one come first. -/
def byConnection (log : List StreamInfo) : List StreamInfo :=
  log.mergeSort fun x y => x.connectionId.getD 0 ≤ y.connectionId.getD 0

/-- What became of a socket in a step. -/
def socketOutcome (state : ListenerState σ) : SocketOutcome → List (String × Value)
  | .pending id => [("outcome", .string "pending"), ("socket", .string (toString id.serial))]
  | .connected handle => [
      ("outcome", .string "connected"),
      ("chain", .ofNat handle.chain.value),
      ("connection", .ofOption (fun record => .ofNat record.connection) (state.record? handle))]
  | .closed => [("outcome", .string "closed")]
  | .unknown => [("outcome", .string "unknown")]

/-- The record of a tracked connection, as found under a handle. -/
def connectionRecord (state : ListenerState σ) (handle : ConnectionHandle)
    (record : ConnectionRecord) : Value :=
  let connection := state.connectionOf? record.connection
  .ofMembers [
    ("same_handle", .bool (record.handle == handle)),
    ("id", .ofNat record.connection),
    ("state", .ofOption (fun connection => .string (connectionState connection.state)) connection),
    ("chain", .ofOption .string record.info.chainName),
    ("connection_id", .ofOption .ofNat record.info.connectionId),
    ("flag", .ofOption (fun flag => .string flag.text) record.info.flag),
    ("details", .ofOption .string record.info.details),
    ("generation", .ofNat record.generation.generation.value)]

def stats (stats : ListenerStats) : Value := listOf .ofNat stats.row

end Admission.Report
