import Admission.Tls.ClientHello
import Admission.Listener.Pipeline

/-!
Contract: the listener filter that waits for the ClientHello and puts what it offers on the
socket.

The bytes are only looked at; the connection reads them again from the start. A stream that is no
TLS passes. A malformed ClientHello, and one that does not fit the size limit, close the socket.
-/

namespace Admission.Tls

open Admission.Listener

def inspectorName : String := "tls_inspector"

/-- How many bytes a ClientHello may take if nothing is configured. -/
def defaultInspectorLimit : Nat := 8192

/-- What a ClientHello says about its socket. -/
def ClientHello.findings (hello : ClientHello) : Findings where
  transportProtocol := some "tls"
  serverName := hello.serverName
  applicationProtocols :=
    if hello.applicationProtocols.isEmpty then none else some hello.applicationProtocols
  closes := false

/-- The answer to the bytes readable so far; only the first `limit` of them matter. -/
def inspect (limit : Nat) (data : List UInt8) : Findings × FilterStatus :=
  let seen := data.take limit
  match ClientHello.parse seen with
  | .found hello => (hello.findings, .proceed)
  | .notTls => (.nothing, .proceed)
  | .malformed => (.rejection, .hold)
  | .incomplete => if limit ≤ seen.length then (.rejection, .hold) else (.nothing, .hold)

def inspector (limit : Nat) (memory : σ) : ListenerFilter σ where
  name := inspectorName
  memory
  onAccept := fun memory _ => ⟨memory, .nothing, .hold⟩
  onData := fun memory _ data => ⟨memory, (inspect limit data).1, (inspect limit data).2⟩

end Admission.Tls
