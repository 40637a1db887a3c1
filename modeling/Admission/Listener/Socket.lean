import Admission.Net.SocketAddress

/-!
Contract: an accepted socket that has not become a connection yet.

Owns: what the listener knows about a socket, what listener filters may find out about it, and the
check whether its peer is on this host.
-/

namespace Admission.Listener

open Admission.Net

/-- The number of a byte stream that a socket carries. -/
structure StreamId where
  value : Nat
  deriving DecidableEq, Repr

structure Socket where
  localAddress : Address
  remoteAddress : Address
  /-- The transport protocol that a filter detected, or empty. -/
  transportProtocol : String
  /-- The server name that the client asked for, or empty. -/
  serverName : String
  /-- The application protocols that the client offered, best first. -/
  applicationProtocols : List String
  isOpen : Bool
  /-- An answer of the locality check that overrides the comparison of addresses. -/
  locality : Option Bool
  /-- The byte stream, if the socket has one and is open. -/
  stream : Option StreamId
  deriving DecidableEq, Repr

/-- What a listener filter found out. -/
structure Findings where
  transportProtocol : Option String
  serverName : Option String
  applicationProtocols : Option (List String)
  /-- The filter closes the socket. -/
  closes : Bool
  deriving DecidableEq, Repr

namespace Findings

def nothing : Findings := ⟨none, none, none, false⟩

/-- A reason to close the socket. -/
def rejection : Findings := ⟨none, none, none, true⟩

end Findings

namespace Socket

def between (localAddress remoteAddress : Address) : Socket where
  localAddress
  remoteAddress
  transportProtocol := ""
  serverName := ""
  applicationProtocols := []
  isOpen := true
  locality := none
  stream := none

def close (socket : Socket) : Socket :=
  { socket with isOpen := false, stream := none }

/-- Puts down what a filter found out. -/
def learn (socket : Socket) (findings : Findings) : Socket :=
  let informed := { socket with
    transportProtocol := findings.transportProtocol.getD socket.transportProtocol
    serverName := findings.serverName.getD socket.serverName
    applicationProtocols := findings.applicationProtocols.getD socket.applicationProtocols }
  if findings.closes then informed.close else informed

def isLocal (socket : Socket) : Bool :=
  socket.locality.getD (Address.isSameHost socket.localAddress socket.remoteAddress)

end Socket

end Admission.Listener
