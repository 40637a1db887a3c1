import Admission.Chain.FilterChain
import Admission.Listener.Socket

/-!
Contract: server connections made from matched sockets.

A connection is carried either by a TCP stream or by nothing at all; the latter only records what
is done to it. A TCP connection whose socket brought no stream is closed from the start. When the
read filters start, a TCP connection hands its stream to a session, which the first filter that
does anything with bytes decides.

Owns: the life of a connection, and `installFilters`, which lets the factories of a chain act on a
new connection and starts the read filters.
-/

namespace Admission.Listener

open Admission.Chain

/-- The life cycle of a connection. -/
inductive ConnectionState where
  | live
  /-- Waiting for pending data to be written. -/
  | closing
  | closed
  deriving DecidableEq, Repr

/-- What carries a connection. -/
inductive Carrier where
  /-- Nothing: calls are recorded. -/
  | recorded
  | tcp
  deriving DecidableEq, Repr

/-- The work on the byte stream of a connection. -/
structure Session where
  stream : StreamId
  role : FilterRole
  bufferSize : Nat
  deriving DecidableEq, Repr

structure Connection where
  id : Nat
  carrier : Carrier
  state : ConnectionState
  /-- The closings that took effect. -/
  closes : List CloseType
  filters : List NetworkFilter
  bufferLimit : Option Nat
  /-- In milliseconds. -/
  connectTimeout : Option Nat
  serverName : String
  transportProtocol : String
  /-- The byte stream, until a session takes it. -/
  stream : Option StreamId
  session : Option Session
  /-- The connection is gone. -/
  destroyed : Bool
  deriving DecidableEq, Repr

namespace Connection

/-- The largest buffer of a session. -/
def maxBuffer : Nat := 65536

def ofSocket (id : Nat) (carrier : Carrier) (socket : Socket) (transportProtocol : String) :
    Connection where
  id
  carrier
  state := if carrier = .tcp ∧ socket.stream = none then .closed else .live
  closes := []
  filters := []
  bufferLimit := none
  connectTimeout := none
  serverName := socket.serverName
  transportProtocol
  stream := if carrier = .tcp then socket.stream else none
  session := none
  destroyed := false

/-- Closes a connection. A closed TCP connection stays as it is; a recorded one takes down every
closing, and waits if pending data is to be written. -/
def close (connection : Connection) (kind : CloseType) : Connection :=
  match connection.carrier, kind with
  | .recorded, .flushWrite =>
      { connection with state := .closing, closes := connection.closes ++ [kind] }
  | .recorded, .noFlush =>
      { connection with state := .closed, closes := connection.closes ++ [kind] }
  | .tcp, _ =>
      if connection.state = .closed then connection
      else { connection with
        state := .closed
        closes := connection.closes ++ [kind]
        stream := none
        session := none }

/-- Sets the buffer limit. The buffer of a TCP session has at least one byte and at most
`maxBuffer`. -/
def setBufferLimit (connection : Connection) (limit : Nat) : Connection :=
  { connection with
    bufferLimit := some (match connection.carrier with
      | .recorded => limit
      | .tcp => min (max limit 1) maxBuffer) }

/-- Installs a filter after those already there. -/
def addFilter (connection : Connection) (filter : NetworkFilter) : Connection :=
  { connection with filters := connection.filters ++ [filter] }

def apply (connection : Connection) (factory : NetworkFilterFactory) : Connection :=
  match factory.action with
  | .install filter => connection.addFilter filter
  | .nothing => connection
  | .closeWith kind => connection.close kind

/-- The role of the first filter that does anything with bytes. -/
def terminalRole (filters : List NetworkFilter) : FilterRole :=
  ((filters.find? (·.role ≠ .passive)).map (·.role)).getD .passive

/-- Starts the installed read filters. Gives false if there are none, or no stream for them. -/
def startReadFilters (connection : Connection) : Connection × Bool :=
  match connection.carrier, connection.stream with
  | .recorded, _ => (connection, !connection.filters.isEmpty)
  | .tcp, none => (connection, false)
  | .tcp, some stream =>
      if connection.filters.isEmpty then (connection, false)
      else ({ connection with
        stream := none
        filters := []
        session := some ⟨stream, terminalRole connection.filters,
          connection.bufferLimit.getD maxBuffer⟩ }, true)

/-- Lets the factories of a chain act on the connection, in order, and starts the read filters. -/
def installFilters (connection : Connection) (factories : List NetworkFilterFactory) :
    Connection × Bool :=
  (factories.foldl apply connection).startReadFilters

/-- The connection is gone, and with it its session. -/
def destroy (connection : Connection) : Connection :=
  { connection with destroyed := true, stream := none, session := none }

end Connection

end Admission.Listener
