import Admission.Listener.Socket
import Admission.Stream.Pipe

/-!
Contract: byte streams in both directions between two parties of an in-process network, and the
backends that servers may connect to.

A backend greets every connection. Then it hangs up at once, or it reads to the end of the stream,
with every byte written back in upper case if it is told to, and says goodbye.
-/

namespace Admission.Loopback

open Admission.Listener Admission.Stream

/-- A connection between two parties. -/
structure Channel where
  /-- From the party that connected to the party that accepted. -/
  forward : Pipe
  backward : Pipe
  deriving DecidableEq, Repr

namespace Channel

/-- A new connection. -/
def fresh : Channel := ⟨.empty, .empty⟩

def closeByConnector (channel : Channel) : Channel :=
  ⟨channel.forward.finish, channel.backward.abandon⟩

def closeByAcceptor (channel : Channel) : Channel :=
  ⟨channel.forward.abandon, channel.backward.finish⟩

/-- The party that accepted writes, if it can. -/
def reply (channel : Channel) (bytes : List UInt8) : Channel :=
  { channel with backward := (channel.backward.write? bytes).getD channel.backward }

end Channel

structure BackendScript where
  greeting : List UInt8
  goodbye : List UInt8
  hangsUp : Bool
  /-- Whether what is read is written back, in upper case. -/
  shouts : Bool
  deriving DecidableEq, Repr

structure BackendConnection where
  stream : StreamId
  /-- The pieces read so far, newest first. -/
  pieces : List (List UInt8)
  isOver : Bool
  deriving DecidableEq, Repr

def BackendConnection.received (connection : BackendConnection) : List UInt8 :=
  connection.pieces.reverse.flatten

/-- A backend with its connections, oldest first. -/
structure Backend where
  script : BackendScript
  port : UInt16
  connections : List BackendConnection
  deriving DecidableEq, Repr

def upperCase (byte : UInt8) : UInt8 :=
  if 0x61 ≤ byte && byte ≤ 0x7A then byte - 0x20 else byte

namespace BackendScript

def accept (script : BackendScript) (stream : StreamId) : BackendConnection × Channel :=
  let greeted := Channel.fresh.reply script.greeting
  (⟨stream, [], script.hangsUp⟩,
    if script.hangsUp then greeted.closeByAcceptor else greeted)

/-- What the backend does with what it can read. Nothing if it has to wait or is done. -/
def step? (script : BackendScript) (connection : BackendConnection) (channel : Channel) :
    Option (BackendConnection × Channel) :=
  if connection.isOver then none
  else (channel.forward.read? (channel.forward.unread.length + 1)).map fun
    | ([], rest) =>
        ({ connection with isOver := true },
          ({ channel with forward := rest }.reply script.goodbye).closeByAcceptor)
    | (bytes, rest) =>
        let read := { channel with forward := rest }
        ({ connection with pieces := bytes :: connection.pieces },
          if script.shouts then read.reply (bytes.map upperCase) else read)

end BackendScript

end Admission.Loopback
