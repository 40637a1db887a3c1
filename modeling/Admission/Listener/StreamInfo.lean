import Admission.Net.SocketAddress

/-!
Contract: what the listener learned about one accepted socket, from its acceptance to the line in
the access log.
-/

namespace Admission.Listener

open Admission.Net

/-- Why a socket ended without being served. -/
inductive ResponseFlag where
  /-- No filter chain matched. -/
  | noRouteFound
  /-- A listener filter did not finish in time. -/
  | listenerFilterTimeout
  deriving DecidableEq, Repr

def ResponseFlag.text : ResponseFlag → String
  | noRouteFound => "NR"
  | listenerFilterTimeout => "LFT"

/-- What the listener learned about a socket. -/
structure StreamInfo where
  localAddress : Address
  remoteAddress : Address
  connectionId : Option Nat
  chainName : Option String
  flag : Option ResponseFlag
  details : Option String
  deriving DecidableEq, Repr

namespace StreamInfo

/-- What is known of a socket when it is accepted. -/
def between (localAddress remoteAddress : Address) : StreamInfo :=
  ⟨localAddress, remoteAddress, none, none, none, none⟩

def mark (info : StreamInfo) (flag : ResponseFlag) (details : String) : StreamInfo :=
  { info with flag := some flag, details := some details }

/-- The filter chain as the access log shows it. -/
def chainText (info : StreamInfo) : String := info.chainName.getD "-"

/-- The flag as the access log shows it. -/
def flagText (info : StreamInfo) : String := (info.flag.map ResponseFlag.text).getD "-"

/-- The details as the access log shows them. -/
def detailsText (info : StreamInfo) : String := info.details.getD "-"

end StreamInfo

end Admission.Listener
