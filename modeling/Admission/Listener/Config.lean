import Admission.Listener.Pipeline
import Admission.Text.Duration

/-!
Contract: the settings of a listener, with their defaults and their diagnostic text.
-/

namespace Admission.Listener

open Admission.Net

/-- The settings of a listener. A new copy of each filter runs for every socket. -/
structure ListenerConfig (σ : Type) where
  name : String
  address : Address
  /-- How long a socket may stay in listener filters, in milliseconds; zero is without limit. -/
  filterTimeout : Nat
  /-- Whether a socket that runs out of time goes on to matching. -/
  continueOnTimeout : Bool
  bufferLimit : Nat
  filters : List (ListenerFilter σ)

/-- How long a socket may stay in listener filters if nothing is configured, in milliseconds. -/
def defaultFilterTimeout : Nat := 15000

/-- The buffer limit of a connection if nothing is configured. -/
def defaultBufferLimit : Nat := 1048576

namespace ListenerConfig

variable {σ : Type}

def new (name : String) (address : Address) : ListenerConfig σ :=
  ⟨name, address, defaultFilterTimeout, false, defaultBufferLimit, []⟩

def debugAddress : Address → String
  | .ip address => s!"Ip({address.text})"
  | .pipe path => "Pipe(" ++ Text.quoted path ++ ")"
  | .internal name => "Internal(" ++ Text.quoted name ++ ")"

def debug (config : ListenerConfig σ) : String :=
  let filters := String.intercalate ", " (config.filters.map fun filter => Text.quoted filter.name)
  "ListenerConfig \x7b name: " ++ Text.quoted config.name ++ ", address: " ++
    debugAddress config.address ++
    s!", listener_filters_timeout: {Text.durationText config.filterTimeout}" ++
    s!", continue_on_listener_filters_timeout: {config.continueOnTimeout}" ++
    s!", per_connection_buffer_limit_bytes: {config.bufferLimit}" ++
    s!", listener_filters: [{filters}] \x7d"

end ListenerConfig

end Admission.Listener
