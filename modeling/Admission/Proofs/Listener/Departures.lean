import Admission.Proofs.Listener.Conclusion
import Admission.Proofs.Listener.Effects

/-!
Contract: what a run makes of the sockets that it accepts, told without the access log.

Owns:
- `Guest`, a socket as it was accepted, `Fate`, how it ended, and `Departure`, both together;
- `departures` and `arrivals`, the sockets that an operation lets go and those that it takes;
- `Departure.line`, the line that is due for a socket.
-/

namespace Admission.Listener

open Admission.Chain

/-- An accepted socket, with what was known of it then. -/
structure Guest where
  id : SocketId
  info : StreamInfo

/-- How a socket came out of the listener filters. -/
inductive Fate where
  /-- A connection was made for it. -/
  | served (connection : Nat) (chain : FilterChain)
  /-- No filter chain matched it. -/
  | unmatched
  /-- It was closed while it was in listener filters. -/
  | rejected
  /-- It was closed because the listener filters took too long. -/
  | expired
  /-- The listener was shut down. -/
  | abandoned

namespace Fate

/-- The connection that was made for a socket. -/
def connection? : Fate → Option Nat
  | served connection _ => some connection
  | _ => none

/-- The name of the chain on which a connection was made for a socket. -/
def chainName? : Fate → Option String
  | served _ chain => some chain.name
  | _ => none

def flag? : Fate → Option ResponseFlag
  | unmatched => some .noRouteFound
  | expired => some .listenerFilterTimeout
  | _ => none

def details? : Fate → Option String
  | unmatched => some "filter_chain_not_found"
  | expired => some "listener_filter_timeout"
  | _ => none

end Fate

/-- A socket that is in listener filters no more. -/
structure Departure extends Guest where
  fate : Fate

/-- The line that is due for a socket. -/
def Departure.line (departure : Departure) : StreamInfo where
  localAddress := departure.info.localAddress
  remoteAddress := departure.info.remoteAddress
  connectionId := departure.fate.connection?
  chainName := departure.fate.chainName?
  flag := departure.fate.flag?
  details := departure.fate.details?

def PendingSocket.guest {σ : Type} (pending : PendingSocket σ) : Guest :=
  ⟨pending.id, pending.info⟩

namespace ListenerState

variable {σ : Type} (state : ListenerState σ)

/-- The fate of a socket whose pipeline has ended. -/
def fateOf (pending : PendingSocket σ) : Fate :=
  if pending.pipeline.state = .completed then
    match state.matchOf? pending.socket with
    | none => .unmatched
    | some matched => .served (state.connections.length + 1) matched.chain
  else .rejected

/-- A socket after a step of its pipeline departs, unless it is held. -/
def departing (pending : PendingSocket σ) : List Departure :=
  if pending.pipeline.state = .suspended ∨ pending.pipeline.state = .running then []
  else [⟨pending.guest, state.fateOf pending⟩]

/-- What departs in a step of the pipeline of a socket. -/
def stepDepartures (id : SocketId) (step : Pipeline σ → Socket → Pipeline σ × Socket) :
    List Departure :=
  match state.pending? id with
  | none => []
  | some pending => state.departing (pending.stepped step)

/-- What departs when a socket runs out of time. -/
def timeOutDepartures (id : SocketId) : List Departure :=
  if state.config.continueOnTimeout then
    state.stepDepartures id fun pipeline socket => pipeline.resume socket true
  else (state.pending? id).toList.map fun pending => ⟨pending.guest, .expired⟩

/-- What departs when sockets run out of time, one after another. -/
def timeOutAllDepartures (state : ListenerState σ) : List SocketId → List Departure
  | [] => []
  | id :: ids => state.timeOutDepartures id ++ (state.timeOut id).2.timeOutAllDepartures ids

/-- The sockets that leave the listener filters in an operation. -/
def departures : Operation → List Departure
  | .accept socket now => state.departing (state.arrival socket now)
  | .data id bytes => state.stepDepartures id fun pipeline socket => pipeline.onData socket bytes
  | .resume id success =>
      state.stepDepartures id fun pipeline socket => pipeline.resume socket success
  | .poll now => state.timeOutAllDepartures (state.expired now)
  | .shutdown => state.pending.values.map fun pending => ⟨pending.guest, .abandoned⟩
  | _ => []

/-- The sockets that an operation accepts. -/
def arrivals : Operation → List Guest
  | .accept socket now => [(state.arrival socket now).guest]
  | _ => []

section Run

variable (config : ListenerConfig σ) (carrier : Carrier) (operations : List Operation)

/-- The sockets that have left the listener filters in a run, in order. -/
def departed : List Departure :=
  (ListenerState.new config carrier).collect departures operations

/-- The sockets that were accepted in a run, in order. -/
def arrived : List Guest :=
  (ListenerState.new config carrier).collect arrivals operations

theorem departed_concat (operation : Operation) :
    departed config carrier (operations ++ [operation]) =
      departed config carrier operations ++
        (ran config carrier operations).departures operation :=
  collect_concat _ _ operations operation

theorem arrived_concat (operation : Operation) :
    arrived config carrier (operations ++ [operation]) =
      arrived config carrier operations ++ (ran config carrier operations).arrivals operation :=
  collect_concat _ _ operations operation

end Run

end ListenerState

end Admission.Listener
