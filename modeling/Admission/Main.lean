import Admission.Json.Ascii
import Admission.Report.Config
import Admission.Report.Server

/-!
Contract: the command line of a standalone listener.

The settings come from the environment. The listener file that they name is loaded and its server
is made ready; from then on the file is looked at in every period, and its filter chains are
applied when it changes. Each event is one line of JSON on standard output; a server that cannot
start says why on standard error and ends with code 1.

Does not own: sockets. The byte streams of clients and backends come from whoever embeds the
event loop.
-/

namespace Admission.Main

open Admission.Json Admission.Config Admission.Server

/-- Why there is no server, outermost message first. -/
abbrev StartError := List String

def report (event : Value) : IO Unit := do
  IO.println event.asciiText
  (← IO.getStdout).flush

/-- The bytes of a file, if it can be read. -/
def contentsOf? (path : String) : IO (Option (List UInt8)) := do
  try
    return some (← IO.FS.readBinFile path).toList
  catch _ => return none

def settings : IO (Except StartError Environment) := do
  let file ← IO.getEnv configFileVariable
  let interval ← IO.getEnv reloadIntervalVariable
  let level ← IO.getEnv logLevelVariable
  let lookup (name : String) : Option String :=
    if name = configFileVariable then file
    else if name = reloadIntervalVariable then interval
    else if name = logLevelVariable then level
    else none
  return (Environment.ofVariables lookup).mapError fun error => error.message :: error.causes

def serverOf (path : String) (contents : Option (List UInt8)) : Except StartError ServerState := do
  let file ← (ListenerFile.load contents).mapError fun error =>
    [error.context path, error.message]
  let bound ← (ServerState.bind file).mapError BindError.messages
  return bound.withReload contents

/-- Looks at the listener file in every period, and reports what changes came to. -/
partial def follow (settings : Environment) (server : ServerState) : IO Unit := do
  IO.sleep (UInt32.ofNat (min settings.reloadInterval 4294967295))
  let (outcome, server) := server.reload (← contentsOf? settings.configFile)
  if outcome ≠ .unchanged then report (Report.reloadOutcome outcome)
  follow settings server.endTurn

/-- Reports why there is no server. -/
def fail (error : StartError) : IO UInt32 := do
  IO.eprintln (": ".intercalate error)
  return 1

/-- Runs the server that the environment describes. -/
def run : IO UInt32 := do
  match ← settings with
  | .error error => fail error
  | .ok settings =>
      report (Report.environment settings)
      match serverOf settings.configFile (← contentsOf? settings.configFile) with
      | .error error => fail error
      | .ok server =>
          report (Report.bound server.file.address.ip server)
          follow settings server
          return 0

end Admission.Main

def main : IO UInt32 := Admission.Main.run
