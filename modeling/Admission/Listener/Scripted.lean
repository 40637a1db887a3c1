import Admission.Listener.Pipeline

/-!
Contract: listener filters that follow a script, for driving the pipeline without a network.

The memory of such a filter counts how often the pipeline reached it.
-/

namespace Admission.Listener

/-- What a scripted filter does at a call. -/
inductive ScriptedAction where
  | proceed
  | hold
  | close
  | setServerName (name : String)
  deriving DecidableEq, Repr

namespace ScriptedAction

def findings : ScriptedAction → Findings
  | close => .rejection
  | setServerName name => { Findings.nothing with serverName := some name }
  | _ => .nothing

/-- Whether the pipeline goes on after the action. -/
def status : ScriptedAction → FilterStatus
  | proceed => .proceed
  | setServerName _ => .proceed
  | _ => .hold

def reply (action : ScriptedAction) (memory : σ) : FilterReply σ :=
  ⟨memory, action.findings, action.status⟩

end ScriptedAction

namespace ListenerFilter

/-- A filter with one action when it is reached and one when enough bytes are there; with too few
bytes it keeps holding. Without the second action any data lets the pipeline go on. -/
def scripted (name : String) (onAccept : ScriptedAction) (onData : Option (Nat × ScriptedAction)) :
    ListenerFilter Nat where
  name
  memory := 0
  onAccept := fun calls _ => onAccept.reply (calls + 1)
  onData := fun calls _ data =>
    match onData with
    | none => ScriptedAction.proceed.reply calls
    | some (least, action) =>
        if least ≤ data.length then action.reply calls else ScriptedAction.hold.reply calls

/-- A filter that holds the pipeline until there is any data. -/
def plain (name : String) : ListenerFilter Nat where
  name
  memory := 0
  onAccept := fun calls _ => ⟨calls, .nothing, .hold⟩
  onData := fun calls _ _ => ⟨calls, .nothing, .proceed⟩

end ListenerFilter

end Admission.Listener
