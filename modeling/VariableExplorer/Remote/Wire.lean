import VariableExplorer.Remote.Client
import VariableExplorer.Remote.Worker

/-!
What a command is to the worker that it is sent to, and what a reply is to the client that it
reaches.
-/

namespace VariableExplorer

namespace Remote

/-- The request that a command is sent as. How long its caller waits is not sent. -/
def Request.ofCommand {ι : Type} (id : ι) : Command → Request ι
  | .close => { id := id, operation := "close" }
  | .execute code tag => { id := id, operation := "execute", code := code, tag := tag }
  | .push vars => { id := id, operation := "push", vars := some vars }
  | .traceback => { id := id, operation := "traceback" }
  | .evaluate r =>
    { id := id
      operation := "evaluate"
      frame := some r.frame
      expression := some r.expression
      name := some r.name
      properties := some r.properties
      representation := some r.representation }
  | .children r =>
    { id := id
      operation := "describe_children"
      environment := some r.environment
      expression := some r.expression
      properties := some r.properties
      pattern := r.pattern
      limit := r.limit }

inductive Content
  | frames (fs : List StackFrame)
  | value (i : ValueInfo)
  | values (infos : List ValueInfo)
  deriving Repr

namespace Report

def error? : Report → Option String
  | unknown operation => some s!"Unknown op: {operation}"
  | broken text => some text
  | _ => none

def outcome? : Report → Option (Outcome Content)
  | frames o => some ⟨o.status, o.value.map .frames, o.error⟩
  | value o => some ⟨o.status, o.value.map .value, o.error⟩
  | values o => some ⟨o.status, o.value.map .values, o.error⟩
  | _ => none

def entry? : Report → Option HistoryEntry
  | entry e => some e
  | _ => none

end Report

/-- The message of a reply. A worker has two messages of its own: that it is ready, with the number
of its process, and that it is broken. -/
def Message.ofReply (pid : Int) (r : Reply Int) : Message Content HistoryEntry :=
  let own : Int × Option Recipe := match r.report with
    | .ready => (readyId, some (pure (.int pid)))
    | _ => (brokenId, none)
  { id := some (r.id.getD own.1)
    ok := r.report.ok
    error := r.report.error?
    pid := own.2
    outcome := r.report.outcome?
    entry := r.report.entry?.map .ok }

end Remote

end VariableExplorer
