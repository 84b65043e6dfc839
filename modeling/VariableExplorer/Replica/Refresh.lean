import VariableExplorer.Replica.Snapshot

/-!
One refresh, from the first question to the session to the snapshot. It asks whether the session
runs, for its frames, for a description of the environment of its global frame, and for the
children of that environment. The first answer that does not fit ends it without a snapshot.
-/

namespace VariableExplorer

namespace Refresh

/-- What a refresh asks next. -/
inductive Stage
  | liveness
  | frames
  | environment (frame : StackFrame)
  | children (environment expression : String)
  deriving Repr, DecidableEq

def properties : List Property := [
  .expression, .accessorKind, .typeName, .classes, .length, .slotCount, .attributeCount, .dim,
  .flags]

def Stage.call (timeout : Option Seconds) : Stage → Call
  | liveness => .isRunning
  | frames => .traceback timeout
  | environment f => .evaluate
      ⟨f, globalEnvironment, globalEnvironmentName, properties, .summary, timeout⟩
  | children env e => .children
      { environment := env
        expression := e
        properties := properties
        timeout := timeout }

inductive Progress
  | asking (s : Stage)
  | done (found : Option Snapshot)
  deriving Repr, DecidableEq

/-- The first global frame, if nothing of another kind comes before it. -/
def globalFrame? : List (Element StackFrame) → Option StackFrame
  | [] => none
  | .foreign _ :: _ => none
  | .given f :: es => if f.isGlobal then some f else globalFrame? es

def orGlobal (text : String) : String := if text = "" then globalEnvironment else text

def Stage.next : Stage → Answer → Progress
  | liveness, .alive true => .asking frames
  | frames, .frames ⟨.ok, some (.many es), _⟩ =>
    match globalFrame? es with
    | some f => .asking (environment f)
    | none => .done none
  | environment f, .values ⟨.ok, some (.one (.given i)), _⟩ =>
    .asking (children (orGlobal f.environment) (orGlobal i.expression))
  | children _ _, .values ⟨.ok, some (.many es), _⟩ => .done (Snapshot.ofElements? es)
  | children _ _, .values ⟨.ok, none, _⟩ => .done (some {})
  | _, _ => .done none

def Progress.found : Progress → Option Snapshot
  | asking _ => none
  | done found => found

section

variable {m : Type → Type} [Monad m]

def Progress.advance (ask : Call → m Answer) (timeout : Option Seconds) : Progress → m Progress
  | asking s => do return s.next (← ask (s.call timeout))
  | done found => return done found

def build (ask : Call → m Answer) (timeout : Option Seconds) : m (Option Snapshot) := do
  let p ← (Progress.asking .liveness).advance ask timeout
  let p ← p.advance ask timeout
  let p ← p.advance ask timeout
  return (← p.advance ask timeout).found

end

end Refresh

end VariableExplorer
