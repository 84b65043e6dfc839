import VariableExplorer.Session.Call

/-!
Scripted sessions: sessions whose answers are written down in advance. They stand in for a live
session wherever the order of questions and answers is what matters.
-/

namespace VariableExplorer

inductive Scripted (α : Type)
  | gives (o : Outcome (Payload α))
  | raises (f : Fault)
  /-- The answer does not come while anyone waits for it. -/
  | blocks
  deriving Repr

structure Script where
  running : Except Fault Bool := .ok true
  frames : Scripted StackFrame :=
    .gives (.success (.many [.given ⟨0, "<module>", true, globalEnvironment⟩]))
  /-- The answer to an evaluation; none stands for a description of what was asked. -/
  environment : Option (Scripted ValueInfo) := none
  locals : Scripted ValueInfo := .gives (.success (.many []))
  children : List (String × Scripted ValueInfo) := []

namespace Script

def ofScripted {α : Type} (f : Outcome (Payload α) → Answer) : Scripted α → Answer
  | .gives o => f o
  | .raises f => .raised f
  | .blocks => .silent

def answer (s : Script) : Call → Answer
  | .isRunning =>
    match s.running with
    | .ok b => .alive b
    | .error f => .raised f
  | .traceback _ => ofScripted .frames s.frames
  | .evaluate r =>
    match s.environment with
    | some a => ofScripted .values a
    | none => .values (.success (.one (.given { name := r.name, expression := r.expression })))
  | .children r =>
    if r.expression = globalEnvironment then ofScripted .values s.locals
    else match s.children.lookup r.expression with
      | some a => ofScripted .values a
      | none => .values (.evaluationError "not found")

end Script

end VariableExplorer
