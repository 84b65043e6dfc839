import VariableExplorer.Description.Info
import VariableExplorer.Description.Outcome
import VariableExplorer.Value.Fault

/-!
What is asked of a session and what it answers. A session may live elsewhere and answer whatever it
likes, so that answers hold elements of the wrong kind, and a call may raise or stay unanswered.
-/

namespace VariableExplorer

inductive Seconds
  | whole (n : Int)
  | real (x : Float)
  deriving Repr, Inhabited

/-- The expression and the environment that stand for a session's global variables. -/
def globalEnvironment : String := "globals()"

def globalEnvironmentName : String := "Global Environment"

structure EvaluationRequest where
  frame : StackFrame
  expression : String
  name : String
  properties : List Property
  representation : Representation
  timeout : Option Seconds := none
  deriving Repr

structure ChildrenRequest where
  environment : String
  expression : String
  properties : List Property
  pattern : Option String := none
  limit : Option Int := none
  timeout : Option Seconds := none
  cancellable : Bool := false
  deriving Repr

inductive Call
  | isRunning
  | traceback (timeout : Option Seconds)
  | evaluate (r : EvaluationRequest)
  | children (r : ChildrenRequest)
  deriving Repr

/-- What stands in the place of a description: one, or a value of some other type. -/
inductive Element (α : Type)
  | given (a : α)
  | foreign (typeName : String)
  deriving Repr, DecidableEq, Inhabited

inductive Payload (α : Type)
  | one (e : Element α)
  | many (es : List (Element α))
  deriving Repr, DecidableEq, Inhabited

def Element.givenOnly {α : Type} (es : List (Element α)) : List α :=
  es.filterMap fun e ↦ match e with
    | .given a => some a
    | .foreign _ => none

inductive Answer
  | alive (b : Bool)
  | frames (o : Outcome (Payload StackFrame))
  | values (o : Outcome (Payload ValueInfo))
  | raised (f : Fault)
  /-- No answer for as long as anyone waits. -/
  | silent
  deriving Repr, Inhabited

end VariableExplorer
