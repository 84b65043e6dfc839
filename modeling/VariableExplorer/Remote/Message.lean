import VariableExplorer.Kernel.Basic

/-!
What goes through the pipe between a client and the worker that runs its kernel. Requests carry a
number, and so does each reply; the worker uses two numbers of its own, one when it is ready and one
when it breaks down.
-/

namespace VariableExplorer

namespace Remote

inductive Command
  | close
  | execute (code : String) (tag : Option String)
  | push (vars : List (String × Recipe))
  | traceback
  | evaluate (r : EvaluationRequest)
  | children (r : ChildrenRequest)

/-- The number of the message that a worker sends when it is ready. -/
def readyId : Int := 0

/-- The number of the message that a worker sends when it breaks down; it answers any request. -/
def brokenId : Int := -1

/-- A request as it arrives. Parts that it lacks, or that are no use, are only missed when they are
looked for. -/
structure Request (ι : Type) where
  id : ι
  operation : String
  code : String := ""
  tag : Option String := none
  vars : Option (List (String × Recipe)) := none
  frame : Option StackFrame := none
  environment : Option String := none
  expression : Option String := none
  name : Option String := none
  properties : Option (List Property) := none
  representation : Option Representation := none
  pattern : Option String := none
  limit : Option Int := none

namespace Request

variable {ι : Type}

def need {α : Type} (field : String) : Option α → Except Fault α
  | some a => .ok a
  | none => .error (.missingKey (Text.Quoted.quote field))

def command? (r : Request ι) : Except Fault (Option Command) :=
  match r.operation with
  | "close" => .ok (some .close)
  | "execute" => .ok (some (.execute r.code r.tag))
  | "push" => do return some (.push (← need "blob" r.vars))
  | "traceback" => .ok (some .traceback)
  | "evaluate" => do
    let frame ← need "frame" r.frame
    let expression ← need "expression" r.expression
    let name ← need "name" r.name
    let properties ← need "properties" r.properties
    let representation ← need "representation" r.representation
    return some (.evaluate ⟨frame, expression, name, properties, representation, none⟩)
  | "describe_children" => do
    let environment ← need "environment" r.environment
    let expression ← need "expression" r.expression
    let properties ← need "properties" r.properties
    return some (.children {
      environment := environment
      expression := expression
      properties := properties
      pattern := r.pattern
      limit := r.limit })
  | _ => .ok none

end Request

/-- What a worker says of a request, or of itself. -/
inductive Report
  | ready
  | done
  | entry (e : HistoryEntry)
  | frames (o : Outcome (List StackFrame))
  | value (o : Outcome ValueInfo)
  | values (o : Outcome (List ValueInfo))
  | unknown (operation : String)
  | broken (text : String)
  deriving Repr

/-- A message of a worker: a reply to a request, or one of its own. -/
structure Reply (ι : Type) where
  /-- The number of the request; none for messages of the worker's own. -/
  id : Option ι
  report : Report
  deriving Repr

namespace Report

def ok : Report → Bool
  | unknown _ | broken _ => false
  | _ => true

end Report

end Remote

end VariableExplorer
