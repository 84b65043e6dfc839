/-!
Results of calls to a session. A call succeeds with a value or ends in one of four ways that are
results like any other.
-/

namespace VariableExplorer

inductive Status
  | ok
  | timeout
  | evaluationError
  | transportError
  | cancelled
  deriving Repr, DecidableEq, Inhabited

def Status.name : Status → String
  | ok => "ok"
  | timeout => "timeout"
  | evaluationError => "evaluation_error"
  | transportError => "transport_error"
  | cancelled => "cancelled"

def Status.ofName : String → Status
  | "ok" => ok
  | "timeout" => timeout
  | "evaluation_error" => evaluationError
  | "transport_error" => transportError
  | _ => cancelled

structure Outcome (α : Type) where
  status : Status
  value : Option α := none
  error : Option String := none
  deriving Repr, DecidableEq, Inhabited

namespace Outcome

variable {α : Type}

def ok (o : Outcome α) : Bool := o.status = .ok

def success (v : α) : Outcome α := ⟨.ok, some v, none⟩

def timeout (error : String := "timed out") : Outcome α := ⟨.timeout, none, some error⟩

def evaluationError (error : String) : Outcome α := ⟨.evaluationError, none, some error⟩

def transportError (error : String) : Outcome α := ⟨.transportError, none, some error⟩

def cancelled : Outcome α := ⟨.cancelled, none, some "cancelled"⟩

end Outcome

end VariableExplorer
