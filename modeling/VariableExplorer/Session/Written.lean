import VariableExplorer.Decimal.Shortest
import VariableExplorer.Description.Written
import VariableExplorer.Session.Call

/-!
Calls to a session written as JSON. A span of time is a number; where it is not whole it is written
as its shortest text.
-/

namespace VariableExplorer

open Json

def Seconds.toJson : Seconds → Json
  | whole n => .int n
  | real x => .str (Decimal.text x)

def Seconds.ofJson? : Json → Option Seconds
  | .int n => some (whole n)
  | .float x => some (real x)
  | _ => none

def Call.toJson : Call → Json
  | isRunning => .str "is_running"
  | traceback timeout => .arr [.str "traceback", ofOption Seconds.toJson timeout]
  | evaluate r => .arr [
      .str "evaluate", r.frame.toJson, .str r.expression, .str r.name, Property.toJson r.properties,
      .str r.representation.name, ofOption Seconds.toJson r.timeout]
  | children r => .arr [
      .str "children", .str r.environment, .str r.expression, Property.toJson r.properties,
      ofOption .str r.pattern, ofOption .int r.limit, ofOption Seconds.toJson r.timeout,
      .bool r.cancellable]

end VariableExplorer
