import VariableExplorer.Navigation.Path
import VariableExplorer.Replica.Snapshot
import VariableExplorer.Suggestion.Waiting

/-!
Completion of paths. A path without a selector is completed from the replica's snapshot, any other
one by asking the session for the members of what stands before its last selector.
-/

namespace VariableExplorer

structure Provider where
  waitTimeout : Seconds := .real 2.0
  maxResults : Int := 100
  closed : Bool := false
  deriving Inhabited

namespace Provider

/-- What keeps a lookup from giving a list. -/
inductive Fault
  | closed
  | notIterable (typeName : String)
  /-- The session raised what stops a program. -/
  | raised (f : VariableExplorer.Fault)
  deriving Repr, DecidableEq

namespace Fault

def kind : Fault → String
  | closed => "RuntimeError"
  | notIterable _ => "TypeError"
  | raised f => f.kind

def message : Fault → String
  | closed => "cannot schedule new futures after shutdown"
  | notIterable typeName => s!"'{typeName}' object is not iterable"
  | raised f => f.message

end Fault

/-- How many members a path has: the exact number only where the snapshot knows it. -/
def memberCount (p : Provider) (snapshot : Snapshot) (path : Option String) : Int :=
  if path.getD "" = "" then snapshot.size else p.maxResults

/-- A lookup is answered at once, or needs the members of a base of which only those count whose
names start with what is typed. -/
inductive Lookup
  | found (candidates : List Candidate)
  | members (request : ChildrenRequest) (typed : String)
  deriving Repr

def names (max : Int) : (found : Nat) → List Descriptor → List Candidate
  | _, [] => []
  | found, d :: ds =>
    if max ≤ found then []
    else if d.isHidden then names max found ds
    else { displayName := d.name, kind := d.kind } :: names max (found + 1) ds

def request (p : Provider) (base : String) (cancellable : Bool) : ChildrenRequest :=
  { environment := globalEnvironment
    expression := base
    properties := [.accessorKind, .hasChildren]
    limit := some p.maxResults
    timeout := some p.waitTimeout
    cancellable := cancellable }

def lookup (p : Provider) (snapshot : Snapshot) (path : Option String) (max : Int)
    (cancellable : Bool) : Lookup :=
  if max ≤ 0 then .found []
  else match (Navigation.Path.parse path).scope with
    | .degenerate => .found []
    | .global _ => .found (names max 0 snapshot.entries)
    | .nested base _ typed => .members (p.request base cancellable) typed

def candidate? (typed : String) (i : ValueInfo) : Option Candidate :=
  if i.accessorKind = .dollar || i.accessorKind = .at then
    let name := Navigation.trimLeading i.name
    if typed.toList.isPrefixOf name.toList then some { displayName := name } else none
  else none

def named (typed : String) (max : Int) : (found : Nat) → List (Element ValueInfo) → List Candidate
  | _, [] => []
  | found, e :: es =>
    if max ≤ found then []
    else match e with
      | .foreign _ => named typed max found es
      | .given i =>
        match candidate? typed i with
        | none => named typed max found es
        | some c => c :: named typed max (found + 1) es

/-- The candidates that a wait gives; one that does not come to a success gives none. -/
def collect (typed : String) (max : Int) : Waited → Except Fault (List Candidate)
  | .refused => .error .closed
  | .answered (.raised f) => if f.isOrdinary then .ok [] else .error (.raised f)
  | .answered (.values ⟨.ok, some (.many es), _⟩) => .ok (named typed max 0 es)
  | .answered (.values ⟨.ok, some (.one (.given _)), _⟩) => .error (.notIterable "ValueInfo")
  | .answered (.values ⟨.ok, some (.one (.foreign typeName)), _⟩) =>
    .error (.notIterable typeName)
  | _ => .ok []

/-- The members of a path. `cancellable` tells whether the caller has a token, which the session is
given as well. -/
def members {m : Type → Type} [Monad m] (p : Provider) (snapshot : Snapshot)
    (ask : Call → m Answer) (path : Option String) (max : Int) (cancellable : Bool) (w : Wait) :
    m (Except Fault (List Candidate)) := do
  match p.lookup snapshot path max cancellable with
  | .found candidates => return .ok candidates
  | .members request typed => return collect typed max (← w.run p.closed (ask (.children request)))

end Provider

end VariableExplorer
