import VariableExplorer.Session.Call

/-!
Bounded waits. A call is made on a thread of its own, and whoever waits for the answer looks for it
again and again: until it is there, the caller cancels or the time is up.
-/

namespace VariableExplorer

/-- What one look finds: whether the call has ended, and whether the caller has cancelled. -/
structure Look where
  answered : Bool
  cancelled : Bool
  deriving Repr, DecidableEq

structure Wait where
  /-- The caller has cancelled before the call is made. -/
  cancelled : Bool := false
  /-- A thread takes up the call before the wait is over. -/
  taken : Bool := true
  /-- The looks until the time is up. -/
  looks : List Look := [⟨true, false⟩]
  deriving Repr, DecidableEq

inductive Waited
  | answered (a : Answer)
  | expired
  | cancelled
  /-- There are no threads any more that could take up the call. -/
  | refused

def Answer.comes : Answer → Bool
  | .silent => false
  | _ => true

namespace Wait

/-- An answer that is there counts even where the caller has cancelled meanwhile. -/
def await (a : Answer) : List Look → Waited
  | [] => .expired
  | l :: ls =>
    if l.answered && a.comes then .answered a
    else if l.cancelled then .cancelled
    else await a ls

/-- Makes a call and waits for its answer. A call that goes on after the wait is over is left to
itself; one that no thread has taken up by then is never made. -/
def run {m : Type → Type} [Monad m] (w : Wait) (noThreads : Bool) (call : m Answer) :
    m Waited := do
  if w.cancelled then return .cancelled
  else if noThreads then return .refused
  else if w.taken then return await (← call) w.looks
  else return await .silent w.looks

end Wait

end VariableExplorer
