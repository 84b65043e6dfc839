import VariableExplorer.Value.Fault

/-!
A dispatcher hands work over to the thread of a user interface, which takes one piece after another
from a queue. Handing over is two steps, looking whether any work is taken and putting it into the
queue, and so is closing: no more work is taken, and a mark in the queue ends the loop.
-/

namespace VariableExplorer

inductive Fate (ρ : Type)
  | waiting
  | running
  | cancelled
  | settled (r : Except Fault ρ)
  deriving Inhabited

structure Job (ω ρ : Type) where
  work : ω
  fate : Fate ρ := .waiting

namespace Dispatcher

/-- What the loop finds in the queue: the number of a job, or the mark at which it stops. -/
inductive Entry
  | job (number : Nat)
  | stop
  deriving Repr, DecidableEq

def closedFault : Fault := .raised "RuntimeError" (some "dispatcher is closed")

end Dispatcher

open Dispatcher

structure Dispatcher (ω ρ : Type) where
  closed : Bool := false
  ended : Bool := false
  queue : List Entry := []
  jobs : List (Job ω ρ) := []

namespace Dispatcher

variable {ω ρ : Type}

def takesWork (d : Dispatcher ω ρ) : Bool := !d.closed

/-- The second step of handing over; gives the number of the job. -/
def put (d : Dispatcher ω ρ) (work : ω) : Dispatcher ω ρ × Nat :=
  let n := d.jobs.length
  ({ d with queue := d.queue ++ [.job n], jobs := d.jobs ++ [{ work := work }] }, n)

def submit (d : Dispatcher ω ρ) (work : ω) : Except Fault (Dispatcher ω ρ × Nat) :=
  if d.takesWork then .ok (d.put work) else .error closedFault

def refuseWork (d : Dispatcher ω ρ) : Dispatcher ω ρ := { d with closed := true }

def putStop (d : Dispatcher ω ρ) : Dispatcher ω ρ := { d with queue := d.queue ++ [.stop] }

def close (d : Dispatcher ω ρ) : Dispatcher ω ρ := if d.closed then d else d.refuseWork.putStop

def fate? (d : Dispatcher ω ρ) (n : Nat) : Option (Fate ρ) := (d.jobs[n]?).map (·.fate)

def setFate (d : Dispatcher ω ρ) (n : Nat) (f : Fate ρ) : Dispatcher ω ρ :=
  { d with jobs := d.jobs.modify n fun j ↦ { j with fate := f } }

/-- Cancels a job that waits, and says whether it is cancelled now. -/
def cancel (d : Dispatcher ω ρ) (n : Nat) : Dispatcher ω ρ × Bool :=
  match d.fate? n with
  | some .waiting => (d.setFate n .cancelled, true)
  | some .cancelled => (d, true)
  | _ => (d, false)

def isCancelled (d : Dispatcher ω ρ) (n : Nat) : Bool :=
  match d.fate? n with
  | some .cancelled => true
  | _ => false

def isDone (d : Dispatcher ω ρ) (n : Nat) : Bool :=
  match d.fate? n with
  | some (.settled _) | some .cancelled => true
  | _ => false

/-- The job that the loop has to run next, unless it waits for one or ends. -/
def take (d : Dispatcher ω ρ) : Dispatcher ω ρ × Option (Nat × ω) :=
  if d.ended then (d, none)
  else match d.queue with
    | [] => (d, none)
    | .stop :: rest => ({ d with queue := rest, ended := true }, none)
    | .job n :: rest =>
      let d : Dispatcher ω ρ := { d with queue := rest }
      match d.jobs[n]? with
      | some ⟨work, .waiting⟩ => (d.setFate n .running, some (n, work))
      | _ => (d, none)

/-- Settles a job that has run. A request to stop the program ends the loop instead, and the job
stays as it is. -/
def finish (d : Dispatcher ω ρ) (n : Nat) (r : Except Fault ρ) : Dispatcher ω ρ :=
  match r with
  | .ok _ => d.setFate n (.settled r)
  | .error f => if f.isOrdinary then d.setFate n (.settled r) else { d with ended := true }

section

variable {m : Type → Type} [Monad m] [MonadStateOf (Dispatcher ω ρ) m]

def turn (run : ω → m (Except Fault ρ)) : m Unit := do
  let found ← modifyGetThe (Dispatcher ω ρ) fun d ↦ let (d, found) := d.take; (found, d)
  match found with
  | none => return
  | some (n, work) =>
    let r ← run work
    modifyThe (Dispatcher ω ρ) (·.finish n r)

def turns (run : ω → m (Except Fault ρ)) : Nat → m Unit
  | 0 => return
  | n + 1 => do
    turn run
    turns run n

/-- The loop takes whatever is in the queue, and the mark that this work may add. -/
def drain (run : ω → m (Except Fault ρ)) : m Unit := do
  let d : Dispatcher ω ρ ← getThe (Dispatcher ω ρ)
  turns run (d.queue.length + 1)

end

end Dispatcher

end VariableExplorer
