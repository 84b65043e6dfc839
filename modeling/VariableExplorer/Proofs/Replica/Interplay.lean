import Mathlib.Logic.Function.Basic
import Mathlib.Logic.Relation
import VariableExplorer.Replica.Basic

/-!
A replica in the hands of any number of threads. Each thread is in the middle of some activities,
the innermost first: code of the session runs while a refresh waits for an answer, code of a
listener while it is told of a snapshot, and either may use the replica again. A thread moves at
any time, the session answers whatever it likes, and all that happened is written down.
-/

namespace VariableExplorer.Replica

open Refresh Function

@[simp] theorem settle_timeout {ι : Type} (m : Replica ι) (found : Option Snapshot) :
    (m.settle found).timeout = m.timeout := rfl

@[simp] theorem settle_snapshot {ι : Type} (m : Replica ι) (found : Option Snapshot) :
    (m.settle found).snapshot = found.getD m.snapshot := rfl

theorem begin?_eq_none {ι : Type} {m : Replica ι} : m.begin? = none ↔ m.busy = true := by
  simp [begin?]

theorem begin?_eq_some {ι : Type} {m m' : Replica ι} :
    m.begin? = some m' ↔ m.busy = false ∧ m' = { m with busy := true } := by
  cases h : m.busy <;> simp [begin?, h, eq_comm]

/-- What a thread is in the middle of. Refreshes are told apart by their number. -/
inductive Activity (ι : Type)
  /-- The place is taken for a refresh that a thread is being started for. -/
  | starting (n : Nat)
  | asking (n : Nat) (s : Stage)
  /-- The place is given up, and those who listen are not yet known. -/
  | announcing (n : Nat) (s : Snapshot)
  /-- A listener is told; the others are told after it. -/
  | telling (n : Nat) (s : Snapshot) (ls : List ι)

inductive Event (ι : Type)
  | refused
  | asked (n : Nat) (c : Call)
  | answered (n : Nat) (a : Answer)
  | announced (n : Nat) (ls : List ι)
  | told (n : Nat) (l : ι) (s : Snapshot)
  /-- The refresh is over; it says whether there was a new snapshot. -/
  | ended (n : Nat) (b : Bool)

/-- Activities that keep the place of the refresh under way. -/
def Activity.holds {ι : Type} : Activity ι → Prop
  | .starting _ | .asking _ _ => True
  | _ => False

def Activity.number {ι : Type} : Activity ι → Nat
  | .starting n | .asking n _ | .announcing n _ | .telling n _ _ => n

/-- Whether code of the thread's own, of the session or of a listener runs. -/
def CanAct {ι : Type} : List (Activity ι) → Prop
  | .starting _ :: _ | .announcing _ _ :: _ => False
  | _ => True

structure Interplay (ι : Type) where
  replica : Replica ι
  threads : Nat → List (Activity ι) := fun _ ↦ []
  begun : Nat := 0
  /-- What happened, the latest first. -/
  log : List (Event ι) := []

namespace Interplay

variable {ι : Type}

/-- A refresh is asked for. It begins if the place is free, with its first question or, where it is
left to a thread of its own, with the start of that thread. -/
def request (w : Interplay ι) (t : Nat) (apart : Bool) : Interplay ι :=
  match w.replica.begin? with
  | none => { w with log := .refused :: w.log }
  | some m =>
    { replica := m
      threads := update w.threads t
        ((if apart then .starting w.begun else .asking w.begun .liveness) :: w.threads t)
      begun := w.begun + 1
      log := if apart then w.log else .asked w.begun (Stage.liveness.call m.timeout) :: w.log }

def start (w : Interplay ι) (t u n : Nat) (rest : List (Activity ι)) : Interplay ι :=
  { w with
    threads := update (update w.threads t rest) u [.asking n .liveness]
    log := .asked n (Stage.liveness.call w.replica.timeout) :: w.log }

def failStart (w : Interplay ι) (t n : Nat) (rest : List (Activity ι)) : Interplay ι :=
  { w with
    replica := w.replica.settle none
    threads := update w.threads t rest
    log := .ended n false :: w.log }

/-- The session answers; what it answered decides whether there is another question. -/
def answer (w : Interplay ι) (t n : Nat) (s : Stage) (rest : List (Activity ι)) (a : Answer) :
    Interplay ι :=
  match s.next a with
  | .asking s =>
    { w with
      threads := update w.threads t (.asking n s :: rest)
      log := .asked n (s.call w.replica.timeout) :: .answered n a :: w.log }
  | .done none =>
    { w with
      replica := w.replica.settle none
      threads := update w.threads t rest
      log := .ended n false :: .answered n a :: w.log }
  | .done (some snapshot) =>
    { w with
      replica := w.replica.settle (some snapshot)
      threads := update w.threads t (.announcing n snapshot :: rest)
      log := .answered n a :: w.log }

/-- The next of some listeners is told, or there is none and the refresh is over. -/
def tell (w : Interplay ι) (t n : Nat) (s : Snapshot) (rest : List (Activity ι)) :
    List ι → Interplay ι
  | [] => { w with threads := update w.threads t rest, log := .ended n true :: w.log }
  | l :: ls =>
    { w with
      threads := update w.threads t (.telling n s ls :: rest)
      log := .told n l s :: w.log }

/-- The listeners of the moment are those to tell. -/
def announce (w : Interplay ι) (t n : Nat) (s : Snapshot) (rest : List (Activity ι)) :
    Interplay ι :=
  { w with log := .announced n w.replica.listeners :: w.log }.tell t n s rest w.replica.listeners

inductive Step [BEq ι] : Interplay ι → Interplay ι → Prop
  | request {w : Interplay ι} (t : Nat) (apart : Bool) :
      CanAct (w.threads t) → Step w (w.request t apart)
  | start {w : Interplay ι} {t u n : Nat} {rest : List (Activity ι)} :
      w.threads t = .starting n :: rest → w.threads u = [] → Step w (w.start t u n rest)
  | failStart {w : Interplay ι} {t n : Nat} {rest : List (Activity ι)} :
      w.threads t = .starting n :: rest → Step w (w.failStart t n rest)
  | answer {w : Interplay ι} {t n : Nat} {s : Stage} {rest : List (Activity ι)} (a : Answer) :
      w.threads t = .asking n s :: rest → Step w (w.answer t n s rest a)
  | announce {w : Interplay ι} {t n : Nat} {s : Snapshot} {rest : List (Activity ι)} :
      w.threads t = .announcing n s :: rest → Step w (w.announce t n s rest)
  | tell {w : Interplay ι} {t n : Nat} {s : Snapshot} {ls : List ι} {rest : List (Activity ι)} :
      w.threads t = .telling n s ls :: rest → Step w (w.tell t n s rest ls)
  | listen {w : Interplay ι} (t : Nat) (l : ι) :
      CanAct (w.threads t) → Step w { w with replica := w.replica.listen l }
  | unlisten {w : Interplay ι} (t : Nat) (l : ι) :
      CanAct (w.threads t) → Step w { w with replica := w.replica.unlisten l }

abbrev Run [BEq ι] : Interplay ι → Interplay ι → Prop := Relation.ReflTransGen Step

def Reachable [BEq ι] (w : Interplay ι) : Prop :=
  ∃ timeout, Run { replica := { timeout := timeout } } w

/-- The thread is in the middle of a refresh that keeps the place. -/
def Holds (w : Interplay ι) (t n : Nat) : Prop := ∃ a ∈ w.threads t, a.holds ∧ a.number = n

/-- No refresh is under way, and no listener is being told. -/
def Quiet (w : Interplay ι) : Prop := ∀ t, w.threads t = []

end Interplay

end VariableExplorer.Replica
