import VariableExplorer.Display.Listing
import VariableExplorer.Kernel.Basic
import VariableExplorer.Session.Workspace

/-!
A desk: a kernel together with the workspace over it and with those who watch them. It writes down
who was told of a change and what the host was asked to show.
-/

namespace VariableExplorer

namespace Desk

inductive Watcher
  | replica
  | observer (number : Nat)
  deriving Repr, DecidableEq

inductive Event
  | notified (label : String)
  | displayed (s : Showing)
  deriving Repr, DecidableEq

end Desk

open Desk

structure Desk where
  kernel : Kernel Watcher := {}
  workspace : Workspace Empty := { replica := {}, provider := {} }
  observers : List String := []
  events : List Event := []

namespace Desk

abbrev Acting := StateM Desk

instance : MonadStateOf (Kernel Watcher) Acting where
  get := fun d ↦ (d.kernel, d)
  set := fun k d ↦ ((), { d with kernel := k })
  modifyGet := fun f d ↦ let (a, k) := f d.kernel; (a, { d with kernel := k })

instance : MonadStateOf (Replica Empty) Acting where
  get := fun d ↦ (d.workspace.replica, d)
  set := fun m d ↦ ((), { d with workspace.replica := m })
  modifyGet := fun f d ↦ let (a, m) := f d.workspace.replica; (a, { d with workspace.replica := m })

def record (e : Event) : Acting Unit := modifyThe Desk fun d ↦ { d with events := d.events ++ [e] }

def ask (c : Call) : Acting Answer := modifyGetThe (Kernel Watcher) (·.answer c)

def refresh : Acting Bool := Replica.refresh ask fun _ (l : Empty) ↦ nomatch l

def tell : Watcher → Acting Unit
  | .replica => do let _ ← refresh
  | .observer n => do
    match (← getThe Desk).observers[n]? with
    | some label => record (.notified label)
    | none => return

def display (_ : Ref) (s : Showing) : Acting (Except Fault Unit) := do
  record (.displayed s)
  return .ok ()

def execute (code : String) (tag : Option String) (cell : Cell) :
    Acting (Except Fault HistoryEntry) :=
  Kernel.execute tell display code tag cell

/-- Runs a piece of code that is one expression, whose value is its result. -/
def executeExpression (code : String) (tag : Option String) :
    Acting (Except Fault HistoryEntry) := do
  let k := (← getThe Desk).kernel
  match ← Kernel.evaluating (κ := Watcher) (evaluateChain k.env code) with
  | .ok v => execute code tag { result := pure v }
  | .error f => execute code tag { failure := some ⟨f.kind, some f.message⟩ }

def push (vars : List (String × Recipe)) : Acting (Except Fault Unit) := Kernel.push tell vars

def observe (label : String) : Acting Unit := modifyThe Desk fun d ↦
  { d with
    observers := d.observers ++ [label]
    kernel.subscribers := d.kernel.subscribers.add (.observer d.observers.length) }

def unobserve (label : String) : Acting Bool := fun d ↦
  match d.observers.reverse.idxOf? label with
  | none => (false, d)
  | some i =>
    let n := d.observers.length - 1 - i
    (true, { d with kernel.subscribers := d.kernel.subscribers.cancel (.observer n) })

def openWorkspace (settings : Settings) (vars : Variables) :
    Acting (Except Settings.Fault Unit) := do
  let d ← getThe Desk
  let (subscribers, made) := Workspace.setUp settings vars d.kernel.subscribers Watcher.replica
  modifyThe Desk fun d ↦ { d with kernel.subscribers := subscribers }
  match made with
  | .error f => return .error f
  | .ok w =>
    modifyThe Desk fun d ↦ { d with workspace := w }
    let _ ← refresh
    return .ok ()

def closeWorkspace : Acting Unit := modifyThe Desk fun d ↦
  let (subscribers, w) := d.workspace.close d.kernel.subscribers Watcher.replica
  { d with kernel.subscribers := subscribers, workspace := w }

def members (path : Option String) (max : Int) :
    Acting (Except Provider.Fault (List Candidate)) := do
  let w := (← getThe Desk).workspace
  w.provider.members w.replica.snapshot ask path max false {}

inductive Command
  | overview
  | members
  deriving Repr, DecidableEq

def print (c : Command) (line : String) : Acting (Except Provider.Fault String) := do
  let w := (← getThe Desk).workspace
  match c with
  | .overview => return .ok (Listing.overview w.replica.snapshot line)
  | .members =>
    return (← members (some (Text.strip line)) w.provider.maxResults).map Listing.members

end Desk

end VariableExplorer
