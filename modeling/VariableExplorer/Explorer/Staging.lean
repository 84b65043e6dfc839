import VariableExplorer.Explorer.Basic
import VariableExplorer.Rehearsal.Script
import VariableExplorer.Session.Workspace

/-!
An explorer over a workspace whose session is scripted. It writes down what the session was asked.
-/

namespace VariableExplorer

namespace Staging

inductive Asked
  | call (c : Call)
  | execute (code : String)
  deriving Repr

end Staging

open Staging

structure Staging where
  script : Script := {}
  /-- The records of the pieces of code that the session knows. -/
  entries : List (String × Explorer.Entry) := []
  workspace : Workspace Unit := default
  explorer : Explorer := default
  suggester : Suggester := {}
  nodes : List (String × Node) := []
  asked : List Asked := []

namespace Staging

abbrev Acting := StateM Staging

instance : MonadStateOf (Replica Unit) Acting where
  get := fun s ↦ (s.workspace.replica, s)
  set := fun m s ↦ ((), { s with workspace.replica := m })
  modifyGet := fun f s ↦
    let (a, m) := f s.workspace.replica
    (a, { s with workspace.replica := m })

instance : MonadStateOf Suggester Acting where
  get := fun s ↦ (s.suggester, s)
  set := fun g s ↦ ((), { s with suggester := g })
  modifyGet := fun f s ↦ let (a, g) := f s.suggester; (a, { s with suggester := g })

def explore (f : Explorer → Explorer) : Acting Unit :=
  modifyThe Staging fun s ↦ { s with explorer := f s.explorer }

def record (a : Asked) : Acting Unit := modifyThe Staging fun s ↦ { s with asked := s.asked ++ [a] }

/-- The session changes: its script, and its records unless they stay as they are. -/
def change (f : Script → Script) (entries : Option (List (String × Explorer.Entry))) :
    Acting Unit :=
  modifyThe Staging fun s ↦
    { s with script := f s.script, entries := entries.getD s.entries }

def ask (c : Call) : Acting Answer := do
  match c with
  | .isRunning => pure ()
  | _ => record (.call c)
  return (← getThe Staging).script.answer c

/-- The session runs a piece of code; of one that it does not know it records nothing but the
code. -/
def execute (code : String) : Acting (Except Fault Explorer.Entry) := do
  record (.execute code)
  return .ok (((← getThe Staging).entries.lookup code).getD { code := code })

def refresh : Acting Bool := Replica.refresh ask fun s () ↦ explore (·.showSnapshot s)

/-- A workspace over a scripted session, its replica filled, with an explorer that listens or
not. -/
def start (script : Script) (entries : List (String × Explorer.Entry)) (settings : SettingsManager)
    (vars : Variables) (listening : Bool) : Except Settings.Fault Staging := do
  let (_, made) := Workspace.setUp (κ := Unit) settings.settings vars {} ()
  let w ← made
  let s : Staging :=
    { script := script, entries := entries, workspace := w, explorer := { settings := settings } }
  let (_, s) := refresh.run s
  if listening then
    return { s with
      workspace.replica := s.workspace.replica.listen ()
      explorer := s.explorer.showSnapshot s.workspace.replica.snapshot }
  else return s

def submit (text : String) : Acting (Option Explorer.Fault) := do
  let s ← getThe Staging
  let w := s.workspace
  let (e, fault) ← s.explorer.submit w.provider w.replica.snapshot ask execute text
  explore fun _ ↦ e
  return fault

def accept : Acting Unit := do
  let s ← getThe Staging
  let w := s.workspace
  match ← w.provider.suggest w.replica.snapshot ask s.explorer.prompt with
  | .ok (some text) => explore fun e ↦ { e with prompt := text }
  | _ => return

inductive Key
  | character (c : Char)
  | erase
  | accept
  | submit
  | recallNext
  | refresh
  deriving Repr, DecidableEq

def Key.ofName? (name : String) : Option Key :=
  match name, name.toList with
  | "f2", _ => some recallNext
  | "ctrl+r", _ => some refresh
  | "enter", _ => some submit
  | "right", _ => some accept
  | "backspace", _ => some erase
  | "space", _ => some (character ' ')
  | _, [c] => some (character c)
  | _, _ => none

def press : Key → Acting Unit
  | .character c => explore fun e ↦ { e with prompt := e.prompt.push c }
  | .erase => explore fun e ↦ { e with prompt := String.ofList e.prompt.toList.dropLast }
  | .accept => accept
  | .submit => do let _ ← submit (← getThe Staging).explorer.prompt
  | .recallNext => explore Explorer.recallNext
  | .refresh => do let _ ← refresh

def openNode (n : Node) : Acting (Node × Option Fault) := do
  Explorer.openNode ask (← getThe Staging).workspace.provider n

def openMade (label : String) (expression : Option String) : Acting (Node × Option Fault) := do
  let s ← getThe Staging
  let n := (s.nodes.lookup label).getD
    { label := .plain "", expression := expression, leaf := false }
  let (n, fault) ← openNode n
  modifyThe Staging fun s ↦ { s with nodes := (label, n) :: s.nodes }
  return (n, fault)

def openShown (index : Nat) : Acting (Option Fault) := do
  match (← getThe Staging).explorer.tree[index]? with
  | none => return none
  | some n =>
    let (n, fault) ← openNode n
    explore fun e ↦ { e with tree := e.tree.set index n }
    return fault

end Staging

end VariableExplorer
