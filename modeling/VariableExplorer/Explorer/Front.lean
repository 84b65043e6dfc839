import VariableExplorer.Explorer.Basic
import VariableExplorer.Kernel.Desk

/-!
An explorer at a desk, used line by line: what is typed is taken by the explorer, code is run in the
kernel as one expression, and the tree follows the kernel's variables.
-/

namespace VariableExplorer

structure Front where
  desk : Desk
  explorer : Explorer

namespace Front

def run (code : String) : Desk.Acting (Except Fault Explorer.Entry) := do
  return (← Desk.executeExpression code none).map Explorer.Entry.ofHistory

def follow (f : Front) : Front :=
  { f with explorer := f.explorer.showSnapshot f.desk.workspace.replica.snapshot }

def listing (f : Front) : String :=
  String.join (f.explorer.tree.map fun n ↦ n.label.firstLine ++ "\n")

def enter (f : Front) (line : String) : String × Front :=
  let w := f.desk.workspace
  let e := { f.explorer with displayed := [] }
  let ((e, fault), d) := (e.submit w.provider w.replica.snapshot Desk.ask run line).run f.desk
  let shown := match fault with
    | none => e.output
    | some fault => s!"{fault.kind}: {fault.message}\n"
  (shown, follow ⟨d, e⟩)

end Front

end VariableExplorer
