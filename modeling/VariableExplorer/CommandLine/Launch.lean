import VariableExplorer.Kernel.Desk
import VariableExplorer.Explorer.Staging

/-!
Launching an explorer: a session is started, a script is run in it, a workspace is put over it, and
the explorer is shown until its user leaves it. Whatever fails, what was opened is closed again.
-/

namespace VariableExplorer

namespace Launch

/-- How each step of a launch is done. -/
structure Steps (ε : Type) (m : Type → Type) where
  start : ExceptT ε m Unit
  read (path : String) : ExceptT ε m String
  execute (code : String) : ExceptT ε m Unit
  openWorkspace : ExceptT ε m Unit
  browse : ExceptT ε m Unit
  closeWorkspace : ExceptT ε m Unit
  close : ExceptT ε m Unit

def run {ε : Type} {m : Type → Type} [Monad m] [MonadFinally m] (s : Steps ε m)
    (script : Option String) : ExceptT ε m Unit := do
  s.start
  try
    match script with
    | none => pure ()
    | some path => s.execute (← s.read path)
    s.openWorkspace
    try s.browse finally s.closeWorkspace
  finally s.close

/-- Shows an explorer over a session that has started. A session that no workspace can be put over
is left as it is. -/
def explore {ε : Type} {m : Type → Type} [Monad m] [MonadFinally m] (s : Steps ε m) :
    ExceptT ε m Unit := do
  s.openWorkspace
  try s.browse finally
    s.closeWorkspace
    s.close

def scriptTag : String := "script"

inductive Event
  | started
  | executed (code : String)
  | browsed (names : List String) (running : Bool)
  | closed
  deriving Repr, DecidableEq

structure Troubles where
  start : Option Fault := none
  execute : Option Fault := none
  browse : Option Fault := none

def failWith {m : Type → Type} [Monad m] : Option Fault → ExceptT Explorer.Fault m Unit
  | none => return
  | some f => throw (.session f)

def absentFault (path : String) : Fault :=
  .raised "FileNotFoundError"
    (some s!"[Errno 2] No such file or directory: {Text.Quoted.quote path}")

def readFrom {m : Type → Type} [Monad m] (scripts : List (String × String)) (path : String) :
    ExceptT Explorer.Fault m String :=
  match scripts.lookup path with
  | some text => return String.ofList (FileState.plainLines text.toList)
  | none => throw (.session (absentFault (plainPath path)))

section

abbrev Logged (σ : Type) := StateM (σ × List Event)

def log {σ : Type} (e : Event) : ExceptT Explorer.Fault (Logged σ) Unit :=
  modify fun (s, events) ↦ (s, events ++ [e])

/-- A launch over a scripted session of its own, which writes down all that happens. -/
def staged (script : Script) (settings : Except Settings.Fault SettingsManager) (vars : Variables)
    (scripts : List (String × String)) (t : Troubles) :
    Steps Explorer.Fault (Logged (Option Staging)) where
  start := do log .started; failWith t.start
  read := readFrom scripts
  execute code := do log (.executed code); failWith t.execute
  openWorkspace := do
    let made := settings.bind fun m ↦ Staging.start script [] m vars false
    let s ← ExceptT.mk (pure (made.mapError .settings))
    modify fun (_, events) ↦ (some s, events)
  browse := do
    let names := (← get).1.elim [] fun s ↦ s.workspace.replica.snapshot.names
    log (.browsed names true)
    failWith t.browse
  closeWorkspace := pure ()
  close := log .closed

def atDesk {α : Type} (x : Desk.Acting α) : ExceptT Explorer.Fault (Logged Desk) α :=
  fun (d, events) ↦ let (a, d) := x.run d; (.ok a, (d, events))

/-- A launch over a kernel. It writes down what the explorer shows. -/
def desk (cell : String → Cell) (settings : Except Settings.Fault Settings) (vars : Variables)
    (scripts : List (String × String)) (t : Troubles) : Steps Explorer.Fault (Logged Desk) where
  start := pure ()
  read := readFrom scripts
  execute code := do
    match ← atDesk (Desk.execute code (some scriptTag) (cell code)) with
    | .ok _ => return
    | .error f => throw (.session f)
  openWorkspace := do
    match settings with
    | .error f => throw (.settings f)
    | .ok settings =>
      match ← atDesk (Desk.openWorkspace settings vars) with
      | .ok () => return
      | .error f => throw (.settings f)
  browse := do
    let (d, _) ← get
    log (.browsed d.workspace.replica.snapshot.names d.kernel.isRunning)
    failWith t.browse
  closeWorkspace := atDesk Desk.closeWorkspace
  close := atDesk (modifyThe Desk fun d ↦ { d with kernel := d.kernel.close })

end

end Launch

end VariableExplorer
