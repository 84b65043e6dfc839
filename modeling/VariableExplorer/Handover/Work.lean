import VariableExplorer.Handover.Queue

/-!
Work that is written down in advance, and a bench on which it is handed over to a dispatcher. What
runs is written down with the tag and the arguments it was given.
-/

namespace VariableExplorer

/-- A piece of work; each one has a tag and arguments. -/
inductive Work (α : Type)
  | gives (tag : α) (args : List α) (value : α)
  | raises (tag : α) (args : List α) (f : Fault)
  /-- Runs other work on the thread that it runs on itself. -/
  | switches (tag : α) (args : List α) (inner : Work α)
  | closes (tag : α) (args : List α) (value : α)
  deriving Inhabited

structure WorkBench (α : Type) where
  dispatcher : Dispatcher (Work α) α := {}
  ran : List (α × List α) := []

namespace WorkBench

variable {α : Type}

abbrev Acting (α : Type) := StateM (WorkBench α)

instance : MonadStateOf (Dispatcher (Work α) α) (Acting α) where
  get := fun b ↦ (b.dispatcher, b)
  set := fun d b ↦ ((), { b with dispatcher := d })
  modifyGet := fun f b ↦ let (a, d) := f b.dispatcher; (a, { b with dispatcher := d })

def record (tag : α) (args : List α) : Acting α Unit :=
  modifyThe (WorkBench α) fun b ↦ { b with ran := b.ran ++ [(tag, args)] }

def run : Work α → Acting α (Except Fault α)
  | .gives tag args v => do
    record tag args
    return .ok v
  | .raises tag args f => do
    record tag args
    return .error f
  | .switches tag args inner => do
    record tag args
    run inner
  | .closes tag args v => do
    record tag args
    modifyThe (WorkBench α) fun b ↦ { b with dispatcher := b.dispatcher.close }
    return .ok v

/-- Hands pieces of work over one after another, up to the first that is not taken. -/
def submitAll : List (Work α) → Acting α (Except Fault (List Nat))
  | [] => return .ok []
  | w :: ws => do
    match (← getThe (WorkBench α)).dispatcher.submit w with
    | .error f => return .error f
    | .ok (d, n) =>
      modifyThe (WorkBench α) fun b ↦ { b with dispatcher := d }
      return (← submitAll ws).map (n :: ·)

def lateFault : Fault := .raised "TimeoutError" none

def await (w : Work α) : Acting α (Except Fault α) := do
  match ← submitAll [w] with
  | .error f => return .error f
  | .ok ns =>
    Dispatcher.drain run
    let d := (← getThe (WorkBench α)).dispatcher
    match (ns.head?).bind d.fate? with
    | some (.settled r) => return r
    | some .cancelled => return .error (.raised "CancelledError" none)
    | _ => return .error lateFault

def flush (ws : List (Work α)) : Acting α (Except Fault Unit) := do
  match ← submitAll ws with
  | .error f => return .error f
  | .ok ns =>
    Dispatcher.drain run
    let d := (← getThe (WorkBench α)).dispatcher
    return if ns.all d.isDone then .ok () else .error lateFault

/-- Hands all work over while the loop stands still, cancels some of it, and lets the loop go on.
Gives what each cancelling said, and which of the work is cancelled in the end. -/
def cancelSome (ws : List (Work α × Bool)) : Acting α (Except Fault (List Bool × List Bool)) := do
  match ← submitAll (ws.map (·.1)) with
  | .error f => return .error f
  | .ok ns =>
    let chosen := (ns.zip (ws.map (·.2))).filter (·.2)
    let said ← chosen.mapM fun (n, _) ↦ modifyGetThe (WorkBench α) fun b ↦
      let (d, said) := b.dispatcher.cancel n
      (said, { b with dispatcher := d })
    Dispatcher.drain run
    let d := (← getThe (WorkBench α)).dispatcher
    return .ok (said, ns.map d.isCancelled)

def close : Acting α Unit := do
  modifyThe (WorkBench α) fun b ↦ { b with dispatcher := b.dispatcher.close }
  Dispatcher.drain run

def isRunning : Acting α Bool := do return !(← getThe (WorkBench α)).dispatcher.ended

end WorkBench

end VariableExplorer
