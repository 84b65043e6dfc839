import VariableExplorer.Replica.Refresh

/-!
The replica of a session: the snapshot of its latest successful refresh and those who want to see
each new one. At most one refresh is under way; another one that is asked for meanwhile is dropped.
A refresh gives up its place before the listeners hear of it, so that these may refresh again.
-/

namespace VariableExplorer

/-- A replica whose listeners are known by tokens. -/
structure Replica (ι : Type) where
  timeout : Option Seconds := none
  snapshot : Snapshot := {}
  busy : Bool := false
  listeners : List ι := []
  deriving Inhabited

namespace Replica

inductive State
  | idle
  | refreshing
  deriving Repr, DecidableEq

variable {ι : Type}

def state (m : Replica ι) : State := if m.busy then .refreshing else .idle

def listen (m : Replica ι) (l : ι) : Replica ι := { m with listeners := m.listeners ++ [l] }

def unlisten [BEq ι] (m : Replica ι) (l : ι) : Replica ι :=
  { m with listeners := m.listeners.erase l }

/-- Takes the place of the refresh under way, if it is free. -/
def begin? (m : Replica ι) : Option (Replica ι) :=
  if m.busy then none else some { m with busy := true }

/-- Gives up the place; the snapshot that was found replaces the one before. -/
def settle (m : Replica ι) (found : Option Snapshot) : Replica ι :=
  { m with busy := false, snapshot := found.getD m.snapshot }

/-- What becomes of a refresh that is left to a thread of its own. -/
inductive Handover (α : Type)
  /-- Another refresh is under way. -/
  | dropped
  | started (a : α)
  /-- There is no thread for it. -/
  | failed
  deriving Repr, DecidableEq

section

variable {m : Type → Type} [Monad m] [MonadStateOf (Replica ι) m]

/-- The refresh of whoever has taken the place; it says whether there is a new snapshot. Everyone
who listens when the snapshot is there is told of it. -/
def run (ask : Call → m Answer) (tell : Snapshot → ι → m Unit) : m Bool := do
  let replica : Replica ι ← getThe (Replica ι)
  let found ← Refresh.build ask replica.timeout
  modifyThe (Replica ι) (·.settle found)
  match found with
  | none => return false
  | some snapshot =>
    let replica : Replica ι ← getThe (Replica ι)
    replica.listeners.forM (tell snapshot)
    return true

def refresh (ask : Call → m Answer) (tell : Snapshot → ι → m Unit) : m Bool := do
  let replica : Replica ι ← getThe (Replica ι)
  match replica.begin? with
  | none => return false
  | some replica =>
    set replica
    run ask tell

/-- Refreshes with listeners that may raise. What one of them raises ends its own call, and the
others are told all the same; only a request to stop the program goes through. -/
def refreshGuarded (ask : Call → m Answer) (tell : Snapshot → ι → ExceptT Fault m Unit) :
    ExceptT Fault m Bool :=
  refresh (fun c ↦ liftM (ask c)) fun snapshot l ↦
    tryCatch (tell snapshot l) fun f ↦ if f.isOrdinary then return () else throw f

/-- Leaves a refresh to a thread of its own, unless one is under way; `start` starts a thread where
it can. Where it cannot, the place is given up again. -/
def refreshApart {α : Type} (ask : Call → m Answer) (tell : Snapshot → ι → m Unit)
    (start : m Bool → m (Option α)) : m (Handover α) := do
  let replica : Replica ι ← getThe (Replica ι)
  match replica.begin? with
  | none => return .dropped
  | some replica =>
    set replica
    match ← start (run ask tell) with
    | some a => return .started a
    | none =>
      modifyThe (Replica ι) (·.settle none)
      return .failed

end

end Replica

end VariableExplorer
