import VariableExplorer.Kernel.Inspection
import VariableExplorer.Kernel.Shell
import VariableExplorer.Subscription.Basic

/-!
Kernels: a shell whose cells are run and recorded, whose variables can be inspected, and which tells
its subscribers of every change. What a cell reports or shows goes to the host that is attached.
-/

namespace VariableExplorer

/-- What running a piece of code does, in this order: it writes, binds names, unbinds names, and
calls what names are bound to. Then it has a result or ends in a failure. -/
structure Cell where
  stdout : String := ""
  stderr : String := ""
  bound : List (String × Recipe) := []
  unbound : List String := []
  calls : List (String × List Recipe) := []
  result : Recipe := pure .none
  /-- What it raised while it ran. -/
  failure : Option FaultSpec := none
  /-- What kept it from being run at all. -/
  rejection : Option FaultSpec := none
  deriving Inhabited

namespace Cell

def succeeds (c : Cell) : Bool := c.failure.isNone && c.rejection.isNone

def fault? (c : Cell) : Option Fault := (c.failure <|> c.rejection).map FaultSpec.toFault

end Cell

structure HistoryEntry where
  code : String
  stdout : String
  stderr : String
  success : Bool
  tag : Option String := none
  result : Option String := none
  error : Option String := none
  deriving Repr, DecidableEq, Inhabited

inductive Showing
  | error (message : String)
  | help (url : String)
  | plot (path : String)
  deriving Repr, DecidableEq

structure Kernel (κ : Type) where
  store : Store := {}
  env : Ref := 0
  /-- The kernel as a value of its own shell. -/
  self : Value := .none
  /-- The hosts that were ever attached, the latest first. -/
  hosts : List Ref := []
  closed : Bool := false
  reporting : Bool := true
  subscribers : Subscribers κ := {}
  history : List HistoryEntry := []

namespace Kernel

variable {κ : Type}

def eval {α : Type} (k : Kernel κ) (x : Eval α) : Except Fault α × Kernel κ :=
  let (r, store) := x.run k.store
  (r, { k with store := store })

/-- The object that stands for a kernel in its own shell. -/
def newSelf : Eval Value := do
  let c ← Recipe.newClass
    ⟨"KernelSession", "nsmirror.kernel", [.native "object"],
      Recipe.classTail "nsmirror.kernel" "KernelSession" true⟩
  let history ← Eval.newList []
  let attrs ← Recipe.newAttrs [
    (.str "shell", .none), (.str "callback", .none), (.str "history", history),
    (.str "_subscribers", .none), (.str "_closed", .bool false), (.str "_lock", .none)]
  return .ref (← Eval.alloc ⟨.made c, .plain, some attrs, []⟩)

def bindNew (env : Ref) (name : String) (v : Eval Value) : Eval Unit := do
  if (Shell.names (← get) env).contains name then return else Shell.bind env name (← v)

/-- Lets the kernel as a value name the host it has now. -/
def nameHost (self : Value) (host : Ref) : Eval Unit := do
  match (← get).object? self with
  | some ⟨_, _, some attrs, _⟩ => Shell.bind attrs "callback" (.ref host)
  | _ => return

/-- Binds the names under which the shell knows its kernel and what a host can show. -/
def provide (env : Ref) (self : Value) (host : Option Ref) : Eval Unit := do
  match host with
  | none => pure ()
  | some h =>
    nameHost self h
    bindNew env "show_help" (do Eval.newMethod (.ref h) (← Eval.newFunction "show_help"))
    bindNew env "show_plot" (do Eval.newMethod (.ref h) (← Eval.newFunction "plot"))
  Shell.bind env "_kernel" self

/-- A kernel over a shell that knows some names and has these variables. -/
def new (known : List String) (vars : List (String × Recipe)) (hasHost : Bool) :
    Except Fault (Kernel κ) :=
  let made : Eval (Ref × Value × List Ref) := do
    let env ← Shell.environment known vars
    let self ← newSelf
    let hosts ←
      if hasHost then pure [← Eval.alloc ⟨.native "object", .plain, none, []⟩] else pure []
    provide env self hosts.head?
    return (env, self, hosts)
  match made.run {} with
  | (.ok (env, self, hosts), store) =>
    .ok { store := store, env := env, self := self, hosts := hosts }
  | (.error f, _) => .error f

/-- Attaches a new host, which is told of everything from now on. -/
def attach (k : Kernel κ) : Kernel κ :=
  let (r, k) := k.eval (do
    let h ← Eval.alloc ⟨.native "object", .plain, none, []⟩
    provide k.env k.self (some h)
    return h)
  match r with
  | .ok h => { k with hosts := h :: k.hosts }
  | .error _ => k

def isRunning (k : Kernel κ) : Bool := !k.closed

def close (k : Kernel κ) : Kernel κ := { k with closed := true, reporting := false }

def closedMessage : String := "kernel session is closed"

/-- Between cells there is only the frame of the shell itself. -/
def traceback (k : Kernel κ) : Outcome (List StackFrame) :=
  if k.closed then .transportError closedMessage
  else .success [⟨0, "<module>", true, globalEnvironment⟩]

def inspect {α : Type} (k : Kernel κ) (x : Eval (Outcome α)) :
    Except Fault (Outcome α) × Kernel κ :=
  if k.closed then (.ok (.transportError closedMessage), k) else k.eval x

def evaluate (k : Kernel κ) (r : EvaluationRequest) : Except Fault (Outcome ValueInfo) × Kernel κ :=
  k.inspect (Inspection.evaluation k.env r)

/-- The children that a request asks for; `cancelled` tells what each look at its token finds. -/
def children (k : Kernel κ) (r : ChildrenRequest) (cancelled : Nat → Bool := fun _ ↦ false) :
    Except Fault (Outcome (List ValueInfo)) × Kernel κ :=
  k.inspect (Inspection.children k.env r cancelled)

def payloadOf {α : Type} (o : Outcome α) (f : α → Payload α) : Outcome (Payload α) :=
  ⟨o.status, o.value.map f, o.error⟩

def listPayload {α : Type} (o : Outcome (List α)) : Outcome (Payload α) :=
  ⟨o.status, o.value.map fun xs ↦ .many (xs.map .given), o.error⟩

def answer (k : Kernel κ) : Call → Answer × Kernel κ
  | .isRunning => (.alive k.isRunning, k)
  | .traceback _ => (.frames (listPayload k.traceback), k)
  | .evaluate r =>
    match k.evaluate r with
    | (.ok o, k) => (.values (payloadOf o fun i ↦ .one (.given i)), k)
    | (.error f, k) => (.raised f, k)
  | .children r =>
    match k.children r with
    | (.ok o, k) => (.values (listPayload o), k)
    | (.error f, k) => (.raised f, k)

def names (k : Kernel κ) : List String := Shell.names k.store k.env

/-- What a call of a value shows on a host, if the value is one of a host's own. -/
def showing? (k : Kernel κ) (v : Value) (args : List Value) :
    Option (Ref × (String → Showing) × Value) :=
  match k.store.body v, args with
  | .method (.ref h) func, arg :: _ =>
    if k.hosts.contains h then
      match k.store.body func with
      | .function "show_help" _ => some (h, .help, arg)
      | .function "plot" _ => some (h, .plot, arg)
      | _ => none
    else none
  | _, _ => none

section

variable {m : Type → Type} [Monad m] [MonadStateOf (Kernel κ) m]

def evaluating {α : Type} (x : Eval α) : m (Except Fault α) :=
  modifyGetThe (Kernel κ) (·.eval x)

/-- Runs the calls of a cell until one fails. Calls of a host's own go to `display`. -/
def runCalls (display : Ref → Showing → m (Except Fault Unit)) :
    List (String × List Recipe) → m (Except Fault Unit)
  | [] => return .ok ()
  | (name, args) :: rest => do
    let k : Kernel κ ← getThe (Kernel κ)
    let found ← evaluating (κ := κ) (do
      let v ← Eval.nameValue k.env name
      return (v, ← args.mapM id))
    match found with
    | .error f => return .error f
    | .ok (v, args) =>
      let k : Kernel κ ← getThe (Kernel κ)
      let done ← match k.showing? v args with
        | some (h, toShowing, arg) => do
          match ← evaluating (κ := κ) (Eval.plain arg) with
          | .error f => pure (.error f)
          | .ok text => display h (toShowing text)
        | none => do
          let done ← evaluating (κ := κ) (Eval.call k.env Eval.callDepth v args [])
          pure (done.map fun _ ↦ ())
      match done with
      | .error f => return .error f
      | .ok () => runCalls display rest

def notify (tell : κ → m Unit) : m Unit := do
  let k : Kernel κ ← getThe (Kernel κ)
  k.subscribers.notify tell

def push (tell : κ → m Unit) (vars : List (String × Recipe)) : m (Except Fault Unit) := do
  let k : Kernel κ ← getThe (Kernel κ)
  match ← evaluating (κ := κ) (Shell.bindAll k.env vars) with
  | .error f => return .error f
  | .ok () =>
    notify tell
    return .ok ()

/-- Does what a cell does to the shell; the result of the cell is there when everyone is told. -/
def perform (display : Ref → Showing → m (Except Fault Unit)) (cell : Cell) :
    m (Except Fault (Except Fault Value)) := do
  let k : Kernel κ ← getThe (Kernel κ)
  let bound ← evaluating (κ := κ) (do
    Shell.bindAll k.env cell.bound
    cell.unbound.forM (Shell.unbind k.env))
  let ran ← match bound with
    | .error f => pure (.error f)
    | .ok () => runCalls (κ := κ) display cell.calls
  match ran with
  | .error f => return .error f
  | .ok () => return .ok (← evaluating (κ := κ) cell.result)

/-- Records a cell that was run; the host is shown its failure. -/
def conclude (display : Ref → Showing → m (Except Fault Unit)) (code : String)
    (tag : Option String) (cell : Cell) (result : Except Fault Value) :
    m (Except Fault HistoryEntry) := do
  let shown ← match result with
    | .error f => pure (.error f)
    | .ok .none => pure (.ok none)
    | .ok v => evaluating (κ := κ) (some <$> Eval.shown v)
  match shown with
  | .error f => return .error f
  | .ok result =>
    let entry : HistoryEntry := {
      code := code
      stdout := cell.stdout
      stderr := cell.stderr
      success := cell.succeeds
      tag := tag.filter (· ≠ "")
      result := result
      error := cell.fault?.map Fault.report }
    let k : Kernel κ ← getThe (Kernel κ)
    -- the host that was attached last is shown the failure
    let displayed ← match entry.error, k.hosts.head? with
      | some message, some h => display h (.error message)
      | _, _ => pure (.ok ())
    match displayed with
    | .error f => return .error f
    | .ok () =>
      modifyThe (Kernel κ) fun k ↦ { k with history := k.history ++ [entry] }
      return .ok entry

/-- Runs a cell and records it. Everyone is told of the cell before it is recorded, and the host of
its failure. -/
def execute (tell : κ → m Unit) (display : Ref → Showing → m (Except Fault Unit)) (code : String)
    (tag : Option String) (cell : Cell) : m (Except Fault HistoryEntry) := do
  let k : Kernel κ ← getThe (Kernel κ)
  match ← perform (κ := κ) display cell with
  | .error f => return .error f
  | .ok result =>
    if k.reporting then notify tell
    conclude (κ := κ) display code tag cell result

end

end Kernel

end VariableExplorer
