import VariableExplorer.Remote.Message

/-!
Clients: the near end of the pipe to a worker in a process of its own. Each request takes the next
number, and what arrives is read up to the reply that carries it; replies to requests that their
callers gave up are thrown away on the way. Reading calls turn every failure of the pipe into an
outcome.
-/

namespace VariableExplorer

namespace Remote

/-- A message as it arrives; `ω` is the type of an outcome's value and `ε` that of an entry. -/
structure Message (ω ε : Type) where
  id : Option Int := none
  ok : Bool := false
  error : Option String := none
  pid : Option Recipe := none
  outcome : Option (Outcome ω) := none
  /-- The entry, if there is one that can be used. -/
  entry : Option (Except Fault ε) := none

inductive Arrival (ω ε : Type)
  | message (m : Message ω ε)
  /-- Something that is no message at all. -/
  | foreign
  | raises (f : Fault)

structure Process where
  alive : Bool := true
  /-- Whether it goes on when it is only waited for. -/
  stubborn : Bool := false
  deriving Repr, DecidableEq, Inhabited

namespace Process

def join (p : Process) : Process := if p.stubborn then p else { p with alive := false }

def terminate (p : Process) : Process := { p with stubborn := false }

end Process

/-- What goes wrong at present. -/
structure Troubles where
  send : Option Fault := none
  close : Option Fault := none
  /-- Asking the process whether it is alive. -/
  process : Option Fault := none
  /-- Someone else is in the middle of a request. -/
  busy : Bool := false
  deriving Repr, Inhabited

namespace Client

inductive Event
  | started
  | joined (seconds : Float)
  | terminated
  | notified (label : String)
  deriving Repr

inductive Trouble
  | closed
  | busy
  | exited
  | noReply
  | invalidReply
  | refused (text : String)
  | negativeWait
  | endlessWait
  | undefinedWait
  | noOutcome
  | fault (f : Fault)
  deriving Repr, DecidableEq

namespace Trouble

def toFault : Trouble → Fault
  | closed => .raised "RuntimeError" (some Kernel.closedMessage)
  | busy => .raised "TimeoutError" (some "kernel busy")
  | exited => .raised "RuntimeError" (some "kernel process exited")
  | noReply => .raised "TimeoutError" (some "kernel response timeout")
  | invalidReply => .raised "RuntimeError" (some "invalid kernel response")
  | refused text => .raised "RuntimeError" (some text)
  | negativeWait => .raised "ValueError" (some "timeout value must be positive")
  | endlessWait => .raised "OverflowError" (some "timestamp too large to convert to C _PyTime_t")
  | undefinedWait => .raised "ValueError" (some "Invalid value NaN (not a number)")
  | noOutcome => .missingKey "'outcome'"
  | fault f => f

/-- The outcome of a reading call that ran into trouble, if it becomes one. -/
def outcome? {α : Type} (t : Trouble) : Option (Outcome α) :=
  let f := t.toFault
  if f.isA "TimeoutError" then some (.timeout f.message)
  else if f.isA "RuntimeError" || f.isA "OSError" || f.isA "EOFError" then
    some (.transportError f.report)
  else none

end Trouble

end Client

open Client

structure Client (ω ε : Type) where
  defaultTimeout : Seconds := .real 30.0
  pid : Int := -1
  closed : Bool := false
  nextId : Int := 1
  subscribers : Subscribers String := {}
  inbox : List (Arrival ω ε) := []
  process : Process := {}
  pipeClosed : Bool := false
  troubles : Troubles := {}
  events : List Event := []
  sent : List (Int × Command) := []

namespace Client

variable {ω ε α : Type}

/-- A call that may run into trouble; what it did before stays done. -/
abbrev Acting (ω ε : Type) := ExceptT Trouble (StateM (Client ω ε))

def record (e : Event) : Acting ω ε Unit := modify fun c ↦ { c with events := c.events ++ [e] }

/-- The seconds that a wait can take at most. -/
def longestWait : Int := 9223372036

/-- What is wrong with a time to wait; one less than nothing means any time. -/
def waitTrouble? : Seconds → Option Trouble
  | .whole n =>
    if n < -longestWait || longestWait < n then some .endlessWait
    else if n < 0 && n ≠ -1 then some .negativeWait
    else none
  | .real x =>
    if x.isNaN then some .undefinedWait
    else if x * 1e9 < -9223372036854775808.0 || 9223372036854775808.0 ≤ x * 1e9 then
      some .endlessWait
    else if x < 0.0 && x != -1.0 then some .negativeWait
    else none

def Patient : Seconds → Bool
  | .whole n => 0 < n
  | .real x => !(x ≤ 0.0)

def isAlive : Acting ω ε Bool := do
  let c ← get
  match c.troubles.process with
  | some f => throw (.fault f)
  | none => return c.process.alive

def isRunning : Acting ω ε Bool := do
  if (← get).closed then return false else isAlive

/-- What a call that waits for a number is handed of an arrival; none if it throws it away. A broken
worker answers any call. -/
def accept (id : Int) : Arrival ω ε → Option (Except Trouble (Message ω ε))
  | .raises f => some (.error (.fault f))
  | .foreign => some (.error .invalidReply)
  | .message m => if m.id = some id || m.id = some brokenId then some (.ok m) else none

/-- What reading the arrivals up to the first that is handed over gives, and what is left of them. -/
def read (id : Int) :
    List (Arrival ω ε) → Option (Except Trouble (Message ω ε)) × List (Arrival ω ε)
  | [] => (none, [])
  | a :: rest =>
    match accept id a with
    | some r => (some r, rest)
    | none => read id rest

def receive (id : Int) (patient : Bool) : Acting ω ε (Message ω ε) := do
  let c ← get
  let (found, rest) := if patient then read id c.inbox else (none, c.inbox)
  set { c with inbox := rest }
  match found with
  | some r => ofExcept' r
  | none => if ← isAlive then throw .noReply else throw .exited
where
  ofExcept' (r : Except Trouble (Message ω ε)) : Acting ω ε (Message ω ε) :=
    match r with
    | .ok m => return m
    | .error t => throw t

def issue (command : Command) : Acting ω ε Int := do
  let c ← get
  let id := c.nextId
  set { c with nextId := id + 1 }
  match c.troubles.send with
  | some f => throw (.fault f)
  | none =>
    modify fun c ↦ { c with sent := c.sent ++ [(id, command)] }
    return id

def exchange (command : Command) (patient : Bool) : Acting ω ε (Message ω ε) := do
  let m ← receive (← issue command) patient
  if m.ok then return m else throw (.refused (m.error.getD "kernel request failed"))

/-- Sends a command, once nobody else is in the middle of a request. -/
def request (command : Command) (timeout : Option Seconds := none) : Acting ω ε (Message ω ε) := do
  let c ← get
  if c.closed then throw .closed
  let timeout := timeout.getD c.defaultTimeout
  match waitTrouble? timeout with
  | some t => throw t
  | none =>
    if c.troubles.busy then throw .busy else exchange command (Patient timeout)

def attempt (x : Acting ω ε α) : Acting ω ε (Except Trouble α) :=
  tryCatch (Except.ok <$> x) fun t ↦ return .error t

def inquire (command : Command) (timeout : Option Seconds) : Acting ω ε (Outcome ω) := do
  match ← attempt (request command timeout) with
  | .error t =>
    match t.outcome? with
    | some o => return o
    | none => throw t
  | .ok m =>
    match m.outcome with
    | some o => return o
    | none => throw .noOutcome

def traceback (timeout : Option Seconds) : Acting ω ε (Outcome ω) := inquire .traceback timeout

def evaluate (r : EvaluationRequest) : Acting ω ε (Outcome ω) := inquire (.evaluate r) r.timeout

def children (r : ChildrenRequest) (cancelled : Bool) : Acting ω ε (Outcome ω) := do
  if cancelled then return .cancelled else inquire (.children r) r.timeout

def notify : Acting ω ε Unit := do
  (← get).subscribers.notify fun label ↦ record (.notified label)

def execute (code : String) (tag : Option String) : Acting ω ε (Option ε) := do
  let m ← request (.execute code tag)
  notify
  match m.entry with
  | none => return none
  | some (.ok e) => return some e
  | some (.error f) => throw (.fault f)

def push (vars : List (String × Recipe)) : Acting ω ε Unit := do
  let _ ← request (.push vars)
  notify

def joinTime : Float := 1.0

def join : Acting ω ε Unit := do
  record (.joined joinTime)
  modify fun c ↦ { c with process := c.process.join }

def terminate : Acting ω ε Unit := do
  record .terminated
  modify fun c ↦ { c with process := c.process.terminate }

def closePipe : Acting ω ε Unit := do
  match (← get).troubles.close with
  | some f => throw (.fault f)
  | none => modify fun c ↦ { c with pipeClosed := true }

def closeTime : Seconds := .real 3.0

/-- Does something whatever becomes of it; only a request to stop the program goes through. -/
def absorb (x : Acting ω ε Unit) : Acting ω ε Unit :=
  tryCatch x fun t ↦ if t.toFault.isOrdinary then return () else throw t

/-- What closing does to the process and the pipe. The process is asked three times whether it is
alive, and waited for up to two times. -/
structure Shutdown (ω ε : Type) where
  isAlive : Fin 3 → Acting ω ε Bool
  join : Fin 2 → Acting ω ε Unit
  terminate : Acting ω ε Unit
  closePipe : Acting ω ε Unit

/-- Closes the session: asks the worker to close, waits for the process, ends it if it goes on, and
closes the pipe. Each of these is done whatever becomes of the others. -/
def closeBy (s : Shutdown ω ε) : Acting ω ε Unit := do
  if (← get).closed then return
  absorb do
    if ← s.isAlive 0 then
      let _ ← request .close (some closeTime)
  modify fun c ↦ { c with closed := true }
  absorb do if ← s.isAlive 1 then s.join 0
  absorb do
    if ← s.isAlive 2 then
      s.terminate
      s.join 1
  absorb s.closePipe

def shutdown : Shutdown ω ε where
  isAlive _ := isAlive
  join _ := join
  terminate := terminate
  closePipe := closePipe

def close : Acting ω ε Unit := closeBy shutdown

def readPid (m : Message ω ε) : Except Trouble Int :=
  match m.pid with
  | none => .ok (-1)
  | some r =>
    match ((do Eval.construct "int" [← r]).run {}).1 with
    | .ok (.int pid) => .ok pid
    | .ok _ => .ok (-1)
    | .error f => .error (.fault f)

def start (timeout : Seconds) : Acting ω ε Unit := do
  record .started
  let m ← receive readyId (Patient timeout)
  if m.ok then
    match readPid m with
    | .ok pid => modify fun c ↦ { c with pid := pid }
    | .error t => throw t
  else throw (.refused (m.error.getD "kernel process failed to start"))

def describe : Acting ω ε String := do
  let c ← get
  let status ← if c.closed then pure "closed"
    else if ← isAlive then pure "alive"
    else pure "dead"
  return s!"SubprocessSession(pid={c.pid}, status={status})"

end Client

end Remote

end VariableExplorer
