import VariableExplorer.Remote.Message

/-!
Workers: one kernel that serves the requests of a pipe in the order of their arrival, one reply to
each, until it is told to close, the pipe ends, or something breaks.
-/

namespace VariableExplorer

namespace Remote

inductive Incoming (ι : Type)
  | request (r : Request ι)
  /-- Something that is no request at all. -/
  | foreign (typeName : String)
  | raises (f : Fault)

/-- The variables that a worker starts with, as they were sent to it. -/
inductive Seed
  | none
  | vars (vs : List (String × Recipe))
  /-- Bytes that cannot be decoded, by the first of them. -/
  | undecodable (first : UInt8)

namespace Seed

def keyText (b : UInt8) : String :=
  let c := Char.ofNat b.toNat
  if 0x20 ≤ b.toNat && b.toNat ≤ 0x7e && c ≠ '\'' && c ≠ '\\' then String.singleton c
  else "\\x" ++ String.ofList (Text.Quoted.hex 2 b.toNat)

def bind (env : Ref) : Seed → Eval Unit
  | none => return
  | vars vs => Shell.bindAll env vs
  | undecodable first =>
    throw (.raised "UnpicklingError" (some s!"invalid load key, '{keyText first}'."))

end Seed

/-- A worker's kernel, which nobody subscribes to. -/
abbrev ServedKernel := Kernel Empty

namespace Worker

variable {ι : Type}

structure Service (ι : Type) where
  sent : List (Reply ι) := []
  unread : Nat := 0

def Service.after (r : Option (Reply ι)) (s : Service ι) : Service ι :=
  { s with sent := r.toList ++ s.sent }

def execute (code : String) (tag : Option String) (cell : Cell) :
    StateM ServedKernel (Except Fault HistoryEntry) :=
  Kernel.execute (κ := Empty) (fun c ↦ nomatch c) (fun _ _ ↦ return .ok ()) code tag cell

/-- Carries out a command; `cells` tells what running a piece of code does. -/
def carryOut (cells : String → Cell) (k : ServedKernel) :
    Command → Except Fault Report × ServedKernel
  | .close => (.ok .done, k)
  | .execute code tag =>
    let (r, k) := (execute code tag (cells code)).run k
    (r.map .entry, k)
  | .push vars =>
    let (r, k) := k.eval (Shell.bindAll k.env vars)
    (r.map fun _ ↦ .done, k)
  | .traceback => (.ok (.frames k.traceback), k)
  | .evaluate r =>
    let (o, k) := k.evaluate r
    (o.map .value, k)
  | .children r =>
    let (o, k) := k.children r
    (o.map .values, k)

/-- The last words of a worker that fails. It has none where the pipe has ended, or where the program
is stopped. -/
def lastWords (f : Fault) : Option (Reply ι) :=
  if f.isA "EOFError" || !f.isOrdinary then none else some ⟨none, .broken f.report⟩

/-- What a worker sends for one message, and the kernel with which it goes on, unless it ends. -/
def answer (cells : String → Cell) (k : ServedKernel) :
    Incoming ι → Option (Reply ι) × Option ServedKernel
  | .raises f => (lastWords f, none)
  | .foreign typeName => (lastWords (.noAttribute typeName "get"), none)
  | .request r =>
    match r.command? with
    | .error f => (lastWords f, none)
    | .ok none => (some ⟨some r.id, .unknown r.operation⟩, some k)
    | .ok (some .close) => (some ⟨some r.id, .done⟩, none)
    | .ok (some c) =>
      match carryOut cells k c with
      | (.error f, _) => (lastWords f, none)
      | (.ok report, k) => (some ⟨some r.id, report⟩, some k)

def serve (cells : String → Cell) : ServedKernel → List (Incoming ι) → Service ι
  | _, [] => {}
  | k, i :: rest =>
    match answer cells k i with
    | (reply, some k) => (serve cells k rest).after reply
    | (reply, none) => { sent := reply.toList, unread := rest.length }

/-- A worker's life: it starts with a seed, says that it is ready, and serves. Where nothing can be
sent, it ends with the first message. -/
def run (cells : String → Cell) (known : List String) (seed : Seed) (canSend : Bool)
    (incoming : List (Incoming ι)) : Service ι :=
  if !canSend then { unread := incoming.length }
  else match Kernel.new known [] false with
  | .error f => { sent := (lastWords f).toList, unread := incoming.length }
  | .ok k =>
    match k.eval (seed.bind k.env) with
    | (.error f, _) => { sent := (lastWords f).toList, unread := incoming.length }
    | (.ok (), k) => (serve cells k incoming).after (some ⟨none, .ready⟩)

end Worker

end Remote

end VariableExplorer
