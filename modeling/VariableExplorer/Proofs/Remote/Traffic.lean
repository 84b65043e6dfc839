import Mathlib.Logic.Function.Basic
import Mathlib.Logic.Relation
import VariableExplorer.Remote.Wire

/-!
A client and its worker in the hands of any number of threads. The pipe loses nothing and keeps the
order, each way. Any call may give up at any moment, the worker serves its requests when it likes,
and all that is sent, served and taken from the pipe is written down.
-/

namespace VariableExplorer.Remote

open Function

inductive Phase
  | idle
  | waiting (command : Command)
  | holding (command : Command)
  | reading (id : Int)
  | handed (id : Int) (m : Message Content HistoryEntry)
  /-- It gave up before it was its turn. -/
  | gaveUp
  /-- It gave up later, or ran into trouble. -/
  | failed

/-- It is the call's turn. -/
def Phase.holds : Phase → Prop
  | holding _ | reading _ => True
  | _ => False

structure Traffic where
  client : Client Content HistoryEntry := {}
  pending : List (Request Int) := []
  kernel : Option ServedKernel
  holder : Option Nat := none
  phases : Nat → Phase := fun _ ↦ .idle
  /-- The commands that were sent, in order, with the calls they are of. -/
  issued : List (Nat × Int × Command) := []
  /-- What the worker has replied to, in order. -/
  exchanges : List (Request Int × Reply Int) := []
  /-- What was taken from the pipe, in order, with the calls that took it. -/
  taken : List (Nat × Arrival Content HistoryEntry) := []

namespace Traffic

def requests (w : Traffic) : List (Request Int) :=
  w.issued.map fun e ↦ .ofCommand e.2.1 e.2.2

def arrivals (pid : Int) (w : Traffic) : List (Arrival Content HistoryEntry) :=
  w.exchanges.map fun e ↦ .message (.ofReply pid e.2)

def put (w : Traffic) (c : Nat) (p : Phase) : Traffic := { w with phases := update w.phases c p }

def release (w : Traffic) (c : Nat) (p : Phase) : Traffic := { w.put c p with holder := none }

def send (w : Traffic) (c : Nat) (command : Command) (id : Int)
    (client : Client Content HistoryEntry) : Traffic :=
  { w.put c (.reading id) with
    client := client
    pending := w.pending ++ [.ofCommand id command]
    issued := w.issued ++ [(c, id, command)] }

def take (w : Traffic) (c : Nat) (a : Arrival Content HistoryEntry)
    (rest : List (Arrival Content HistoryEntry)) : Traffic :=
  { w with client.inbox := rest, taken := w.taken ++ [(c, a)] }

def serve (pid : Int) (w : Traffic) (r : Request Int) (rest : List (Request Int))
    (reply : Option (Reply Int)) (kernel : Option ServedKernel) : Traffic :=
  { w with
    client.inbox := w.client.inbox ++ reply.toList.map fun r ↦ .message (.ofReply pid r)
    pending := rest
    kernel := kernel
    exchanges := w.exchanges ++ reply.toList.map fun reply ↦ (r, reply) }

def outcome (id : Int) : Except Client.Trouble (Message Content HistoryEntry) → Phase
  | .ok m => .handed id m
  | .error _ => .failed

inductive Step (cells : String → Cell) (pid : Int) : Traffic → Traffic → Prop
  | call {w : Traffic} (c : Nat) (command : Command) : w.phases c = .idle →
      Step cells pid w (w.put c (.waiting command))
  | giveUp {w : Traffic} {c : Nat} {command : Command} : w.phases c = .waiting command →
      Step cells pid w (w.put c .gaveUp)
  | acquire {w : Traffic} {c : Nat} {command : Command} : w.phases c = .waiting command →
      w.holder = none → Step cells pid w { w.put c (.holding command) with holder := some c }
  | send {w : Traffic} {c : Nat} {command : Command} {id : Int}
      {client : Client Content HistoryEntry} : w.phases c = .holding command →
      (Client.issue command).run w.client = (.ok id, client) →
      Step cells pid w (w.send c command id client)
  /-- The number is used up, and nothing is sent. -/
  | sendFails {w : Traffic} {c : Nat} {command : Command} {t : Client.Trouble}
      {client : Client Content HistoryEntry} : w.phases c = .holding command →
      (Client.issue command).run w.client = (.error t, client) →
      Step cells pid w ({ w with client := client }.release c .failed)
  | discard {w : Traffic} {c : Nat} {id : Int} {a : Arrival Content HistoryEntry}
      {rest : List (Arrival Content HistoryEntry)} : w.phases c = .reading id →
      w.client.inbox = a :: rest → Client.accept id a = none →
      Step cells pid w (w.take c a rest)
  | receive {w : Traffic} {c : Nat} {id : Int} {a : Arrival Content HistoryEntry}
      {rest : List (Arrival Content HistoryEntry)}
      {r : Except Client.Trouble (Message Content HistoryEntry)} : w.phases c = .reading id →
      w.client.inbox = a :: rest → Client.accept id a = some r →
      Step cells pid w ((w.take c a rest).release c (outcome id r))
  /-- No reply has come in time, or the pipe is of no more use. -/
  | abandon {w : Traffic} {c : Nat} {id : Int} : w.phases c = .reading id →
      Step cells pid w (w.release c .failed)
  | serve {w : Traffic} {k : ServedKernel} {r : Request Int} {rest : List (Request Int)}
      {reply : Option (Reply Int)} {kernel : Option ServedKernel} : w.kernel = some k →
      w.pending = r :: rest → Worker.answer cells k (.request r) = (reply, kernel) →
      Step cells pid w (w.serve pid r rest reply kernel)
  | stop (w : Traffic) : Step cells pid w { w with kernel := none }
  /-- Whatever else there is of a client may change. -/
  | change {w : Traffic} {client : Client Content HistoryEntry} :
      client.nextId = w.client.nextId → client.inbox = w.client.inbox →
      client.sent = w.client.sent → Step cells pid w { w with client := client }

abbrev Run (cells : String → Cell) (pid : Int) : Traffic → Traffic → Prop :=
  Relation.ReflTransGen (Step cells pid)

def Reachable (cells : String → Cell) (pid : Int) (k : ServedKernel) (w : Traffic) : Prop :=
  Run cells pid { kernel := some k } w

end Traffic

end VariableExplorer.Remote
