import VariableExplorer.Subscription.Basic

/-!
Callbacks that act on the list that they are on. What a callback does while it is being called is a
finite tree: it subscribes others, calls unsubscribers, and notifies again, in which each of those
who are called does something in its turn; and at the end it returns or raises. All that happens is
written down.
-/

namespace VariableExplorer

/-- What happens on an exchange. Subscriptions and notifications go by their numbers. -/
inductive Exchange.Event (κ : Type)
  | added (c : κ)
  | cancelled (i : Nat)
  | began (n : Nat) (cs : List κ)
  | called (n : Nat) (c : κ)
  | ended (n : Nat)
  deriving Repr, DecidableEq

structure Standing (κ : Type) where
  subscribers : Subscribers κ := {}
  made : List κ := []
  deriving Repr, DecidableEq

structure Exchange (κ : Type) extends Standing κ where
  begun : Nat := 0
  log : List (Exchange.Event κ) := []
  deriving Repr, DecidableEq

namespace Standing

open Exchange

variable {κ : Type}

def add (s : Standing κ) (c : κ) : Standing κ := ⟨s.subscribers.add c, s.made ++ [c]⟩

variable [BEq κ]

/-- An unsubscriber knows its callback, and has the list without it. -/
def cancel (s : Standing κ) (i : Nat) : Standing κ :=
  match s.made[i]? with
  | none => s
  | some c => { s with subscribers := s.subscribers.cancel c }

def step (s : Standing κ) : Event κ → Standing κ
  | .added c => s.add c
  | .cancelled i => s.cancel i
  | _ => s

def replay (s : Standing κ) (log : List (Event κ)) : Standing κ := log.foldl step s

theorem replay_append (s : Standing κ) (log log' : List (Event κ)) :
    s.replay (log ++ log') = (s.replay log).replay log' := List.foldl_append

end Standing

namespace Exchange

variable {κ : Type}

abbrev Acting (κ : Type) := ExceptT Fault (StateM (Exchange κ))

section

variable [BEq κ]

def happen (e : Exchange κ) (ev : Event κ) : Exchange κ :=
  { e with toStanding := e.step ev, log := e.log ++ [ev] }

def record (ev : Event κ) : Acting κ Unit := modify (·.happen ev)

def begin (e : Exchange κ) : Exchange κ :=
  { e.happen (.began e.begun e.subscribers.callbacks) with begun := e.begun + 1 }

/-- Calls everyone who is subscribed; `told` is what is done in a call, all that has happened up to
then considered. -/
def notify (told : List (Event κ) → Acting κ Unit) : Acting κ Unit := do
  let e ← get
  set e.begin
  e.subscribers.notifyGuarded fun c ↦ do
    record (.called e.begun c)
    told (← get).log
  record (.ended e.begun)

end

/-- What a callback does, and how it ends: it returns or raises an ordinary failure. -/
inductive Code (κ : Type)
  | done
  | raise (f : Fault) (ordinary : f.isOrdinary = true)
  | add (c : κ) (next : Code κ)
  | cancel (i : Nat) (next : Code κ)
  /-- It notifies; each of those who are called does what their turn has for them. -/
  | notify (told : List (Event κ) → Code κ) (next : Code κ)

def Code.run [BEq κ] : Code κ → Acting κ Unit
  | done => return
  | raise f _ => throw f
  | add c next => do
    record (.added c)
    next.run
  | cancel i next => do
    record (.cancelled i)
    next.run
  | notify told next => do
    Exchange.notify fun log ↦ (told log).run
    next.run

end Exchange

end VariableExplorer
