import VariableExplorer.Value.Fault

/-!
Subscriptions to a change. Callbacks are called in the order in which they were added; one that was
added several times is called as often.
-/

namespace VariableExplorer

structure Subscribers (κ : Type) where
  callbacks : List κ := []
  deriving Repr, DecidableEq, Inhabited

namespace Subscribers

variable {κ : Type}

def add (s : Subscribers κ) (c : κ) : Subscribers κ := ⟨s.callbacks ++ [c]⟩

/-- Takes out the first callback that equals the one given. -/
def cancel [BEq κ] (s : Subscribers κ) (c : κ) : Subscribers κ := ⟨s.callbacks.erase c⟩

def size (s : Subscribers κ) : Nat := s.callbacks.length

/-- Calls everyone who is subscribed when it starts, whatever happens to the list meanwhile. -/
def notify {m : Type → Type} [Monad m] (s : Subscribers κ) (call : κ → m Unit) : m Unit :=
  s.callbacks.forM call

/-- Notifies callbacks that may raise. What one of them raises ends its own call, and the others are
called all the same; only a request to stop the program goes through. -/
def notifyGuarded {m : Type → Type} [Monad m] (s : Subscribers κ)
    (call : κ → ExceptT Fault m Unit) : ExceptT Fault m Unit :=
  s.notify fun c ↦ tryCatch (call c) fun f ↦ if f.isOrdinary then return () else throw f

end Subscribers

end VariableExplorer
