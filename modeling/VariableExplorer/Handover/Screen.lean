import VariableExplorer.Value.Fault

/-!
Handing work over to the thread of a running screen. From that thread itself the work is put off
until the screen has time for it; from any other it is run at once, unless the screen has stopped,
which cancels the work.
-/

namespace VariableExplorer

namespace Screen

inductive Manner
  | submit
  | dispatch
  | runOnUi
  deriving Repr, DecidableEq

/-- The state of a screen and of the thread that hands work over to it. -/
structure Situation where
  onUi : Bool
  running : Bool
  callFault : Option Fault := none
  /-- Whether the screen gets to what was put off. -/
  pumps : Bool := true
  deriving Repr

inductive Event
  | calledLater
  | calledFromThread
  | ran
  deriving Repr, DecidableEq

inductive Fate
  | waiting
  | cancelled
  | ran
  deriving Repr, DecidableEq

/-- Hands work over: what became of it and what happened. A screen that is about to close cancels
the work, and any other failure is the caller's. -/
def submit (s : Situation) : Except Fault Fate × List Event :=
  if s.onUi then
    if s.pumps then (.ok .ran, [.calledLater, .ran]) else (.ok .waiting, [.calledLater])
  else if !s.running then (.ok .cancelled, [])
  else match s.callFault with
    | none => (.ok .ran, [.calledFromThread, .ran])
    | some f =>
      if f.isA "RuntimeError" then (.ok .cancelled, [.calledFromThread])
      else (.error f, [.calledFromThread])

def hand (s : Situation) : Manner → Except Fault Fate × List Event
  | .submit | .dispatch => submit s
  | .runOnUi => if s.onUi then (.ok .ran, [.ran]) else submit s

end Screen

end VariableExplorer
