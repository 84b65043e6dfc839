import VariableExplorer.Subscription.Basic

/-!
A board of subscriptions whose callbacks act on the board while they are being called: they
subscribe others, cancel, notify again, or fail. What happens is written down in order.
-/

namespace VariableExplorer

namespace Board

inductive Action
  /-- Subscribes a new callback, which does these things each time it is called. -/
  | subscribe (label : String) (plan : List Action)
  /-- Subscribes the callback that all such actions share. -/
  | subscribeShared (label : String)
  | cancel (label : String)
  | watch (label : String)
  | unwatch (label : String)
  /-- Tries to make a watcher that does not say what a change means to it. -/
  | watchIdly
  | notify
  | count
  | fail
  deriving Inhabited

def Action.name : Action → String
  | subscribe _ _ => "add"
  | subscribeShared _ => "add_same"
  | cancel _ => "remove"
  | watch _ => "watch"
  | unwatch _ => "unwatch"
  | watchIdly => "watch_abstract"
  | notify => "notify"
  | count => "len"
  | fail => "fail"

/-- Callbacks are told apart by their number, except the shared one. -/
inductive Callback
  | own (number : Nat)
  | shared
  | watcher (number : Nat)
  deriving Repr, DecidableEq

inductive Reply
  | done
  | size (n : Nat)
  | refused
  | unknown (label : String)
  deriving Repr, DecidableEq

inductive Event
  | called (label : String)
  | calledShared
  | calledWatcher (label : String)
  | acted (a : Action) (r : Reply)
  deriving Inhabited

end Board

open Board

structure Board where
  subscribers : Subscribers Callback := {}
  /-- The label and the plan of each callback that was made, by its number. -/
  made : List (String × List Action) := []
  /-- What the latest subscription under a label can cancel. -/
  handles : List (String × Callback) := []
  watchers : List (String × Callback) := []
  events : List Event := []

namespace Board

abbrev Acting := StateM Board

/-- What a callback does while it is being called; it may fail on the way. -/
abbrev Calling := ExceptT Fault Acting

def record (e : Event) : Calling Unit :=
  modifyThe Board fun b ↦ { b with events := b.events ++ [e] }

def call (inner : List Action → Calling Unit) (c : Callback) : Calling Unit := do
  match c with
  | .shared => record .calledShared
  | .watcher n => record (.calledWatcher (((← get).made[n]?).elim "" (·.1)))
  | .own n =>
    match (← get).made[n]? with
    | none => return
    | some (label, plan) =>
      record (.called label)
      inner plan

def make (b : Board) (label : String) (plan : List Action) (c : Nat → Callback) :
    Board × Callback :=
  let c := c b.made.length
  ({ b with subscribers := b.subscribers.add c, made := b.made ++ [(label, plan)] }, c)

def act (inner : List Action → Calling Unit) (a : Action) : Calling Reply := do
  let b ← get
  match a with
  | .subscribe label plan =>
    let (b, c) := b.make label plan .own
    set { b with handles := (label, c) :: b.handles }
    return .done
  | .subscribeShared label =>
    set { b with
      subscribers := b.subscribers.add .shared
      handles := (label, .shared) :: b.handles }
    return .done
  | .cancel label =>
    match b.handles.lookup label with
    | none => return .unknown label
    | some c =>
      set { b with subscribers := b.subscribers.cancel c }
      return .done
  | .watch label =>
    let (b, c) := b.make label [] .watcher
    set { b with watchers := (label, c) :: b.watchers }
    return .done
  | .unwatch label =>
    match b.watchers.lookup label with
    | none => return .unknown label
    | some c =>
      set { b with subscribers := b.subscribers.cancel c }
      return .done
  | .watchIdly => return .refused
  | .notify =>
    b.subscribers.notifyGuarded (call inner)
    return .done
  | .count => return .size b.subscribers.size
  | .fail => throw (.raised "Exception" none)

/-- Carries out the plan of a callback. Calls within calls go only so deep: the plan of one that is
called any deeper fails at once. -/
def follow : (depth : Nat) → List Action → Calling Unit
  | 0, _ => throw (.tooDeep "")
  | depth + 1, plan => plan.forM fun a ↦ do record (.acted a (← act (follow depth) a))

def nestingLimit : Nat := 100

/-- Does one thing to a board from outside, where a failure is of no account. -/
def perform (a : Action) : Acting Reply := do
  match ← (act (follow nestingLimit) a).run with
  | .ok r => return r
  | .error _ => return .done

end Board

end VariableExplorer
