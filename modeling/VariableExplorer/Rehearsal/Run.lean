import VariableExplorer.Suggestion.Basic
import VariableExplorer.Replica.Basic
import VariableExplorer.Rehearsal.Script
import VariableExplorer.Subscription.Basic

/-!
Rehearsals: a replica and a provider over a scripted session, and what is done to them. Things can
be done from outside, in the middle of a call that the session is about to answer, and by a
listener that is being told of a snapshot; these in turn may lead to further calls.
-/

namespace VariableExplorer

namespace Rehearsal

inductive Moment
  | traceback
  | evaluate
  | children
  deriving Repr, DecidableEq

def Moment.of? : Call → Option Moment
  | .isRunning => none
  | .traceback _ => some traceback
  | .evaluate _ => some evaluate
  | .children _ => some children

inductive Cancellation
  | never
  | after (looks : Nat)
  deriving Repr, DecidableEq

inductive Action
  | refresh
  | notify
  | mutated
  /-- The replica hears of a change and refreshes on a thread of its own. -/
  | background
  /-- As before, while no thread can be started. -/
  | noThread
  | state
  | close
  | closeProvider
  | snapshot
  | names
  | keepView (label : String)
  | view (label : String)
  | writeView
  | change (f : Script → Script)
  /-- These things are done in the middle of the next call of a kind. -/
  | hook (moment : Moment) (plan : List Action)
  /-- A new listener does these things each time it is told of a snapshot. -/
  | listen (label : String) (plan : List Action)
  | unlisten (label : String)
  | count (path : Option String)
  | members (path : Option String) (max : Int) (cancel : Option Cancellation) (blocked : Bool)
  | suggest (text : String) (limit : Int)
  deriving Inhabited

def Action.name : Action → String
  | refresh => "refresh"
  | notify => "notify"
  | mutated => "mutated"
  | background => "background"
  | noThread => "no_thread"
  | state => "state"
  | close => "close"
  | closeProvider => "close_provider"
  | snapshot => "snapshot"
  | names => "names"
  | keepView _ => "keep_view"
  | view _ => "view"
  | writeView => "write_view"
  | change _ => "session"
  | hook _ _ => "hook"
  | listen _ _ => "listen"
  | unlisten _ => "unlisten"
  | count _ => "count"
  | members _ _ _ _ => "members"
  | suggest _ _ => "suggest"

inductive Fault
  | unknown (label : String)
  | readOnly
  | noThread
  | provider (f : Provider.Fault)
  deriving Repr, DecidableEq

inductive Reply
  | done
  | flag (b : Bool)
  | number (n : Int)
  | state (s : Replica.State)
  | names (ns : List String)
  | descriptors (ds : List Descriptor)
  | candidates (cs : List Candidate)
  | suggestion (s : Option String)
  | failed (f : Fault)
  deriving Repr

inductive Event
  | told (label : String) (names : List String) (s : Replica.State)
  | acted (a : Action) (r : Reply)

end Rehearsal

open Rehearsal

structure Rehearsal where
  script : Script := {}
  /-- The replica's own subscription to changes of the session. -/
  subscribers : Subscribers Unit := ⟨[()]⟩
  replica : Replica Nat := {}
  provider : Provider := {}
  /-- Whoever makes suggestions, with the limit of the first one that is asked for. -/
  suggester : Option Suggester := none
  hooks : List (Moment × List Action) := []
  /-- The label and the plan of each listener that was made, by its token. -/
  made : List (String × List Action) := []
  handles : List (String × Nat) := []
  views : List (String × Snapshot) := []
  calls : List Call := []
  events : List Event := []

namespace Rehearsal

abbrev Acting := StateM Rehearsal

instance : MonadStateOf (Replica Nat) Acting where
  get := fun r ↦ (r.replica, r)
  set := fun m r ↦ ((), { r with replica := m })
  modifyGet := fun f r ↦ let (a, m) := f r.replica; (a, { r with replica := m })

instance : MonadStateOf Suggester Acting where
  get := fun r ↦ (r.suggester.getD {}, r)
  set := fun s r ↦ ((), { r with suggester := some s })
  modifyGet := fun f r ↦ let (a, s) := f (r.suggester.getD {}); (a, { r with suggester := some s })

def record (e : Event) : Acting Unit :=
  modifyThe Rehearsal fun r ↦ { r with events := r.events ++ [e] }

/-- The plans for the middle of a call, which are used up. -/
def takeHooks (c : Call) : Acting (List Action) := fun r ↦
  match Moment.of? c with
  | none => ([], r)
  | some moment =>
    ((r.hooks.lookup moment).getD [], { r with hooks := r.hooks.filter (·.1 ≠ moment) })

/-- The session is called; the answer is the one that stands when it is given. -/
def ask (inner : List Action → Acting Unit) (c : Call) : Acting Answer := do
  match c with
  | .isRunning => return (← getThe Rehearsal).script.answer c
  | _ =>
    modifyThe Rehearsal fun r ↦ { r with calls := r.calls ++ [c] }
    inner (← takeHooks c)
    return (← getThe Rehearsal).script.answer c

def tell (inner : List Action → Acting Unit) (s : Snapshot) (listener : Nat) : Acting Unit := do
  let r ← getThe Rehearsal
  match r.made[listener]? with
  | none => return
  | some (label, plan) =>
    record (.told label s.names r.replica.state)
    inner plan

def isSet : Option Cancellation → Bool
  | some (.after 0) => true
  | _ => false

/-- One thing is done; `inner` carries out plans. -/
def act (inner : List Action → Acting Unit) (a : Action) : Acting Reply := do
  let r ← getThe Rehearsal
  let refresh : Acting Bool := Replica.refresh (ask inner) (tell inner)
  match a with
  | .refresh => return .flag (← refresh)
  | .notify =>
    r.subscribers.notify fun () ↦ do let _ ← refresh
    return .done
  | .mutated =>
    let _ ← refresh
    return .done
  | .background =>
    if r.subscribers.callbacks.isEmpty then return .flag false
    else
      match ← Replica.refreshApart (ask inner) (tell inner) fun refresh ↦ some <$> refresh with
      | .started b => return .flag b
      | _ => return .flag false
  | .noThread =>
    match ← Replica.refreshApart (α := Bool) (ask inner) (tell inner) fun _ ↦ return none with
    | .failed => return .failed .noThread
    | _ => return .done
  | .state => return .state r.replica.state
  | .close =>
    set { r with subscribers := r.subscribers.cancel () }
    return .done
  | .closeProvider =>
    set { r with provider := { r.provider with closed := true } }
    return .done
  | .snapshot => return .descriptors r.replica.snapshot.entries
  | .names => return .names r.replica.snapshot.names
  | .keepView label =>
    set { r with views := (label, r.replica.snapshot) :: r.views }
    return .done
  | .view label =>
    match r.views.lookup label with
    | some s => return .names s.names
    | none => return .failed (.unknown label)
  | .writeView => return .failed .readOnly
  | .change f =>
    set { r with script := f r.script }
    return .done
  | .hook moment plan =>
    set { r with hooks := (moment, plan) :: r.hooks.filter (·.1 ≠ moment) }
    return .done
  | .listen label plan =>
    let token := r.made.length
    set { r with
      replica := r.replica.listen token
      made := r.made ++ [(label, plan)]
      handles := (label, token) :: r.handles }
    return .done
  | .unlisten label =>
    match r.handles.lookup label with
    | none => return .failed (.unknown label)
    | some token =>
      set { r with replica := r.replica.unlisten token }
      return .done
  | .count path => return .number (r.provider.memberCount r.replica.snapshot path)
  | .members path max cancel blocked =>
    let found ← r.provider.members r.replica.snapshot (ask inner) path max cancel.isSome
      { cancelled := isSet cancel }
    -- whoever waits for an abandoned call lets no other start
    if blocked then
      modifyThe Rehearsal fun r ↦ { r with provider := { r.provider with closed := true } }
    match found with
    | .ok cs => return .candidates cs
    | .error f => return .failed (.provider f)
  | .suggest text limit =>
    set { r with suggester := some (r.suggester.getD { limit := limit }) }
    match ← r.provider.suggest r.replica.snapshot (ask inner) text with
    | .ok s => return .suggestion s
    | .error f => return .failed (.provider f)

/-- Carries out a plan. Plans within plans go only so deep; a deeper one is not carried out. -/
def follow : (depth : Nat) → List Action → Acting Unit
  | 0, _ => return
  | depth + 1, plan => plan.forM fun a ↦ do record (.acted a (← act (follow depth) a))

def nestingLimit : Nat := 100

def perform (a : Action) : Acting Reply := act (follow nestingLimit) a

end Rehearsal

end VariableExplorer
