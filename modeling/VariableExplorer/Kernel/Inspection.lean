import VariableExplorer.Navigation.Chain
import VariableExplorer.Description.Describe
import VariableExplorer.Session.Call
import VariableExplorer.Text.Glob

/-!
Inspecting the values of an environment: one value by a chain, or the children of one. Whatever an
inspection runs into becomes its outcome, and a child that cannot be described does not hide the
others.
-/

namespace VariableExplorer

namespace Inspection

/-- The dictionary that a text names as an environment: the global one, the attributes of a module,
or a dictionary of the program's own. -/
def environment (env : Ref) (text : String) : Eval Ref := do
  if text = "" || text = globalEnvironment then return env
  else
    let v ← evaluateChain env text
    let found ← do
      if ← Eval.isInstance v ["module"] then Eval.vars v
      else if ← Eval.isInstance v ["dict"] then pure v
      else throw (.notAnEnvironment (Text.Quoted.quote text))
    match found, (← get).body found with
    | .ref r, .dict _ => return r
    | _, _ => throw (.notADictionary (← Eval.hasAttr found "__getitem__"))

def settled {α : Type} (x : Eval α) : Eval (Outcome α) :=
  Eval.handle (Outcome.success <$> x) fun f ↦ return .evaluationError f.report

def evaluation (env : Ref) (r : EvaluationRequest) : Eval (Outcome ValueInfo) :=
  settled do
    let env ← environment env r.frame.environment
    let v ← evaluateChain env r.expression
    describe ⟨r.name, r.expression, .other, r.properties, r.representation⟩ v

/-- The children of a value; those of the environment itself are its variables. -/
def childrenOf (env : Ref) (expression : String) : Eval (List (Eval (Option Child))) := do
  let v ← evaluateChain env expression
  match v with
  | .ref r => if r = env then Child.ofEnvironment env else Child.members v expression
  | v => Child.members v expression

/-- The description of a child, or the bare one where that fails. -/
def describeChild (properties : List Property) (c : Child) : Eval ValueInfo :=
  let r : Request := ⟨c.name, c.expression, c.kind, properties,
    if c.kind = .other then .summary else .none⟩
  Eval.handle (describe r c.value) fun _ ↦ return describeBare r (← get) c.value

def wanted (pattern : Option String) (name : String) : Bool :=
  match pattern with
  | none | some "" => true
  | some p => Text.globMatches p name

/-- Reads children in turn until there are enough of them or the caller cancels: `cancelled` tells
what each look at the token finds. -/
def collect (properties : List Property) (pattern : Option String) (limit : Option Int)
    (cancelled : Nat → Bool) : (looks : Nat) → (found : Nat) → List (Eval (Option Child)) →
    Eval (Option (List ValueInfo))
  | _, _, [] => return some []
  | looks, found, m :: ms => do
    match ← m with
    | none => collect properties pattern limit cancelled looks found ms
    | some c =>
      if limit.any (· ≤ (found : Int)) then return some []
      else if cancelled looks then return none
      else if !wanted pattern c.name then
        collect properties pattern limit cancelled (looks + 1) found ms
      else
        let i ← describeChild properties c
        let rest ← collect properties pattern limit cancelled (looks + 1) (found + 1) ms
        return rest.map (i :: ·)

/-- The children that a request asks for; the token is looked at before anything else. -/
def children (env : Ref) (r : ChildrenRequest) (cancelled : Nat → Bool) :
    Eval (Outcome (List ValueInfo)) := do
  if cancelled 0 then return .cancelled
  else
    let found ← settled do
      let env ← environment env r.environment
      collect r.properties r.pattern r.limit cancelled 1 0 (← childrenOf env r.expression)
    match found with
    | ⟨.ok, some none, _⟩ => return .cancelled
    | ⟨.ok, some (some infos), _⟩ => return .success infos
    | o => return ⟨o.status, none, o.error⟩

end Inspection

end VariableExplorer
