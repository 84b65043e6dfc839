import VariableExplorer.Navigation.Path
import VariableExplorer.Expression.Literal

/-!
Chains: the value of a head expression, from which one member after another is selected. A member
is a name, perhaps empty, and any number of literals in brackets after it.
-/

namespace VariableExplorer

structure Link where
  selector : Selector
  member : String
  deriving Repr, DecidableEq

structure Chain where
  head : String
  links : List Link
  deriving Repr, DecidableEq

namespace Chain

def ofText (s : String) : Chain :=
  match Navigation.split s with
  | [] => ⟨"", []⟩
  | head :: members => ⟨head, (Navigation.selectors s.toList).zipWith (⟨·, ·⟩) members⟩

/-- The contents of bracket groups that fill a text but for one final line break. -/
def groups : (fuel : Nat) → List Char → Option (List String)
  | 0, _ => none
  | _ + 1, [] => some []
  | _ + 1, ['\n'] => some []
  | fuel + 1, '[' :: cs =>
    match cs.dropWhile (· ≠ ']') with
    | ']' :: rest => (groups fuel rest).map (String.ofList (cs.takeWhile (· ≠ ']')) :: ·)
    | _ => none
  | _ + 1, _ :: _ => none

def memberParts? (member : String) : Option (String × List String) :=
  let cs := member.toList
  let name := cs.takeWhile (· ≠ '[')
  (groups (cs.length + 1) (cs.dropWhile (· ≠ '['))).map (String.ofList name, ·)

/-- The entry of that name, or else the attribute where there is such an entry by no means. -/
def entryOrAttribute (v : Value) (name : String) : Eval Value :=
  tryCatch (Eval.getItem v (.str name)) fun f ↦ do
    if f.isA "TypeError" || f.isA "KeyError" then
      match ← Eval.getAttr? v name with
      | some w => return w
      | none => throw f
    else throw f

def named (v : Value) (selector : Selector) (name : String) : Eval Value :=
  match selector with
  | .byAttribute => Eval.getAttr v name
  | .byName => entryOrAttribute v name

def indexed (v : Value) (literal : String) : Eval Value := do
  Eval.getItem v (← Literal.read literal)

def select (v : Value) (link : Link) : Eval Value :=
  match memberParts? link.member with
  | none => throw (.badMember (Text.Quoted.quote link.member))
  | some (name, literals) => do
    literals.foldlM indexed (← named v link.selector name)

def value (env : Ref) (chain : Chain) : Eval Value := do
  chain.links.foldlM select (← evaluate env chain.head)

end Chain

def evaluateChain (env : Ref) (expression : String) : Eval Value :=
  (Chain.ofText expression).value env

end VariableExplorer
