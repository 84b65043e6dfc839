import VariableExplorer.Suggestion.Provider
import VariableExplorer.Text.WordChar

/-!
Suggestions: how to go on with a typed text. What counts of the text is the path at its end, and
the suggestion adds the rest of the first name that extends what is typed of it.
-/

namespace VariableExplorer

namespace Suggestion

def isPathChar (c : Char) : Bool :=
  Text.isWordChar c || c = '.' || Selector.isSelector c || c = '[' || c = ']'

def withoutLineEnd (cs : List Char) : List Char :=
  match cs.reverse with
  | '\n' :: rest => rest.reverse
  | _ => cs

/-- The longest path at the end of a text, or of its last line but for the line break. -/
def tail (text : String) : String :=
  String.ofList (((withoutLineEnd text.toList).reverse.takeWhile isPathChar).reverse)

def isPath (text : String) : Bool := text.toList.all isPathChar && Navigation.hasSelector text

def typed (path : String) : String :=
  match (Navigation.Path.parse (some path)).scope with
  | .global t => t
  | .degenerate => ""
  | .nested _ _ t => t

/-- The text with the rest of the first name that extends what is typed. -/
def extend? (text typed : String) (candidates : List Candidate) : Option String :=
  (candidates.find? fun c ↦
    typed.toList.isPrefixOf c.displayName.toList && c.displayName ≠ typed).map fun c ↦
      text ++ String.ofList (c.displayName.toList.drop typed.length)

end Suggestion

def suggestionLimit : Int := 50

/-- Whoever makes suggestions. Each lookup has a token of its own, by which it can be cancelled; the
tokens are numbered in the order in which they are made. -/
structure Suggester where
  limit : Int := suggestionLimit
  token : Option Nat := none
  /-- The tokens that were set, in order. -/
  cancelled : List Nat := []
  deriving Repr, DecidableEq, Inhabited

namespace Suggester

def nextToken (s : Suggester) : Nat := s.token.elim 0 (· + 1)

/-- The next lookup cancels the one before. -/
def advance (s : Suggester) : Suggester :=
  { s with token := some s.nextToken, cancelled := s.cancelled ++ s.token.toList }

end Suggester

section

variable {m : Type → Type} [Monad m] [MonadStateOf Suggester m]

/-- The suggestion for a text. Only a text with a path at its end has members looked up. -/
def suggest (lookup : (path : String) → (limit : Int) → (token : Nat) →
    m (Except Provider.Fault (List Candidate))) (text : String) :
    m (Except Provider.Fault (Option String)) := do
  let path := Suggestion.tail text
  if path = "" then return .ok none
  else
    let s ← getThe Suggester
    set s.advance
    let found ← lookup path s.limit s.nextToken
    return found.map (Suggestion.extend? text (Suggestion.typed path))

def Provider.suggest (p : Provider) (snapshot : Snapshot) (ask : Call → m Answer) (text : String)
    (w : Wait := {}) : m (Except Fault (Option String)) :=
  VariableExplorer.suggest (fun path limit _ ↦ p.members snapshot ask (some path) limit true w)
    text

end

end VariableExplorer
