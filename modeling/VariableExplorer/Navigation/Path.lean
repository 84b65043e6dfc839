/-!
Navigation paths: a base expression followed by members, each after a selector. The last member may
be typed in part, and the text before its selector is what its siblings are members of.
-/

namespace VariableExplorer

/-- How a member is reached: by its name among the entries, or as an attribute. -/
inductive Selector
  | byName
  | byAttribute
  deriving Repr, DecidableEq

namespace Selector

def char : Selector → Char
  | byName => '$'
  | byAttribute => '@'

def ofChar? (c : Char) : Option Selector :=
  if c = '$' then some byName else if c = '@' then some byAttribute else none

def isSelector (c : Char) : Bool := (ofChar? c).isSome

end Selector

namespace Navigation

open Selector

/-- The pieces between selectors, one more than there are selectors. -/
def pieces : List Char → List (List Char)
  | [] => [[]]
  | c :: cs =>
    if isSelector c then [] :: pieces cs
    else match pieces cs with
      | [] => [[c]]
      | p :: ps => (c :: p) :: ps

def selectors (cs : List Char) : List Selector := cs.filterMap ofChar?

/-- What follows the last selector; everything if there is none. -/
def afterLast (cs : List Char) : List Char := (cs.reverse.takeWhile (!isSelector ·)).reverse

/-- Everything before the last selector, nothing if there is none. -/
def beforeLast (cs : List Char) : List Char :=
  ((cs.reverse.dropWhile (!isSelector ·)).drop 1).reverse

def last? (cs : List Char) : Option Selector := (selectors cs).getLast?

def split (s : String) : List String := (pieces s.toList).map String.ofList

def hasSelector (s : String) : Bool := s.toList.any isSelector

def trimTrailing (s : String) : String := String.ofList (beforeLast s.toList)

def trimLeading (s : String) : String :=
  match s.toList with
  | c :: cs => if isSelector c then String.ofList cs else s
  | [] => s

inductive Scope
  | global (typed : String)
  /-- Nothing: there is no base to look into. -/
  | degenerate
  /-- The members of a base whose names start with what is typed. -/
  | nested (base : String) (selector : Selector) (typed : String)
  deriving Repr, DecidableEq

structure Path where
  raw : String
  tokens : List String
  scope : Scope
  deriving Repr, DecidableEq

def scopeOf (cs : List Char) : Scope :=
  match last? cs with
  | none => .global (String.ofList cs)
  | some selector =>
    if (cs.head?.map isSelector).getD false then .degenerate
    else .nested (String.ofList (beforeLast cs)) selector (String.ofList (afterLast cs))

/-- Reads a path; no text counts as an empty one. -/
def Path.parse (text : Option String) : Path :=
  let raw := text.getD ""
  ⟨raw, split raw, scopeOf raw.toList⟩

end Navigation

end VariableExplorer
