import VariableExplorer.Json

/-!
Reading JSON values as what they are expected to be. A part that is missing or of another kind
counts as empty.
-/

namespace VariableExplorer

namespace Json

def get (j : Json) (key : String) : Json := (j.field? key).getD .null

def has (j : Json) (key : String) : Bool := (j.field? key).isSome

def isNull : Json → Bool
  | null => true
  | _ => false

def opt (j : Json) : Option Json := if j.isNull then none else some j

def text? : Json → Option String
  | str s => some s
  | _ => none

def text (j : Json) : String := j.text?.getD ""

/-- Truth values count as zero and one. -/
def int? : Json → Option Int
  | int i => some i
  | bool b => some (if b then 1 else 0)
  | _ => none

def toInt (j : Json) : Int := j.int?.getD 0

def items : Json → List Json
  | arr xs => xs
  | _ => []

def pairs (j : Json) : List (Json × Json) :=
  j.items.map fun p ↦ (p.items.getD 0 null, p.items.getD 1 null)

def texts (j : Json) : List String := j.items.map text

/-- Whether a value is more than nothing: null, false, zero and what is empty are not. -/
def truth : Json → Bool
  | null | bool false | int 0 | str "" | arr [] | obj [] => false
  | float x => x != 0.0
  | _ => true

def ofTexts (xs : List String) : Json := arr (xs.map str)

def ofOption {α : Type} (f : α → Json) : Option α → Json
  | none => null
  | some a => f a

end Json

end VariableExplorer
