import VariableExplorer.Expression.Evaluation

/-!
Literals: expressions that mean the same in every environment. Signed numbers, sums of a number and
an imaginary one, texts, the constants, and displays of literals.
-/

namespace VariableExplorer

namespace Literal

def number (e : Expr) : Except Fault Number :=
  match e with
  | .constant (.int i) => .ok (.int i)
  | .constant (.float x) => .ok (.float x)
  | .constant (.complex re im) => .ok (.complex re im)
  | e => .error (.malformedLiteral e.form)

/-- A number with at most one sign. -/
def signedNumber (e : Expr) : Except Fault Number :=
  match e with
  | .unary .keep e => number e
  | .unary .negate e => do
    match ← number e with
    | .int i => return .int (-i)
    | .float x => return .float (-x)
    | .complex re im => return .complex (-re) (-im)
  | e => number e

def ofNumber : Number → Value
  | .int i => .int i
  | .float x => .float x
  | .complex re im => .complex re im

/-- A real number plus or minus an imaginary one. -/
def sum? (op : BinaryOp) (l r : Expr) : Except Fault (Option Value) := do
  let a ← signedNumber l
  let b ← number r
  match a, b with
  | .complex _ _, _ => return none
  | a, .complex re im =>
    match Number.operate op a (.complex re im) with
    | some result => return some (← result)
    | none => return none
  | _, _ => return none

mutual

def value : Expr → Eval Value
  | .constant v => return v
  | .tuple items => do Eval.newTuple (← values items)
  | .list items => do Eval.newList (← values items)
  | .set items => do Eval.newSet "set" (← values items)
  | .call (.name "set") [] [] => Eval.newSet "set" []
  | .dict keys vs => do
    Eval.newDict (← Eval.dictEntries (← Eval.inPairs (attempts keys) (attempts vs)))
  | .binary op l r => do
    if op = .add || op = .sub then
      match ← ofExcept (sum? op l r) with
      | some v => return v
      | none => throw (.malformedLiteral "BinOp")
    else throw (.malformedLiteral "BinOp")
  | e => do return ofNumber (← ofExcept (signedNumber e))

def values : List Expr → Eval (List Value)
  | [] => return []
  | e :: es => do
    let v ← value e
    return v :: (← values es)

/-- The values to be computed, each still to be run. -/
def attempts : List Expr → List (Eval Value)
  | [] => []
  | e :: es => value e :: attempts es

end

def read (text : String) : Eval Value := do
  value (← ofExcept (Expr.parse "<unknown>" (withoutIndent text)))

end Literal

end VariableExplorer
