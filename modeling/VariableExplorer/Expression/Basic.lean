import VariableExplorer.Value.Basic

/-!
Expressions.
-/

namespace VariableExplorer

inductive BinaryOp
  | add | sub | mul | div | floorDiv | mod | pow | matMul | shiftLeft | shiftRight
  | bitAnd | bitOr | bitXor
  deriving Repr, DecidableEq

inductive UnaryOp
  | negate | keep | invert | not
  deriving Repr, DecidableEq

inductive CompareOp
  | eq | ne | lt | le | gt | ge | isSame | isNotSame | isIn | isNotIn
  deriving Repr, DecidableEq

inductive Expr
  | constant (v : Value)
  | name (n : String)
  | member (e : Expr) (n : String)
  | subscript (e index : Expr)
  | part (start stop step : Option Expr)
  | call (f : Expr) (args : List Expr) (keywords : List String)
  | tuple (items : List Expr)
  | list (items : List Expr)
  | set (items : List Expr)
  | dict (keys values : List Expr)
  | unary (op : UnaryOp) (e : Expr)
  | binary (op : BinaryOp) (l r : Expr)
  | compare (first : Expr) (ops : List CompareOp) (rest : List Expr)
  | and (items : List Expr)
  | or (items : List Expr)
  | choose (condition yes no : Expr)
  | lambda
  deriving Repr, Inhabited

def Expr.form : Expr → String
  | constant _ => "Constant"
  | name _ => "Name"
  | member _ _ => "Attribute"
  | subscript _ _ => "Subscript"
  | part _ _ _ => "Slice"
  | call _ _ _ => "Call"
  | tuple _ => "Tuple"
  | list _ => "List"
  | set _ => "Set"
  | dict _ _ => "Dict"
  | unary _ _ => "UnaryOp"
  | binary _ _ _ => "BinOp"
  | compare _ _ _ => "Compare"
  | and _ | or _ => "BoolOp"
  | choose _ _ _ => "IfExp"
  | lambda => "Lambda"

namespace Expr

mutual

def isCallFree : Expr → Bool
  | constant _ | name _ | lambda => true
  | member e _ => e.isCallFree
  | subscript e i => e.isCallFree && i.isCallFree
  | part a b c => optionCallFree a && optionCallFree b && optionCallFree c
  | call _ _ _ => false
  | tuple items | list items | set items | and items | or items => allCallFree items
  | dict keys values => allCallFree keys && allCallFree values
  | unary _ e => e.isCallFree
  | binary _ l r => l.isCallFree && r.isCallFree
  | compare e _ rest => e.isCallFree && allCallFree rest
  | choose c y n => c.isCallFree && y.isCallFree && n.isCallFree

def allCallFree : List Expr → Bool
  | [] => true
  | e :: es => e.isCallFree && allCallFree es

def optionCallFree : Option Expr → Bool
  | none => true
  | some e => e.isCallFree

end

end Expr

end VariableExplorer
