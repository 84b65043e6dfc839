import VariableExplorer.Decimal.Reading
import VariableExplorer.Value.Basic

/-!
When two values are equal, and which values can be keys. Numbers of all kinds compare by value,
texts and containers of fixed content by content, and everything else by identity.
-/

namespace VariableExplorer

/-- A value seen as a number; truth values count as zero and one. -/
inductive Number
  | int (i : Int)
  | float (x : Float)
  | complex (re im : Float)

namespace Number

def ofValue? : Value → Option Number
  | .bool b => some (.int (if b then 1 else 0))
  | .int i => some (.int i)
  | .float x => some (.float x)
  | .complex re im => some (.complex re im)
  | _ => none

def intEqFloat (i : Int) (x : Float) : Bool :=
  x.floor == x && Decimal.truncate? x == some i

def equal : Number → Number → Bool
  | int i, int j => i == j
  | int i, float x | float x, int i => intEqFloat i x
  | float x, float y => x == y
  | complex re im, complex re' im' => re == re' && im == im'
  | int i, complex re im | complex re im, int i => im == 0.0 && intEqFloat i re
  | float x, complex re im | complex re im, float x => im == 0.0 && x == re

end Number

def rangeLength (start stop step : Int) : Nat :=
  if 0 < step then ((stop - start + step - 1) / step).toNat
  else if step < 0 then ((start - stop - step - 1) / (-step)).toNat
  else 0

namespace Value

def equalScalar : Value → Value → Bool
  | .none, .none => true
  | .ellipsis, .ellipsis => true
  | .str s, .str t => s == t
  | .bytes s, .bytes t => s == t
  | .native c, .native d => c == d
  | .function f, .function g => f == g
  | .operation v n, .operation w m => n == m && equalScalar v w
  | .wrapper v n, .wrapper w m => n == m && equalScalar v w
  | .descriptor o n _, .descriptor o' n' _ => o == o' && n == n'
  | .ref r, .ref r' => r == r'
  | v, w => match Number.ofValue? v, Number.ofValue? w with
    | some a, some b => a.equal b
    | _, _ => false

end Value

namespace Store

/-- Equality; `fuel` bounds the depth to which content is compared. -/
def equal (s : Store) : (fuel : Nat) → Value → Value → Bool
  | 0, _, _ => false
  | fuel + 1, v, w =>
    match v, w with
    | .ref r, .ref r' =>
      if r = r' then true
      else
        match s.body v, s.body w with
        | .list xs, .list ys | .tuple xs, .tuple ys =>
          xs.length == ys.length && (xs.zip ys).all fun (x, y) ↦ equal s fuel x y
        | .set xs, .set ys =>
          xs.length == ys.length && xs.all fun x ↦ ys.any fun y ↦ equal s fuel x y
        | .dict xs, .dict ys =>
          xs.length == ys.length && xs.all fun x ↦ ys.any fun y ↦
            equal s fuel x.1 y.1 && equal s fuel x.2 y.2
        | .bytearray xs, .bytearray ys => xs == ys
        | .range a b c, .range a' b' c' =>
          let n := rangeLength a b c
          n == rangeLength a' b' c' && (n == 0 || (a == a' && (n == 1 || c == c')))
        | .scalar x, .scalar y => x.equalScalar y
        | _, _ => false
    | v, w => (s.scalar v).equalScalar (s.scalar w)

def keyDepth : Nat := 1000

def sameKey (s : Store) (v w : Value) : Bool :=
  match v, w with
  | .str a, .str b => a == b
  | v, w => s.equal keyDepth v w

def lookup? (s : Store) (key : Value) : List (Value × Value) → Option Value
  | [] => none
  | (k, v) :: rest => if s.sameKey k key then some v else lookup? s key rest

/-- Overwrites the entry of an equal key in place, or appends one. -/
def insertEntry (s : Store) (key v : Value) : List (Value × Value) → List (Value × Value)
  | [] => [(key, v)]
  | (k, w) :: rest =>
    if s.sameKey k key then (k, v) :: rest else (k, w) :: insertEntry s key v rest

def eraseEntry (s : Store) (key : Value) (entries : List (Value × Value)) : List (Value × Value) :=
  entries.filter fun e ↦ !s.sameKey e.1 key

def distinct (s : Store) (items : List Value) : List Value :=
  (items.foldl (fun acc v ↦ if acc.any (s.sameKey · v) then acc else v :: acc) []).reverse

/-- The first part of a value that keeps it from being a key. -/
def unhashable? (s : Store) : (fuel : Nat) → Value → Option Value
  | 0, _ => none
  | fuel + 1, v =>
    match s.body v with
    | .list _ | .dict _ | .bytearray _ | .view _ => some v
    | .set _ => if s.isKind v ["frozenset"] then none else some v
    | .tuple items => items.findSome? (unhashable? s fuel)
    | _ => if s.isKind v ["SimpleNamespace"] then some v else none

end Store

namespace Eval

def checkKey (v : Value) : Eval Unit := do
  let s ← get
  match s.unhashable? Store.keyDepth v with
  | some part => throw (.unhashable (s.kindFullName part))
  | none => return

def dictEntries (pairs : List (Value × Value)) : Eval (List (Value × Value)) := do
  pairs.forM fun (k, _) ↦ checkKey k
  let s ← get
  return pairs.foldl (fun acc (k, v) ↦ s.insertEntry k v acc) []

end Eval

end VariableExplorer
