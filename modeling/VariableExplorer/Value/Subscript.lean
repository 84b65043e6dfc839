import VariableExplorer.Value.Measure

/-!
Subscripts: elements by position, counted from the end where negative, parts by a pair of bounds,
and entries by key.
-/

namespace VariableExplorer

/-- A subscript: a key or position, or a part between bounds. -/
inductive Subscript
  | at (key : Value)
  | part (start stop step : Option Value)

/-- The first position of a part of a sequence of length `n`, and the position it stops before. -/
def partBounds (n : Nat) (start stop : Option Int) (step : Int) : Int × Int :=
  let clamp (lo hi i : Int) : Int := max lo (min hi (if i < 0 then i + n else i))
  if 0 < step then (start.elim 0 (clamp 0 n), stop.elim (n : Int) (clamp 0 n))
  else (start.elim ((n : Int) - 1) (clamp (-1) (n - 1)), stop.elim (-1) (clamp (-1) (n - 1)))

def partPositions (n : Nat) (start stop : Option Int) (step : Int) : List Nat :=
  let (a, b) := partBounds n start stop step
  (List.range (rangeLength a b step)).map fun (k : Nat) ↦ (a + step * (k : Int)).toNat

def position? (n : Nat) (i : Int) : Option Nat :=
  let j := if i < 0 then i + n else i
  if 0 ≤ j && j < n then some j.toNat else none

namespace Eval

/-- The index that a key stands for, in a sequence whose messages use these names. -/
def indexIn (n : Nat) (what : String) (outside : Fault) (key : Value) : Eval Nat := do
  let s ← get
  match s.asInt? key with
  | some i =>
    if greatestIndex < i || i < -greatestIndex - 1 then throw .indexTooLarge
    else match position? n i with
      | some k => return k
      | none => throw outside
  | none =>
    if what = "string" then throw (.badTextIndex (s.kindFullName key))
    else throw (.badIndex what (s.kindFullName key))

def bound (v : Option Value) : Eval (Option Int) := do
  match v with
  | none | some .none => return none
  | some v => match (← get).asInt? v with
    | some i => return some i
    | none => throw (.raised "TypeError"
        (some "slice indices must be integers or None or have an __index__ method"))

def positions (n : Nat) (start stop step : Option Value) : Eval (List Nat) := do
  let step := (← bound step).getD 1
  if step = 0 then throw (.raised "ValueError" (some "slice step cannot be zero"))
  else return partPositions n (← bound start) (← bound stop) step

def entry (entries : List (Value × Value)) (key : Value) : Eval Value := do
  checkKey key
  match (← get).lookup? key entries with
  | some v => return v
  | none => throw (.missingKey (← shown key))

def getItem (v key : Value) : Eval Value := do
  let s ← get
  match s.ofMade? (s.classOf v) "__getitem__" with
  | some (.special b) => ofExcept b
  | some (.table items) => entry items key
  | some (.value .none) => throw (.notCallable "NoneType")
  | _ =>
    let kind := s.kindFullName v
    match s.body v with
    | .list items =>
      return items.getD (← indexIn items.length "list" (.outOfRange "list index") key) .none
    | .tuple items =>
      return items.getD (← indexIn items.length "tuple" (.outOfRange "tuple index") key) .none
    | .scalar (.str t) =>
      let cs := t.toList
      let i ← indexIn cs.length "string" (.outOfRange "string index") key
      return .str (cs.getD i ' ').toString
    | .scalar (.bytes bs) =>
      return .int (bs.getD (← indexIn bs.length "byte" (.outOfRange "index") key) 0).toNat
    | .bytearray bs =>
      let i ← indexIn bs.length "bytearray" (.outOfRange "bytearray index") key
      return .int (bs.getD i 0).toNat
    | .range start stop step =>
      let k ← indexIn (rangeLength start stop step) "range" (.outOfRange "range object index") key
      return .int (start + step * (k : Int))
    | .dict entries => entry entries key
    | .view target =>
      match entriesOf s 3 target with
      | some entries => entry entries key
      | none => throw (.notSubscriptable kind)
    | _ =>
      match s.asClass? v with
      | some c => throw (.classNotSubscriptable (s.className c))
      | none => throw (.notSubscriptable kind)

def getPart (v : Value) (start stop step : Option Value) : Eval Value := do
  let s ← get
  let pick {α : Type} (xs : List α) (d : α) : Eval (List α) :=
    return (← positions xs.length start stop step).map (xs.getD · d)
  match s.body v with
  | .list items => newList (← pick items .none)
  | .tuple items => newTuple (← pick items .none)
  | .scalar (.str t) => return .str (String.ofList (← pick t.toList ' '))
  | .scalar (.bytes bs) => return .bytes (← pick bs 0)
  | .bytearray bs => return .ref (← alloc ⟨.native "bytearray", .bytearray (← pick bs 0), none, []⟩)
  | .range first stopAt by_ =>
    let n := rangeLength first stopAt by_
    let step := (← bound step).getD 1
    if step = 0 then throw (.raised "ValueError" (some "slice step cannot be zero"))
    else
      let (a, b) := partBounds n (← bound start) (← bound stop) step
      let picked := Body.range (first + by_ * a) (first + by_ * b) (by_ * step)
      return .ref (← alloc ⟨.native "range", picked, none, []⟩)
  | .dict _ | .view _ => throw (.unhashable "slice")
  | _ =>
    match s.asClass? v with
    | some c => throw (.classNotSubscriptable (s.className c))
    | none => throw (.notSubscriptable (s.kindFullName v))

def subscript (v : Value) : Subscript → Eval Value
  | .at key => getItem v key
  | .part start stop step => do
    match (← get).ofMade? ((← get).classOf v) "__getitem__" with
    | some (.special b) => ofExcept b
    | some (.table _) => throw (.unhashable "slice")
    | _ => getPart v start stop step

end Eval

end VariableExplorer
