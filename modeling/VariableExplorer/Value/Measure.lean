import VariableExplorer.Value.Printing

/-!
Lengths, truth and the elements of values.
-/

namespace VariableExplorer

def greatestIndex : Int := Int.pow 2 63 - 1

namespace Store

def asInt? (s : Store) (v : Value) : Option Int :=
  match s.scalar v with
  | .bool b => some (if b then 1 else 0)
  | .int i => some i
  | _ => none

end Store

namespace Eval

def givenLength (b : Behaviour) : Eval Nat := do
  let v ← ofExcept b
  let s ← get
  match s.asInt? v with
  | none => throw (.notAnInteger (s.kindFullName v))
  | some i =>
    if i < 0 then throw .negativeLength
    else if greatestIndex < i then
      throw (.raised "OverflowError" (some "cannot fit 'int' into an index-sized integer"))
    else return i.toNat

/-- The length of the content, where the value's own class does not say. -/
def contentLength? (s : Store) : (fuel : Nat) → Value → Option Nat
  | 0, _ => none
  | fuel + 1, v =>
    match s.body v with
    | .list items | .tuple items | .set items => some items.length
    | .dict entries => some entries.length
    | .view target => contentLength? s fuel target
    | .bytearray bs | .scalar (.bytes bs) => some bs.length
    | .scalar (.str t) => some t.length
    | .range start stop step => some (rangeLength start stop step)
    | _ => none

def length (v : Value) : Eval Nat := do
  let s ← get
  match s.ofMade? (s.classOf v) "__len__" with
  | some (.special b) => givenLength b
  | some (.value .none) => throw (.notCallable "NoneType")
  | _ =>
    match contentLength? s 3 v with
    | some n =>
      if greatestIndex < n then
        throw (.raised "OverflowError" (some "Python int too large to convert to C ssize_t"))
      else return n
    | none => throw (.noLength (s.kindFullName v))

def isTrue (v : Value) : Eval Bool := do
  let s ← get
  match s.ofMade? (s.classOf v) "__len__" with
  | some (.special b) =>
    match s.scalar v with
    | .int i => return i != 0
    | .float x => return x != 0.0
    | .complex re im => return re != 0.0 || im != 0.0
    | _ => return (← givenLength b) != 0
  | _ =>
    match s.scalar v with
    | .none => return false
    | .bool b => return b
    | .int i => return i != 0
    | .float x => return x != 0.0
    | .complex re im => return re != 0.0 || im != 0.0
    | _ => return (contentLength? s 3 v).all (· != 0)

def entriesOf (s : Store) : (fuel : Nat) → Value → Option (List (Value × Value))
  | 0, _ => none
  | fuel + 1, v =>
    match s.body v with
    | .dict entries => some entries
    | .view target => entriesOf s fuel target
    | _ => none

def contentElements? (s : Store) (v : Value) : Option (List Value) :=
  match s.body v with
  | .list items | .tuple items | .set items => some items
  | .dict _ | .view _ => (entriesOf s 3 v).map (·.map (·.1))
  | .bytearray bs | .scalar (.bytes bs) => some (bs.map fun b ↦ .int b.toNat)
  | .scalar (.str t) => some (t.toList.map fun c ↦ .str c.toString)
  | .range start stop step =>
    some ((List.range (rangeLength start stop step)).map fun (k : Nat) ↦
      .int (start + step * (k : Int)))
  | _ => none

/-- The elements that a subscript table gives for zero, one and so on. -/
def tableElements (items : List (Value × Value)) : (fuel : Nat) → (k : Nat) → Eval (List Value)
  | 0, _ => return []
  | fuel + 1, k => do
    match (← get).lookup? (.int k) items with
    | some v => return v :: (← tableElements items fuel (k + 1))
    | none => throw (.missingKey (toString k))

def elements (v : Value) : Eval (List Value) := do
  let s ← get
  match contentElements? s v with
  | some items => return items
  | none =>
    match s.ofMade? (s.classOf v) "__getitem__" with
    | some (.special b) =>
      tryCatch (do let _ ← ofExcept b; return []) fun f ↦
        if f.isA "IndexError" then return [] else throw f
    | some (.table items) => tableElements items (items.length + 1) 0
    | _ => throw (.notIterable (s.kindFullName v))

end Eval

end VariableExplorer
