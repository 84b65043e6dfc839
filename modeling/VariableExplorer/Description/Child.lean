import VariableExplorer.Description.Info
import VariableExplorer.Value.Subscript

/-!
The members of a value: the entries of a mapping, the columns of a table, the elements of a
sequence, or else the attributes and filled slots of an object. Each has a chain that leads to it.
-/

namespace VariableExplorer

structure Child where
  name : String
  expression : String
  kind : AccessorKind
  value : Value

namespace Child

/-- What a value's own operation of that name lists, where it lists the entries of a mapping. -/
def entriesBy (v : Value) (operation : String) : Eval (List (Value × Value)) := do
  let m ← Eval.getAttr v operation
  let s ← get
  let fail : Eval (List (Value × Value)) :=
    if s.isCallable m then throw (.notIterable "NoneType")
    else throw (.notCallable (s.kindFullName m))
  match m with
  | .operation bearer name => if name = operation then given s bearer fail else fail
  | .ref _ =>
    match s.body m with
    | .method bearer func =>
      match s.body func with
      | .function name _ => if name = operation then given s bearer fail else fail
      | _ => fail
    | _ => fail
  | _ => fail
where
  given (s : Store) (bearer : Value) (fail : Eval (List (Value × Value))) :
      Eval (List (Value × Value)) :=
    match Eval.entriesOf s 3 bearer with
    | some entries => return entries
    | none => fail

def ofEntry (expression : String) (k v : Value) : Eval (Option Child) := do
  if ← Eval.isInstance k ["str"] then
    let name ← Eval.plain k
    return some ⟨"$" ++ name, expression ++ "$" ++ name, .dollar, v⟩
  else
    let key ← Eval.shown k
    return some ⟨"[[" ++ key ++ "]]", expression ++ "[" ++ key ++ "]", .positional, v⟩

def ofColumn (v : Value) (expression : String) (c : Value) : Eval (Option Child) := do
  let name ← Eval.plain c
  return some ⟨"$" ++ name, expression ++ "$" ++ name, .dollar, ← Eval.getItem v c⟩

def ofElement (expression : String) (i : Nat) (v : Value) : Child :=
  ⟨s!"[[{i}]]", s!"{expression}[{i}]", .positional, v⟩

def ofAttribute (expression : String) (name : String) (v : Value) : Child :=
  ⟨"@" ++ name, expression ++ "@" ++ name, .at, v⟩

/-- The slots that the class of a value declares, or the nearest of its ancestors that does. -/
def slots (v : Value) : Eval (List Value) := do
  let s ← get
  match ← tryCatch (return some (← Eval.classAttr (s.classOf v) "__slots__")) (fun f ↦
      if f.isA "AttributeError" then return none else throw f) with
  | none => return []
  | some declared =>
    if ← Eval.isInstance declared ["str"] then return [declared] else Eval.elements declared

def ofSlot (v : Value) (expression : String) (attrs : List (Value × Value)) (slot : Value) :
    Eval (Option Child) := do
  Eval.checkKey slot
  let s ← get
  if (s.lookup? slot attrs).isSome then return none
  else
    match s.scalar slot with
    | .str name =>
      match ← Eval.getAttr? v name with
      | some w => return some (ofAttribute expression name w)
      | none => return none
    | _ => throw (.badAttributeName (s.kindFullName slot))

def atomicKinds : List String := ["int", "float", "complex", "bool", "str", "bytes", "NoneType"]

def ofObject (v : Value) (expression : String) : Eval (List (Eval (Option Child))) := do
  let attrs ← tryCatch (return some (← Eval.vars v)) (fun f ↦
    if f.isA "TypeError" then return none else throw f)
  let entries ← match attrs with
    | some d => entriesBy d "items"
    | none => pure []
  let own : List (Eval (Option Child)) := entries.map fun (k, w) ↦ do
    return some (ofAttribute expression (← Eval.plain k) w)
  let declared : List (Eval (Option Child)) ← tryCatch
    (return (← slots v).map (ofSlot v expression entries)) (fun f ↦ return [throw f])
  return own ++ declared

/-- The members of a value, each still to be read; one that is absent gives none. -/
def members (v : Value) (expression : String) : Eval (List (Eval (Option Child))) := do
  if ← Eval.isMapping v then
    return (← entriesBy v "items").map fun (k, w) ↦ ofEntry expression k w
  else
    let columns ← Eval.getAttr? v "columns"
    let isTable ← match columns with
      | none | some .none => pure false
      | some _ =>
        if ← Eval.isInstance v ["type"] then pure false else Eval.hasAttr v "__getitem__"
    if isTable then
      return (← Eval.elements (columns.getD .none)).map (ofColumn v expression)
    else if ← Eval.isInstance v ["list", "tuple"] then
      return (← Eval.elements v).mapIdx fun i w ↦ return some (ofElement expression i w)
    else if ← Eval.isInstance v atomicKinds then return []
    else ofObject v expression

def ofEnvironment (env : Ref) : Eval (List (Eval (Option Child))) := do
  let s ← get
  return (s.entries env).map fun (k, v) ↦ do
    match k with
    | .str name => return some ⟨name, name, .other, v⟩
    | k => throw (.notSubscriptable ((← get).kindFullName k))

def readAll : List (Eval (Option Child)) → Eval (List Child × Option Fault)
  | [] => return ([], none)
  | m :: ms => do
    match ← tryCatch (Except.ok <$> m) (fun f ↦ return .error f) with
    | .error f => return ([], some f)
    | .ok found =>
      let (rest, fault) ← readAll ms
      return (found.toList ++ rest, fault)

def first? : List (Eval (Option Child)) → Eval (Option Child)
  | [] => return none
  | m :: ms => do
    match ← m with
    | some c => return some c
    | none => first? ms

end Child

end VariableExplorer
