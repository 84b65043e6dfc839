import VariableExplorer.Value.Fault

/-!
Values and the store they live in. Values without parts stand for themselves; all others are
references to objects of the store, so that two names can hold one object and an object can hold
itself. Evaluation reads and extends the store, and may fail with the store it has reached.
-/

namespace VariableExplorer

abbrev Ref := Nat

/-- A class: one that is always there, or one made as an object of the store. -/
inductive ClassRef
  | native (name : String)
  | made (r : Ref)
  deriving Repr, DecidableEq, Inhabited

inductive Value
  | none
  | ellipsis
  | bool (b : Bool)
  | int (i : Int)
  | float (x : Float)
  | complex (re im : Float)
  | str (s : String)
  | bytes (bs : List UInt8)
  /-- A class that is always there. -/
  | native (name : String)
  /-- A function that is always there. -/
  | function (name : String)
  /-- An operation of a native class, bound to a value. -/
  | operation (bearer : Value) (name : String)
  /-- A special operation of a native class, bound to a value. -/
  | wrapper (bearer : Value) (name : String)
  /-- An entry of a class, not bound to any value. -/
  | descriptor (owner name : String) (entry : NativeEntry)
  | ref (r : Ref)
  deriving Repr, Inhabited

/-- What a scripted special method or property does: it gives a value or raises. -/
abbrev Behaviour := Except Fault Value

inductive ClassEntry
  | value (v : Value)
  | property (b : Behaviour)
  | special (b : Behaviour)
  /-- The subscript operation, by a table of keys. -/
  | table (items : List (Value × Value))
  /-- Storage that the class sets aside in each of its values. -/
  | slot

structure ClassDef where
  name : String
  module : String
  /-- The nearest first, without the class itself. -/
  ancestors : List ClassRef
  entries : List (String × ClassEntry)

inductive Body
  | plain
  /-- A value without parts, as an instance of a class derived from its own. -/
  | scalar (v : Value)
  | list (items : List Value)
  | tuple (items : List Value)
  | set (items : List Value)
  | dict (entries : List (Value × Value))
  /-- The entries of another object. -/
  | view (target : Value)
  | bytearray (bs : List UInt8)
  | range (start stop step : Int)
  | function (name qualified : String)
  | method (bearer func : Value)
  | partialCall (func : Value) (args : List Value)
  | exception (args : List Value)
  | module
  | classDef (d : ClassDef)

structure Object where
  cls : ClassRef
  body : Body := .plain
  attrs : Option Ref := .none
  slots : List (String × Value) := []

structure Store where
  objects : Array Object := #[]

/-- Evaluation over the store; a failure keeps what was stored before it. -/
abbrev Eval := ExceptT Fault (StateM Store)

namespace Store

def get? (s : Store) (r : Ref) : Option Object := s.objects[r]?

def alloc (s : Store) (o : Object) : Store × Ref := (⟨s.objects.push o⟩, s.objects.size)

def set (s : Store) (r : Ref) (o : Object) : Store := ⟨s.objects.setIfInBounds r o⟩

/-- The entries of a dictionary object, none for anything else. -/
def entries (s : Store) (r : Ref) : List (Value × Value) :=
  match s.get? r with
  | some ⟨_, .dict es, _, _⟩ => es
  | _ => []

def object? (s : Store) : Value → Option Object
  | .ref r => s.get? r
  | _ => none

/-- The content of a value; values without parts are their own. -/
def body (s : Store) (v : Value) : Body :=
  match v with
  | .ref r => match s.get? r with
    | some o => o.body
    | none => .plain
  | v => .scalar v

/-- The value without parts that a value is or derives from. -/
def scalar (s : Store) (v : Value) : Value :=
  match s.body v with
  | .scalar w => w
  | _ => v

def classOf (s : Store) : Value → ClassRef
  | .none => .native "NoneType"
  | .ellipsis => .native "ellipsis"
  | .bool _ => .native "bool"
  | .int _ => .native "int"
  | .float _ => .native "float"
  | .complex _ _ => .native "complex"
  | .str _ => .native "str"
  | .bytes _ => .native "bytes"
  | .native _ => .native "type"
  | .function _ => .native "builtin_function_or_method"
  | .operation _ _ => .native "builtin_function_or_method"
  | .wrapper _ _ => .native "method-wrapper"
  | .descriptor _ _ .wrapper => .native "wrapper_descriptor"
  | .descriptor _ _ .method => .native "method_descriptor"
  | .descriptor _ _ .classMethod => .native "classmethod_descriptor"
  | .descriptor _ _ .member => .native "member_descriptor"
  | .descriptor _ _ .computed => .native "getset_descriptor"
  | .descriptor _ _ _ => .native "builtin_function_or_method"
  | .ref r => match s.get? r with
    | some o => o.cls
    | none => .native "object"

def classDef? (s : Store) : ClassRef → Option ClassDef
  | .native _ => none
  | .made r => match s.get? r with
    | some ⟨_, .classDef d, _, _⟩ => some d
    | _ => none

def lineage (s : Store) (c : ClassRef) : List ClassRef :=
  match c with
  | .native name => c :: ((NativeClass.find? name).elim ["object"] (·.ancestors)).map .native
  | .made _ => c :: (s.classDef? c).elim [.native "object"] (·.ancestors)

def className (s : Store) (c : ClassRef) : String :=
  match c with
  | .native name => name
  | .made _ => (s.classDef? c).elim "" (·.name)

def fullName (s : Store) (c : ClassRef) : String :=
  match c with
  | .native name => (NativeClass.find? name).elim name (·.fullName)
  | .made _ => s.className c

def kindName (s : Store) (v : Value) : String := s.className (s.classOf v)

def kindFullName (s : Store) (v : Value) : String := s.fullName (s.classOf v)

def derives (s : Store) (c : ClassRef) (names : List String) : Bool :=
  (s.lineage c).any fun a ↦ match a with
    | .native name => names.contains name
    | .made _ => false

/-- Whether the value's own class is or derives from one of the named classes. -/
def isKind (s : Store) (v : Value) (names : List String) : Bool := s.derives (s.classOf v) names

def asClass? (s : Store) : Value → Option ClassRef
  | .native name => some (.native name)
  | .ref r => if (s.classDef? (.made r)).isSome then some (.made r) else none
  | _ => none

/-- The nearest entry of that name among the classes of a value that were made. -/
def ofMade? (s : Store) (c : ClassRef) (name : String) : Option ClassEntry :=
  (s.lineage c).findSome? fun a ↦ (s.classDef? a).bind (·.entries.lookup name)

end Store

def ClassRef.toValue : ClassRef → Value
  | .native name => .native name
  | .made r => .ref r

namespace Eval

def alloc (o : Object) : Eval Ref := fun s ↦ let (s, r) := s.alloc o; (.ok r, s)

def newList (items : List Value) : Eval Value :=
  return .ref (← alloc ⟨.native "list", .list items, .none, []⟩)

def newTuple (items : List Value) : Eval Value :=
  return .ref (← alloc ⟨.native "tuple", .tuple items, .none, []⟩)

def newDict (entries : List (Value × Value)) : Eval Value :=
  return .ref (← alloc ⟨.native "dict", .dict entries, .none, []⟩)

/-- Hands ordinary failures to a handler; the store stays as the failure left it. -/
def handle {α : Type} (x : Eval α) (h : Fault → Eval α) : Eval α :=
  tryCatch x fun f ↦ if f.isOrdinary then h f else throw f

/-- Evaluation whose result and failures refer to no value: what it makes on the way does not
outlast it. -/
def transient {α : Type} (x : Eval α) : Eval α := fun s ↦ ((x.run s).1, s)

end Eval

end VariableExplorer
