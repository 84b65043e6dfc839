import VariableExplorer.Value.Equality

/-!
Attributes. A name is looked up along the classes of a value, nearest first; what a class computes
or sets aside wins over the value's own attributes, and these over everything else the classes
hold. A class may answer for the names that are found nowhere.
-/

namespace VariableExplorer

/-- An entry of a class, with the name of the class that holds it. -/
inductive Found
  | made (owner : String) (e : ClassEntry)
  | native (owner : String) (e : NativeEntry)

namespace Found

/-- Whether it wins over the value's own attributes. -/
def isData : Found → Bool
  | made _ (.property _) | made _ .slot => true
  | made _ (.value (.descriptor _ _ .computed)) => true
  | native _ .computed | native _ .member => true
  | _ => false

end Found

namespace Store

def found? (s : Store) (c : ClassRef) (name : String) : Option Found :=
  (s.lineage c).findSome? fun a ↦ match a with
    | .native n => ((NativeClass.find? n).bind (·.entries.lookup name)).map (.native n)
    | .made _ => (s.classDef? a).bind fun d ↦ (d.entries.lookup name).map (.made d.name)

def attributes (s : Store) (v : Value) : List (Value × Value) :=
  ((s.object? v).bind (·.attrs)).elim [] s.entries

def moduleName (s : Store) (v : Value) : String :=
  match s.lookup? (.str "__name__") (s.attributes v) with
  | some (.str name) => name
  | _ => "?"

/-- The module of a class, empty for the classes that need no qualification. -/
def classModule (s : Store) : ClassRef → String
  | .native name => (NativeClass.find? name).elim "" (·.module)
  | c => (s.classDef? c).elim "" (·.module)

end Store

namespace Eval

def newFunction (name : String) : Eval Value := do
  return .ref (← alloc ⟨.native "function", .function name name, some (← alloc ⟨.native "dict",
    .dict [], none, []⟩), []⟩)

def newMethod (bearer func : Value) : Eval Value := do
  return .ref (← alloc ⟨.native "method", .method bearer func, none, []⟩)

def newView (entries : List (Value × Value)) : Eval Value := do
  return .ref (← alloc ⟨.native "mappingproxy", .view (← newDict entries), none, []⟩)

def stored (owner name : String) : Found → Eval Value
  | .made _ (.value v) => return v
  | .made _ (.property _) => return .ref (← alloc ⟨.native "property", .plain, none, []⟩)
  | .made _ (.special _) | .made _ (.table _) | .native _ .defined => newFunction name
  | .made _ .slot => return .descriptor owner name .member
  | .native _ (.text content) => return .str content
  | .native _ .nothing => return .none
  | .native _ e => return .descriptor owner name e

def classEntries (c : ClassRef) : Eval (List (Value × Value)) := do
  let s ← get
  match c with
  | .native n =>
    ((NativeClass.find? n).elim [] (·.entries)).mapM fun (name, e) ↦
      return (.str name, ← stored n name (.native n e))
  | .made _ =>
    match s.classDef? c with
    | none => return []
    | some d => d.entries.mapM fun (name, e) ↦
      return (.str name, ← stored d.name name (.made d.name e))

def ofClass (c : ClassRef) (name : String) : Eval Value := do
  let s ← get
  if name = "__name__" || name = "__qualname__" then return .str (s.className c)
  else if name = "__dict__" then newView (← classEntries c)
  else if name = "__mro__" then newTuple ((s.lineage c).map (·.toValue))
  else if name = "__bases__" then newTuple (((s.lineage c).drop 1).take 1 |>.map (·.toValue))
  else if name = "__base__" then return (((s.lineage c).drop 1).head?.map (·.toValue)).getD .none
  else if name = "__module__" then
    let m := s.classModule c
    return .str (if m = "" then "builtins" else m)
  else if name = "__doc__" then
    match c with
    | .native n => match (NativeClass.find? n).bind (·.entries.lookup name) with
      | some (.text content) => return .str content
      | _ => return .none
    | .made _ => match (s.classDef? c).bind (·.entries.lookup name) with
      | some (.value v) => return v
      | _ => return .none
  else return .none

/-- The value that a native class computes for, or stores in, a value of it. -/
def computed (v : Value) (name : String) : Eval Value := do
  let s ← get
  if name = "__class__" then return (s.classOf v).toValue
  else if name = "__dict__" then
    match (s.object? v).bind (·.attrs) with
    | some r => return .ref r
    | none => throw (.noAttribute (s.kindFullName v) name)
  else
    match s.body v with
    -- whole numbers are fractions and complex numbers too
    | .scalar (.bool b) => return .int (if name = "imag" then 0 else if name = "denominator" then 1
        else if b then 1 else 0)
    | .scalar (.int i) => return .int (if name = "imag" then 0 else if name = "denominator" then 1
        else i)
    | .scalar (.float x) => return .float (if name = "imag" then 0.0 else x)
    | .scalar (.complex re im) => return .float (if name = "imag" then im else re)
    | .scalar (.function f) =>
      return if name = "__name__" || name = "__qualname__" then .str f
        else if name = "__module__" then .str "builtins" else .none
    | .scalar (.operation bearer f) | .scalar (.wrapper bearer f) =>
      return if name = "__name__" then .str f
        else if name = "__qualname__" then .str (s.kindName bearer ++ "." ++ f)
        else if name = "__self__" then bearer else .none
    | .scalar (.descriptor owner f _) =>
      return if name = "__name__" then .str f
        else if name = "__qualname__" then .str (owner ++ "." ++ f)
        else if name = "__objclass__" then .native owner else .none
    | .range start stop step =>
      return .int (if name = "start" then start else if name = "stop" then stop else step)
    | .function f qualified =>
      return if name = "__name__" then .str f
        else if name = "__qualname__" then .str qualified else .none
    | .method bearer func =>
      return if name = "__self__" then bearer else if name = "__func__" then func else .none
    | .partialCall func args =>
      if name = "func" then return func
      else if name = "args" then newTuple args
      else if name = "keywords" then newDict [] else return .none
    | .exception args =>
      if name = "args" then newTuple args
      else return if name = "__suppress_context__" then .bool false else .none
    | _ => return .none

def bind (v : Value) (name : String) : Found → Eval Value
  | .made _ (.value (.descriptor _ _ .computed)) =>
    if name = "__dict__" then computed v name else return .none
  | .made _ (.value w) => do
    match (← get).body w with
    | .function _ _ => newMethod v w
    | _ => return w
  | .made _ (.property b) => ofExcept b
  | .made _ (.special _) | .made _ (.table _) | .native _ .defined => do
    newMethod v (← newFunction name)
  | .made _ .slot => do
    let s ← get
    match (s.object? v).bind (·.slots.lookup name) with
    | some w => return w
    | none => throw (.noAttribute (s.kindFullName v) name)
  | .native _ .method => return .operation v name
  | .native _ .wrapper => return .wrapper v name
  | .native _ .classMethod => return .operation ((← get).classOf v).toValue name
  | .native _ .computed | .native _ .member => computed v name
  | .native owner .function => return .descriptor owner name .function
  | .native _ (.text content) => return .str content
  | .native _ .nothing => return .none

/-- The attribute of a value that is no class, before its class answers for missing names. -/
def plainAttr (v : Value) (name : String) : Eval Value := do
  let s ← get
  let found := s.found? (s.classOf v) name
  match found with
  | some f => if f.isData then bind v name f else ofOwn s found
  | none => ofOwn s found
where
  ofOwn (s : Store) (found : Option Found) : Eval Value :=
    match s.lookup? (.str name) (s.attributes v), found with
    | some w, _ => return w
    | none, some f => bind v name f
    | none, none =>
      match s.body v with
      | .method _ func =>
        match s.found? (s.classOf func) name with
        | some f => bind func name f
        | none => throw (.noAttribute (s.kindFullName func) name)
      | .module => throw (.moduleNoAttribute (s.moduleName v) name)
      | _ => throw (.noAttribute (s.kindFullName v) name)

def classAttr (c : ClassRef) (name : String) : Eval Value := do
  let s ← get
  let general := s.found? (.native "type") name
  match general with
  | some f => if f.isData then ofGeneral s else ofOwn s general
  | none => ofOwn s general
where
  ofGeneral (s : Store) : Eval Value :=
    if name = "__class__" then return (s.classOf c.toValue).toValue else ofClass c name
  ofOwn (s : Store) (general : Option Found) : Eval Value := do
    match s.found? c name with
    | some (.native _ .classMethod) => return .operation c.toValue name
    | some found => match found with
      | .made owner _ | .native owner _ => stored owner name found
    | none => match general with
      | some found => bind c.toValue name found
      | none => throw (.classNoAttribute (s.className c) name)

def getAttr (v : Value) (name : String) : Eval Value := do
  let s ← get
  match s.asClass? v with
  | some c => classAttr c name
  | none =>
    match s.ofMade? (s.classOf v) "__getattr__" with
    | some (.special b) =>
      tryCatch (plainAttr v name) fun f ↦ if f.isA "AttributeError" then ofExcept b else throw f
    | _ => plainAttr v name

def getAttr? (v : Value) (name : String) : Eval (Option Value) :=
  tryCatch (return some (← getAttr v name)) fun f ↦
    if f.isA "AttributeError" then return none else throw f

def hasAttr (v : Value) (name : String) : Eval Bool := return (← getAttr? v name).isSome

def vars (v : Value) : Eval Value := do
  match ← getAttr? v "__dict__" with
  | some d => return d
  | none => throw .noVariables

/-- Whether a value is of a native class, by its own class or by the class it claims to have. -/
def isOf (v : Value) (name : String) : Eval Bool := do
  let s ← get
  if s.isKind v [name] then return true
  else
    match ← getAttr? v "__class__" with
    | some c =>
      let s ← get
      return (s.asClass? c).any (s.derives · [name])
    | none => return false

def isInstance (v : Value) : (names : List String) → Eval Bool
  | [] => return false
  | name :: names => do
    if ← isOf v name then return true else isInstance v names

def mappingKinds : List String := ["Mapping", "dict", "mappingproxy"]

def isMapping (v : Value) : Eval Bool := do
  let c ← getAttr v "__class__"
  let s ← get
  match s.asClass? c with
  | some c => return s.derives c mappingKinds || s.isKind v mappingKinds
  | none => throw (.argumentCount "issubclass() arg 1 must be a class")

end Eval

namespace Store

def isCallable (s : Store) (v : Value) : Bool :=
  match v with
  | .native _ | .function _ | .operation _ _ | .wrapper _ _ => true
  | .descriptor _ _ e => match e with
    | .computed | .member => false
    | _ => true
  | v =>
    match s.body v with
    | .function _ _ | .method _ _ | .partialCall _ _ | .classDef _ => true
    | _ => match s.ofMade? (s.classOf v) "__call__" with
      | some (.value .none) => false
      | some _ => true
      | none => false

end Store

end VariableExplorer
