import VariableExplorer.Expression.Evaluation

/-!
Recipes: values described so that they can be made in any store. A recipe is what is sent where a
store cannot go; each making yields new objects.
-/

namespace VariableExplorer

abbrev Recipe := Eval Value

structure FaultSpec where
  kind : String
  text : Option String
  deriving Repr, DecidableEq, Inhabited

namespace FaultSpec

/-- Two names are other names for a class that has its own. -/
def className (f : FaultSpec) : String :=
  if f.kind = "IOError" || f.kind = "EnvironmentError" then "OSError" else f.kind

def toFault (f : FaultSpec) : Fault := .raised f.className f.text

end FaultSpec

/-- What a special method or a property does: it raises or gives what a recipe makes. -/
abbrev BehaviourSpec := Except FaultSpec Recipe

namespace Recipe

def list (items : List Recipe) : Recipe := do Eval.newList (← items.mapM id)

def tuple (items : List Recipe) : Recipe := do Eval.newTuple (← items.mapM id)

def set (cls : String) (items : List Recipe) : Recipe := do Eval.newSet cls (← items.mapM id)

def entries (pairs : List (Recipe × Recipe)) : Eval (List (Value × Value)) := do
  Eval.dictEntries (← Eval.inPairs (pairs.map (·.1)) (pairs.map (·.2)))

def dict (pairs : List (Recipe × Recipe)) : Recipe := do Eval.newDict (← entries pairs)

def newAttrs (entries : List (Value × Value)) : Eval Ref :=
  Eval.alloc ⟨.native "dict", .dict entries, none, []⟩

def ordered (pairs : List (Recipe × Recipe)) : Recipe := do
  let es ← entries pairs
  return .ref (← Eval.alloc ⟨.native "OrderedDict", .dict es, some (← newAttrs []), []⟩)

def proxy (pairs : List (Recipe × Recipe)) : Recipe := do Eval.newView (← entries pairs)

def ofRefs (names : List String) : List ClassRef := names.map .native

def classTail (module name : String) (hasDict : Bool) : List (String × ClassEntry) :=
  ("__module__", .value (.str module)) ::
    (if hasDict then [
      ("__dict__", .value (.descriptor name "__dict__" .computed)),
      ("__weakref__", .value (.descriptor name "__weakref__" .computed))] else []) ++
    [("__doc__", .value .none)]

def newClass (d : ClassDef) : Eval Ref := Eval.alloc ⟨.native "type", .classDef d, none, []⟩

def mapping (module cls : String) (pairs : List (Recipe × Recipe)) : Recipe := do
  let inner ← dict pairs
  let chain := ofRefs ["Mapping", "Collection", "Sized", "Iterable", "Container", "object"]
  let c ← newClass ⟨cls, module, chain, classTail module cls true⟩
  return .ref (← Eval.alloc ⟨.made c, .view inner, some (← newAttrs [(.str "_d", inner)]), []⟩)

def bytearray (bs : List UInt8) : Recipe := do
  return .ref (← Eval.alloc ⟨.native "bytearray", .bytearray bs, none, []⟩)

def range (start stop step : Int) : Recipe := do
  return .ref (← Eval.alloc ⟨.native "range", .range start stop step, none, []⟩)

def count (n : Nat) : Recipe := Eval.newList ((List.range n).map fun (k : Nat) ↦ .int k)

def keys (n : Nat) : Recipe :=
  Eval.newDict ((List.range n).map fun (k : Nat) ↦ (.str s!"k{k}", .int k))

inductive NestKind
  | list
  | tuple
  | dict

def nest (kind : NestKind) (leaf : Recipe) : (depth : Nat) → Recipe
  | depth => do
    (List.range depth).foldlM (fun v _ ↦ match kind with
      | .list => Eval.newList [v]
      | .tuple => Eval.newTuple [v]
      | .dict => Eval.newDict [(.str "k", v)]) (← leaf)

def cyclicList : Recipe := do
  let r ← Eval.alloc ⟨.native "list", .list [], none, []⟩
  modify fun s ↦ s.set r ⟨.native "list", .list [.int 1, .ref r], none, []⟩
  return .ref r

def cyclicDict : Recipe := do
  let r ← Eval.alloc ⟨.native "dict", .dict [], none, []⟩
  let entries : List (Value × Value) := [(.str "a", .int 1), (.str "self", .ref r)]
  modify fun s ↦ s.set r ⟨.native "dict", .dict entries, none, []⟩
  return .ref r

def named (pairs : List (String × Recipe)) : Eval (List (Value × Value)) :=
  entries (pairs.map fun (name, r) ↦ (pure (.str name), r))

def namespace_ (pairs : List (String × Recipe)) : Recipe := do
  let es ← named pairs
  return .ref (← Eval.alloc ⟨.native "SimpleNamespace", .plain, some (← newAttrs es), []⟩)

def function (name qualified : String) : Recipe := do
  let attrs ← newAttrs []
  return .ref (← Eval.alloc ⟨.native "function", .function name qualified, some attrs, []⟩)

def method (bearer : Recipe) (func : Recipe) : Recipe := do
  let v ← bearer
  Eval.newMethod v (← func)

def partialCall (func : Value) (args : List Recipe) : Recipe := do
  let vs ← args.mapM id
  return .ref (← Eval.alloc ⟨.native "partial", .partialCall func vs, some (← newAttrs []), []⟩)

/-- The class of a failure: one that is always there, or a new one. -/
def exceptionClass (module : String) (f : FaultSpec) : Eval ClassRef := do
  let name := f.className
  if name = "BaseException" || (NativeClass.exceptionParents.lookup name).isSome then
    return .native name
  else
    let chain := ofRefs ["Exception", "BaseException", "object"]
    return .made (← newClass ⟨name, module, chain, classTail module name true⟩)

def exception (module : String) (f : FaultSpec) : Recipe := do
  let c ← exceptionClass module f
  let args := f.text.toList.map .str
  return .ref (← Eval.alloc ⟨c, .exception args, some (← newAttrs []), []⟩)

def classDef (module name : String) (pairs : List (String × Recipe)) : Recipe := do
  let own ← pairs.mapM fun (n, r) ↦ return (n, ClassEntry.value (← r))
  let own := own.foldl (fun acc (n, e) ↦ acc.filter (·.1 ≠ n) ++ [(n, e)]) []
  let tail := (classTail module name true).filter fun (n, _) ↦ (own.lookup n).isNone
  return .ref (← newClass ⟨name, module, [.native "object"], own ++ tail⟩)

def module (name : String) (doc : Option String) (pairs : List (String × Recipe)) : Recipe := do
  let es ← named (pairs)
  let head : List (Value × Value) := [
    (.str "__name__", .str name), (.str "__doc__", doc.elim .none .str),
    (.str "__package__", .none),
    (.str "__loader__", .none), (.str "__spec__", .none)]
  let s ← get
  let all := es.foldl (fun acc (k, v) ↦ s.insertEntry k v acc) head
  return .ref (← Eval.alloc ⟨.native "module", .module, some (← newAttrs all), []⟩)

end Recipe

structure InstanceSpec where
  module : String
  name : String
  base : Option String
  init : Option Recipe
  /-- The classes between the class and its base, nearest first. -/
  between : List String
  baseSlots : Option (List String)
  slots : Option Recipe
  attrs : List (String × Recipe)
  classAttrs : List (String × Recipe)
  specials : List (String × BehaviourSpec)
  items : Option (Except FaultSpec (List (Recipe × Recipe)))
  properties : List (String × BehaviourSpec)
  /-- Slots that are assigned to the class once the value exists. -/
  lateSlots : Option Recipe
  deriving Inhabited

namespace Recipe

def behaviour (b : BehaviourSpec) : Eval Behaviour := do
  match b with
  | .error f => return .error f.toFault
  | .ok r => return .ok (← r)

def slotNames (v : Value) : Eval (List String) := do
  let s ← get
  match v with
  | .str name => return [name]
  | v => return ((Eval.contentElements? s v).getD []).filterMap fun w ↦ match w with
    | .str name => some name
    | _ => none

def content (base : String) (init : Option Value) : Eval Body := do
  let s ← get
  let items : Eval (List Value) := match init with
    | some v => Eval.elements v
    | none => return []
  let number := init.bind fun v ↦ Number.ofValue? (s.scalar v)
  match base with
  | "list" => return .list (← items)
  | "tuple" => return .tuple (← items)
  | "set" | "frozenset" => do
    -- equal values are one, in the order in which a set lists them
    let vs ← items
    return .set (Eval.arrange s (s.distinct vs))
  | "dict" | "OrderedDict" => return .dict ((init.bind (Eval.entriesOf s 3)).getD [])
  | "int" =>
    match init with
    | some v => return .scalar (← Eval.construct "int" [v])
    | none => return .scalar (.int 0)
  | "float" =>
    match number with
    | some n => return .scalar (.float (← ofExcept n.toFloat))
    | none => return .scalar (.float 0.0)
  | "complex" =>
    match number with
    | some n => do
      let (re, im) ← ofExcept n.parts
      return .scalar (.complex re im)
    | none => return .scalar (.complex 0.0 0.0)
  | "str" =>
    match init with
    | some v => return .scalar (.str (← Eval.plain v))
    | none => return .scalar (.str "")
  | "bytes" =>
    match init.map s.body with
    | some (.scalar (.bytes bs)) | some (.bytearray bs) => return .scalar (.bytes bs)
    | _ => return .scalar (.bytes [])
  | "bytearray" =>
    match init.map s.body with
    | some (.scalar (.bytes bs)) | some (.bytearray bs) => return .bytearray bs
    | _ => return .bytearray []
  | _ =>
    if base = "BaseException" || (NativeClass.exceptionParents.lookup base).isSome then
      return .exception init.toList
    else return .plain

/-- The classes from which a value made to order derives, nearest first: the classes in between, one
that sets slots aside, and the native ones. -/
def lineage (spec : InstanceSpec) : Eval (List ClassRef) := do
  let native := match spec.base with
    | some b => ofRefs (b :: (NativeClass.find? b).elim ["object"] (·.ancestors))
    | none => [.native "object"]
  let chain ← match spec.baseSlots with
    | none => pure native
    | some names =>
      let own := ("__slots__", ClassEntry.value (← Eval.newTuple (names.map .str))) ::
        names.map fun n ↦ (n, ClassEntry.slot)
      let c ← newClass ⟨"Base", spec.module, native, own ++ classTail spec.module "Base" false⟩
      pure (.made c :: native)
  spec.between.reverse.foldlM (fun (chain : List ClassRef) name ↦ do
    let c ← newClass ⟨name, spec.module, chain, classTail spec.module name true⟩
    return ClassRef.made c :: chain) chain

def declared (spec : InstanceSpec) : Eval (Option (Value × List String)) :=
  match spec.slots with
  | none => return none
  | some r => do
    let v ← r
    return some (v, ← slotNames v)

def slotEntries : Option (Value × List String) → List (String × ClassEntry)
  | none => []
  | some (v, names) => ("__slots__", .value v) ::
      (names.filter (fun n ↦ n ≠ "__dict__" && n ≠ "__weakref__")).map fun n ↦ (n, .slot)

def itemEntries : Option (Except FaultSpec (List (Recipe × Recipe))) →
    Eval (List (String × ClassEntry))
  | none => return []
  | some (.error f) => return [("__getitem__", ClassEntry.special (.error f.toFault))]
  | some (.ok pairs) => do return [("__getitem__", ClassEntry.table (← entries pairs))]

def ownEntries (spec : InstanceSpec) : Eval (List (String × ClassEntry)) := do
  let specials ← spec.specials.mapM fun (n, b) ↦ return (n, ClassEntry.special (← behaviour b))
  let defaultText : List (String × ClassEntry) :=
    if spec.base.isNone && (specials.lookup "__repr__").isNone then
      [("__repr__", .special (.ok (.str s!"<{spec.name}>")))] else []
  let items ← itemEntries spec.items
  let properties ← spec.properties.mapM fun (n, b) ↦ return (n, ClassEntry.property (← behaviour b))
  let classAttrs ← spec.classAttrs.mapM fun (n, r) ↦ return (n, ClassEntry.value (← r))
  return specials ++ defaultText ++ items ++ properties ++ classAttrs

/-- A new value of a class; its attributes go to the slots or to its dictionary. -/
def fill (spec : InstanceSpec) (c : Ref) (hasDict : Bool) : Eval Ref := do
  let init ← match spec.init with
    | none => pure none
    | some r => do pure (some (← r))
  let body ← match spec.base with
    | none => pure Body.plain
    | some b => content b init
  let attrs ← spec.attrs.mapM fun (n, r) ↦ do return (n, ← r)
  let s ← get
  let isSlot (n : String) : Bool := match s.ofMade? (.made c) n with
    | some .slot => true
    | _ => false
  let inDict := (attrs.filter (!isSlot ·.1)).foldl
    (fun acc (n, v) ↦ s.insertEntry (.str n) v acc) []
  let dictRef ← if hasDict then do pure (some (← newAttrs inDict)) else pure none
  Eval.alloc ⟨.made c, body, dictRef, attrs.filter (isSlot ·.1)⟩

def declareLate (d : ClassDef) (c : Ref) : Option Recipe → Eval Unit
  | none => return
  | some r => do
    let v ← r
    let late := (d.entries.filter (·.1 ≠ "__slots__")) ++ [("__slots__", ClassEntry.value v)]
    modify fun s ↦
      s.set c ⟨.native "type", .classDef ⟨d.name, d.module, d.ancestors, late⟩, none, []⟩

def instance_ (spec : InstanceSpec) : Recipe := do
  let chain ← lineage spec
  let declared ← declared spec
  let fixed := declared.any (!·.2.contains "__dict__") && spec.between.isEmpty
  let own := (← ownEntries spec) ++ slotEntries declared
  let tail := (classTail spec.module spec.name (!fixed)).filter fun (n, _) ↦ (own.lookup n).isNone
  let d : ClassDef := ⟨spec.name, spec.module, chain, own ++ tail⟩
  let c ← newClass d
  let o ← fill spec c (!fixed)
  declareLate d c spec.lateSlots
  return .ref o

end Recipe

end VariableExplorer
