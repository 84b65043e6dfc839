import VariableExplorer.Description.Summary

/-!
Describing a value: the properties asked for are filled in, the others keep their defaults. A
value whose properties cannot be read still has a bare description.
-/

namespace VariableExplorer

/-- What to describe: a value under a name, and how a reader gets to it. -/
structure Request where
  name : String
  expression : String
  kind : AccessorKind
  properties : List Property
  representation : Representation := .none
  deriving Repr, DecidableEq

namespace Describe

def length (v : Value) : Eval (Option Int) := do
  if ← Eval.isInstance v ["str", "bytes"] then return none
  else if !(← Eval.hasAttr v "__len__") then return none
  else Eval.handle (return some (← Eval.length v)) fun _ ↦ return none

def attributeCount (v : Value) : Eval Nat :=
  Eval.handle (do Eval.length (← Eval.vars v)) fun _ ↦ return 0

def hasChildren (v : Value) : Eval Bool :=
  Eval.handle (do return (← Child.first? (← Child.members v "")).isSome) fun _ ↦ return false

def flags (name : String) (v : Value) : Eval Flags := do
  let hidden := isHiddenName name
  if ← Eval.isInstance v Child.atomicKinds then return ⟨true, false, hidden⟩
  else if ← Eval.isMapping v then return ⟨false, true, hidden⟩
  else return ⟨false, ← Eval.isInstance v ["list", "tuple"], hidden⟩

def classNames (s : Store) (v : Value) : List String := (s.lineage (s.classOf v)).map s.className

def asked {α : Type} (r : Request) (p : Property) (default : α) (x : Eval α) : Eval α :=
  if r.properties.contains p then x else return default

def read (r : Request) (v : Value) : Eval ValueInfo := do
  let s ← get
  -- What is not asked for is not read.
  let typeName ← asked r .typeName none (some <$> Summary.typeName v)
  let length ← asked r .length none (length v)
  let slotCount ← asked r .slotCount none (do
    return some ((← Child.slots v).length : Int))
  let attributeCount ← asked r .attributeCount none (do
    return some (← attributeCount v : Int))
  let dim ← asked r .dim none (do
    let dims ← Summary.dimensions v
    let s ← get
    return dims.map fun (_, items) ↦ items.map fun n ↦ (s.asInt? n).getD 0)
  let flags ← asked r .flags {} (flags r.name v)
  let hasChildren ← asked r .hasChildren none (some <$> hasChildren v)
  let representation ← match r.representation with
    | .none => pure none
    | .summary => some <$> summarise v
    | .shown => some <$> Summary.sample sampleLimit v
  return {
    name := r.name
    expression := if r.properties.contains .expression then r.expression else ""
    accessorKind := if r.properties.contains .accessorKind then r.kind else .other
    typeName := typeName
    classes := if r.properties.contains .classes then classNames s v else []
    length := length
    slotCount := slotCount
    attributeCount := attributeCount
    dim := dim
    flags := flags
    hasChildren := hasChildren
    representation := representation }

end Describe

/-- A description holds texts and numbers, and no value that was made to read them. -/
def describe (r : Request) (v : Value) : Eval ValueInfo := Eval.transient (Describe.read r v)

/-- The part of a description that needs nothing of the value but its class. -/
def describeBare (r : Request) (s : Store) (v : Value) : ValueInfo :=
  let kind := s.kindName v
  { name := r.name
    expression := if r.properties.contains .expression then r.expression else ""
    accessorKind := if r.properties.contains .accessorKind then r.kind else .other
    typeName := if r.properties.contains .typeName then some kind else none
    flags := if r.properties.contains .flags then ⟨false, false, isHiddenName r.name⟩ else {}
    representation := if r.representation = .none then none else some (failedText kind) }

end VariableExplorer
