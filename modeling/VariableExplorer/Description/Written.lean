import VariableExplorer.Description.Info
import VariableExplorer.Description.Outcome
import VariableExplorer.Json.Access

/-!
Descriptions and outcomes written as JSON objects. Properties that were not asked for are written
with their defaults, and a field that is missing stands for its default.
-/

namespace VariableExplorer

open Json

def Property.ofJson : Json → List Property
  | .str "all" => all
  | j => all.filter fun p ↦ j.texts.contains p.name

def Property.toJson (ps : List Property) : Json :=
  ofTexts ((all.filter ps.contains).map Property.name)

namespace ValueInfo

def toJson (i : ValueInfo) : Json := .obj [
  ("name", .str i.name), ("expression", .str i.expression),
  ("accessor_kind", .str i.accessorKind.name), ("type_name", ofOption .str i.typeName),
  ("classes", ofTexts i.classes), ("length", ofOption .int i.length),
  ("slot_count", ofOption .int i.slotCount), ("attribute_count", ofOption .int i.attributeCount),
  ("dim", ofOption (fun ds ↦ .arr (ds.map .int)) i.dim), ("flags", ofTexts i.flags.names),
  ("has_children", ofOption .bool i.hasChildren),
  ("representation", ofOption .str i.representation), ("is_hidden", .bool i.isHidden)]

def ofJson (j : Json) : ValueInfo :=
  { name := (j.get "name").text
    expression := (j.get "expression").text
    accessorKind := .ofName (j.get "accessor_kind").text
    typeName := (j.get "type_name").text?
    classes := (j.get "classes").texts
    length := (j.get "length").int?
    slotCount := (j.get "slot_count").int?
    attributeCount := (j.get "attribute_count").int?
    dim := (j.get "dim").opt.map fun d ↦ d.items.map toInt
    flags := .ofNames (j.get "flags").texts
    hasChildren := (j.get "has_children").opt.map truth
    representation := (j.get "representation").text? }

end ValueInfo

def StackFrame.toJson (f : StackFrame) : Json := .obj [
  ("index", .int f.index), ("call", .str f.call), ("is_global", .bool f.isGlobal),
  ("environment", .str f.environment)]

def StackFrame.ofJson (j : Json) : StackFrame :=
  ⟨(j.get "index").toInt, (j.get "call").text, (j.get "is_global").truth,
    (j.get "environment").text⟩

def Descriptor.toJson (d : Descriptor) : Json := .obj [
  ("name", .str d.name), ("kind", .str d.kind.name), ("is_hidden", .bool d.isHidden),
  ("type_name", .str d.typeName), ("summary", .str d.summary)]

def Candidate.toJson (c : Candidate) : Json := .obj [
  ("display_name", .str c.displayName), ("kind", .str c.kind.name),
  ("description", .str c.description)]

/-- The value is written where there is one or should be one, the error where there is one. -/
def Outcome.toJson {α : Type} (f : α → Json) (o : Outcome α) : Json :=
  .obj ([("status", .str o.status.name), ("ok", .bool o.ok)] ++
    (if o.ok || o.value.isSome then [("value", ofOption f o.value)] else []) ++
    o.error.toList.map fun e ↦ ("error", .str e))

end VariableExplorer
