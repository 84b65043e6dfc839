/-!
Descriptions of values as they are handed to readers: which properties can be asked for, and what
an answer holds.
-/

namespace VariableExplorer

inductive AccessorKind
  | dollar
  | at
  | positional
  | other
  deriving Repr, DecidableEq, Inhabited

inductive Property
  | expression
  | accessorKind
  | typeName
  | classes
  | length
  | slotCount
  | attributeCount
  | dim
  | flags
  | hasChildren
  deriving Repr, DecidableEq

namespace Property

def all : List Property := [
  expression, accessorKind, typeName, classes, length, slotCount, attributeCount, dim, flags,
  hasChildren]

end Property

structure Flags where
  atomic : Bool := false
  recursive : Bool := false
  hidden : Bool := false
  deriving Repr, DecidableEq, Inhabited

inductive Representation
  | none
  | summary
  | shown
  deriving Repr, DecidableEq

def AccessorKind.name : AccessorKind → String
  | dollar => "dollar"
  | .at => "at"
  | positional => "positional"
  | other => "other"

def AccessorKind.ofName : String → AccessorKind
  | "dollar" => dollar
  | "at" => .at
  | "positional" => positional
  | _ => other

def Property.name : Property → String
  | expression => "expression"
  | accessorKind => "accessor_kind"
  | typeName => "type_name"
  | classes => "classes"
  | length => "length"
  | slotCount => "slot_count"
  | attributeCount => "attribute_count"
  | dim => "dim"
  | flags => "flags"
  | hasChildren => "has_children"

def Representation.name : Representation → String
  | none => "none"
  | summary => "str"
  | shown => "repr"

def Representation.ofName : String → Representation
  | "str" => summary
  | "repr" => shown
  | _ => none

def Flags.names (f : Flags) : List String :=
  [(f.atomic, "atomic"), (f.recursive, "recursive"), (f.hidden, "hidden")].filterMap fun (b, name) ↦
    if b then some name else Option.none

def Flags.ofNames (names : List String) : Flags :=
  ⟨names.contains "atomic", names.contains "recursive", names.contains "hidden"⟩

/-- The description of one value; properties that were not asked for keep their defaults. -/
structure ValueInfo where
  name : String
  expression : String := ""
  accessorKind : AccessorKind := .other
  typeName : Option String := none
  classes : List String := []
  length : Option Int := none
  slotCount : Option Int := none
  attributeCount : Option Int := none
  dim : Option (List Int) := none
  flags : Flags := {}
  hasChildren : Option Bool := none
  representation : Option String := none
  deriving Repr, DecidableEq, Inhabited

namespace ValueInfo

def isHidden (i : ValueInfo) : Bool := i.flags.hidden

end ValueInfo

structure StackFrame where
  index : Int
  call : String
  isGlobal : Bool := false
  environment : String := ""
  deriving Repr, DecidableEq, Inhabited

/-- Variables and functions are told apart by the name of their type. -/
inductive ItemKind
  | data
  | function
  deriving Repr, DecidableEq, Inhabited

def ItemKind.name : ItemKind → String
  | data => "variable"
  | function => "function"

def functionTypeNames : List String := ["closure", "builtin"]

def ItemKind.ofTypeName (name : Option String) : ItemKind :=
  if (name.map functionTypeNames.contains).getD false then function else data

/-- The names that belong to the shell and not to its user. -/
def shellNames : List String := [
  "In", "Out", "get_ipython", "exit", "quit", "open", "show_help", "show_plot"]

/-- Names that start with an underscore, after one selector at most, and the shell's own. -/
def isHiddenName (name : String) : Bool :=
  let cs := name.toList
  let bare := match cs with
    | c :: rest => if c = '$' || c = '@' then rest else cs
    | [] => []
  bare.head? = some '_' || shellNames.contains name

structure Descriptor where
  name : String
  kind : ItemKind := .data
  isHidden : Bool := false
  typeName : String := ""
  summary : String := ""
  deriving Repr, DecidableEq, Inhabited

namespace Descriptor

def ofInfo (i : ValueInfo) : Descriptor :=
  ⟨i.name, ItemKind.ofTypeName i.typeName, i.isHidden, i.typeName.getD "", i.representation.getD ""⟩

/-- Equality of everything but the summary. -/
def sameAs (d e : Descriptor) : Bool :=
  d.name == e.name && d.kind == e.kind && d.isHidden == e.isHidden && d.typeName == e.typeName

end Descriptor

structure Candidate where
  displayName : String
  kind : ItemKind := .data
  description : String := ""
  deriving Repr, DecidableEq, Inhabited

end VariableExplorer
