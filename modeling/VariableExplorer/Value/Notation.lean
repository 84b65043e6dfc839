import VariableExplorer.Json.Access
import VariableExplorer.Value.Recipe

/-!
A notation for values in JSON. Most JSON values stand for themselves; an object names the kind of
value it stands for and says what it is made of.
-/

namespace VariableExplorer

/-- The names under which made classes and functions know where they come from. -/
structure Origin where
  module : String
  /-- The qualified name of every function. -/
  function : String
  /-- The class of mappings that are no dictionaries. -/
  mapping : String

namespace FaultSpec

def ofJson (j : Json) : FaultSpec := ⟨(j.items.getD 0 .null).text, (j.items[1]?).bind Json.text?⟩

end FaultSpec

namespace Recipe

open Json

def hexBytes : List Char → List UInt8
  | a :: b :: r =>
    UInt8.ofNat ((hexValue? a).getD 0 * 16 + (hexValue? b).getD 0) :: hexBytes r
  | _ => []

def readFloat (j : Json) : Float := (Decimal.readFloat? j.text).getD 0.0

def rangeOf : List Int → Recipe
  | [n] => range 0 n 1
  | [a, b] => range a b 1
  | a :: b :: c :: _ => range a b c
  | [] => range 0 0 1

def nestKind : String → NestKind
  | "list" => .list
  | "tuple" => .tuple
  | _ => .dict

section

variable (o : Origin) (read : Json → Recipe)

def readPairs (j : Json) : List (Recipe × Recipe) := j.pairs.map fun (k, v) ↦ (read k, read v)

def readNamed (j : Json) : List (String × Recipe) := j.pairs.map fun (k, v) ↦ (k.text, read v)

def readBehaviour (j : Json) : BehaviourSpec :=
  if j.has "raise" then .error (.ofJson (j.get "raise")) else .ok (read j)

def readInstance (j : Json) : InstanceSpec :=
  let special (key name : String) : List (String × BehaviourSpec) :=
    if j.has key then [(name, readBehaviour read (j.get key))] else []
  { module := o.module
    name := (j.get "class").text
    base := (j.get "base").text?
    init := (j.get "init").opt.map read
    between := (j.get "mro").texts
    baseSlots := (j.get "base_slots").opt.map texts
    slots := if j.has "slots" then some (read (j.get "slots")) else none
    attrs := readNamed read (j.get "attrs")
    classAttrs := readNamed read (j.get "class_attrs")
    specials := special "repr" "__repr__" ++ special "str" "__str__" ++ special "len" "__len__" ++
      special "call" "__call__" ++ special "getattr" "__getattr__"
    items := (j.field? "getitem").map fun g ↦
      if g.has "raise" then .error (.ofJson (g.get "raise")) else .ok (readPairs read g)
    properties := (j.get "props").pairs.map fun (k, b) ↦ (k.text, readBehaviour read b)
    lateSlots := if j.has "class_slots" then some (read (j.get "class_slots")) else none }

def readTagged (tag : String) (a : Json) : Recipe :=
  let part (i : Nat) : Json := a.items.getD i .null
  match tag with
  | "dict" => dict (readPairs read a)
  | "ordered" => ordered (readPairs read a)
  | "proxy" => proxy (readPairs read a)
  | "mapping" => mapping o.module o.mapping (readPairs read a)
  | "tuple" => tuple (a.items.map read)
  | "set" | "frozenset" => set tag (a.items.map read)
  | "float" => pure (.float (readFloat a))
  | "pow" => pure (.int ((part 0).toInt.pow (part 1).toInt.toNat))
  | "bytes" => pure (.bytes (hexBytes a.text.toList))
  | "bytearray" => bytearray (hexBytes a.text.toList)
  | "complex" => pure (.complex (readFloat (part 0)) (readFloat (part 1)))
  | "range" => rangeOf (a.items.map toInt)
  | "ellipsis" => pure .ellipsis
  | "repeat" =>
    pure (.str (String.join (List.replicate (part 1).toInt.toNat (part 0).text)))
  | "ints" => count a.toInt.toNat
  | "keys" => keys a.toInt.toNat
  | "nest" => nest (nestKind (part 0).text) (read (part 2)) (part 1).toInt.toNat
  | "cycle" => if a.text = "list" then cyclicList else cyclicDict
  | "ns" => namespace_ (readNamed read a)
  | "func" => function a.text o.function
  | "method" => method (pure (.int 1)) (function a.text o.function)
  | "builtin" => pure ((universalNames.lookup a.text).getD .none)
  | "partial" => partialCall (.function "len") (a.items.map read)
  | "exception" => exception o.module (.ofJson a)
  | "type" => classDef o.module (a.get "class").text (readNamed read (a.get "attrs"))
  | "module" => module (a.get "name").text (a.get "doc").text? (readNamed read (a.get "attrs"))
  | "obj" => instance_ (readInstance o read a)
  | _ => pure .none

end

def readWithin (o : Origin) : (depth : Nat) → Json → Recipe
  | 0, _ => pure .none
  | depth + 1, j =>
    let read := readWithin o depth
    match j with
    | .null => pure .none
    | .bool b => pure (.bool b)
    | .int i => pure (.int i)
    | .float x => pure (.float x)
    | .str s => pure (.str s)
    | .arr xs => list (xs.map read)
    | .obj [] => pure .none
    | .obj ((tag, a) :: _) => readTagged o read tag a

def ofJson (o : Origin) (j : Json) : Recipe := readWithin o depthLimit j

def namedOfJson (o : Origin) (j : Json) : List (String × Recipe) := readNamed (ofJson o) j

end Recipe

end VariableExplorer
