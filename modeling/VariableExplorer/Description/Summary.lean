import VariableExplorer.Description.Child

/-!
Summaries: one line for each value. Data is written out while it is short, containers give their
size and a sample, tables their shape, and everything else its shown text. A value that cannot be
summarised is named by its type.
-/

namespace VariableExplorer

def omission : String := "…"

/-- The first `n` characters; a negative `n` counts those to leave out at the end. -/
def cut (text : String) (n : Int) : String :=
  let cs := text.toList
  String.ofList (if 0 ≤ n then cs.take n.toNat else cs.take (cs.length - n.natAbs))

/-- A text of more characters than the limit ends in an omission within it. -/
def shorten (limit : Int) (text : String) : String :=
  if (text.length : Int) ≤ limit then text else cut text (limit - 1) ++ omission

def sampleLimit : Int := 60

def failedText (kind : String) : String := kind ++ " (repr failed)"

namespace Summary

/-- The shown text of a value, shortened; a value that cannot be shown is named by its type. -/
def sample (limit : Int) (v : Value) : Eval String :=
  Eval.handle (return shorten limit (← Eval.shown v)) fun _ ↦ do
    return "<" ++ failedText ((← get).kindName v) ++ ">"

/-- Functions of the language go by one name and those that are always there by another. -/
def typeName (v : Value) : Eval String := do
  if ← Eval.isInstance v ["builtin_function_or_method"] then return "builtin"
  else if ← Eval.isInstance v ["function", "method", "partial"] then return "closure"
  else return (← get).kindName v

def dimensions (v : Value) : Eval (Option (Value × List Value)) := do
  let shape ← Eval.handle (Eval.getAttr? v "shape") fun _ ↦ return none
  match shape with
  | none => return none
  | some shape =>
    if ← Eval.isInstance shape ["tuple"] then
      let items ← Eval.elements shape
      if ← items.allM (Eval.isInstance · ["int"]) then return some (shape, items) else return none
    else return none

def ofText (v : Value) : Eval String := do
  if (← Eval.length v) ≤ 80 then return "str = \"" ++ (← Eval.plain v) ++ "\""
  else
    let n ← Eval.length v
    let start ← Eval.subscript v (.part none (some (.int 60)) none)
    return s!"str, {n} chars, starts: \"{← Eval.plain start}{omission}\""

def ofList (v : Value) : Eval String := do
  if !(← Eval.isTrue v) then return "list, empty"
  else
    let n ← Eval.length v
    return s!"list, {n} items, latest: {← sample sampleLimit (← Eval.getItem v (.int (-1)))}"

def ofDict (v : Value) : Eval String := do
  if !(← Eval.isTrue v) then return "dict, empty"
  else
    let keys := (← Child.entriesBy v "keys").map (·.1)
    let texts ← (keys.take 6).mapM Eval.shown
    let more := if 6 < keys.length then omission else ""
    return s!"dict, {← Eval.length v} keys: [{commas texts}{more}]"

def ofTuple (v : Value) : Eval String := do
  if (← Eval.length v) ≤ 5 then return "tuple = " ++ (← Eval.shown v)
  else return s!"tuple, {← Eval.length v} items"

def ofTable (kind : String) (rows columns columnNames : Value) : Eval String := do
  let texts ← ((← Eval.elements columnNames).take 8).mapM Eval.plain
  let more := if 8 < (← Eval.length columnNames) then omission else ""
  return s!"{kind}, {← Eval.plain rows} rows × {← Eval.plain columns} cols: [{commas texts}{more}]"

def ofArray (kind : String) (v shape : Value) : Eval String := do
  let dtype ← Eval.getAttr? v "dtype"
  let shapeText ← Eval.plain shape
  match dtype with
  | none | some .none => return s!"{kind}, shape={shapeText}"
  | some d => return s!"{kind}, shape={shapeText}, dtype={← Eval.plain d}"

def ofOther (kind : String) (v : Value) : Eval String := do
  let columns ← Eval.getAttr? v "columns"
  let dims ← dimensions v
  match columns, dims with
  | some (.none), some (shape, _) | none, some (shape, _) => ofArray kind v shape
  | some names, some (shape, items) =>
    match items with
    | [rows, cols] => ofTable kind rows cols names
    | _ => ofArray kind v shape
  | _, none =>
    if (← get).isCallable v then return s!"{kind} (callable)"
    else
      let text ← Eval.shown v
      if text.length ≤ 80 then return s!"{kind} = {text}"
      else return s!"{kind}, {← sample sampleLimit v}"

def read (v : Value) : Eval String := do
  let kind := (← get).kindName v
  if ← Eval.isInstance v ["int", "float", "bool", "complex"] then
    return s!"{kind} = {← Eval.plain v}"
  else if ← Eval.isInstance v ["str"] then ofText v
  else
    match v with
    | .none => return "None"
    | v =>
      if ← Eval.isInstance v ["list"] then ofList v
      else if ← Eval.isInstance v ["dict"] then ofDict v
      else if ← Eval.isInstance v ["set", "frozenset"] then
        return s!"{kind}, {← Eval.length v} items"
      else if ← Eval.isInstance v ["tuple"] then ofTuple v
      else if ← Eval.isInstance v ["module"] then
        return "module " ++ (← Eval.plain (← Eval.getAttr v "__name__"))
      else ofOther kind v

end Summary

def summarise (v : Value) : Eval String :=
  Eval.handle (Summary.read v) fun _ ↦ return failedText ((← get).kindName v)

end VariableExplorer
