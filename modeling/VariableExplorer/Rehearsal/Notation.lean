import VariableExplorer.Description.Written
import VariableExplorer.Rehearsal.Script
import VariableExplorer.Value.Notation

/-!
Scripts written as JSON. A list is an answer that succeeds, an object gives the status and the value
of an outcome or says that the call raises or blocks, and what is no object where a description is
due stands for a value of another type.
-/

namespace VariableExplorer

open Json

def Json.typeName : Json → String
  | null => "NoneType"
  | bool _ => "bool"
  | int _ => "int"
  | float _ => "float"
  | str _ => "str"
  | arr _ => "list"
  | obj _ => "dict"

def Element.ofJson {α : Type} (f : Json → α) (j : Json) : Element α :=
  match j with
  | .obj _ => .given (f j)
  | _ => .foreign j.typeName

/-- A value; what is empty is none. -/
def Payload.ofJson? {α : Type} (f : Json → α) (j : Json) : Option (Payload α) :=
  match j with
  | .arr xs => some (.many (xs.map (Element.ofJson f)))
  | .str "" => none
  | .str text => some (.many (text.toList.map fun _ ↦ .foreign "str"))
  | j => if j.truth then some (.one (Element.ofJson f j)) else none

def Outcome.ofJson {α : Type} (f : Json → α) (j : Json) : Outcome (Payload α) :=
  match j with
  | .arr _ => ⟨.ok, Payload.ofJson? f j, none⟩
  | j =>
    let value := Payload.ofJson? f (j.get "value")
    if j.has "status" then ⟨.ofName (j.get "status").text, value, (j.get "error").text?⟩
    else ⟨.ok, value, none⟩

namespace Scripted

def ofJson {α : Type} (f : Json → α) (j : Json) : Scripted α :=
  if j.has "raise" then .raises (FaultSpec.ofJson (j.get "raise")).toFault
  else if j.has "block" then .blocks
  else .gives (Outcome.ofJson f j)

end Scripted

namespace Script

def runningOfJson (j : Json) : Except Fault Bool :=
  if j.has "raise" then .error (FaultSpec.ofJson (j.get "raise")).toFault else .ok j.truth

/-- Replaces the parts of a script that are written down. -/
def changed (j : Json) (s : Script) : Script :=
  let part {α : Type} (key : String) (f : Json → α) (old : α) : α :=
    if j.has key then f (j.get key) else old
  { running := part "running" runningOfJson s.running
    frames := part "frames" (Scripted.ofJson StackFrame.ofJson) s.frames
    environment := part "env" (fun a ↦ some (Scripted.ofJson ValueInfo.ofJson a)) s.environment
    locals := part "variables" (Scripted.ofJson ValueInfo.ofJson) s.locals
    children := match j.get "children" with
      | .obj fields => fields.map fun (key, a) ↦ (key, Scripted.ofJson ValueInfo.ofJson a)
      | _ => s.children }

end Script

end VariableExplorer
