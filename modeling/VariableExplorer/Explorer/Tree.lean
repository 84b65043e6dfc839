import VariableExplorer.Explorer.StyledText
import VariableExplorer.Replica.Snapshot

/-!
The tree of an explorer. Its first level are the visible variables of a snapshot; the members of a
node are asked for when it is first opened, and until then a placeholder stands for them.
-/

namespace VariableExplorer

inductive Label
  | plain (text : String)
  | styled (t : StyledText)
  deriving Repr, DecidableEq, Inhabited

def Label.firstLine : Label → String
  | plain text => text
  | styled t => t.firstLine

structure Node where
  label : Label
  /-- The expression whose members the node opens to. -/
  expression : Option String := none
  leaf : Bool := true
  asked : Bool := false
  kids : List Node := []
  deriving Repr, Inhabited

namespace Node

def nameStyle : String := "#f0c674"

def functionStyle : String := "#b5bd68"

def detailStyle : String := "#808080"

def failureStyle : String := "#cc6666"

def placeholder : Node := { label := .plain "…" }

def branch (label : StyledText) (expression : String) : Node :=
  { label := .styled label, expression := some expression, leaf := false, kids := [placeholder] }

def leafOf (label : StyledText) : Node := { label := .styled label }

def detailed (label : StyledText) (detail : String) : StyledText :=
  if detail = "" then label else label.append ("  " ++ detail) detailStyle

def kindStyle : ItemKind → String
  | .data => nameStyle
  | .function => functionStyle

def ofDescriptor (d : Descriptor) : Node :=
  branch (detailed (StyledText.append {} d.name (kindStyle d.kind)) d.summary) d.name

def ofSnapshot (s : Snapshot) : List Node := s.visible.map ofDescriptor

def ofInfo (i : ValueInfo) : Node :=
  let label := detailed (.ofText i.name nameStyle) (i.typeName.getD "")
  if i.hasChildren.getD false then branch label i.expression else leafOf label

/-- The nodes of a list of descriptions, up to the first element that is none. -/
def ofElements : List (Element ValueInfo) → List Node × Option Fault
  | [] => ([], none)
  | .foreign typeName :: _ => ([], some (.noAttribute typeName "name"))
  | .given i :: es =>
    let (nodes, fault) := ofElements es
    (ofInfo i :: nodes, fault)

def noMembers : Node := leafOf (.ofText "(no members)" "dim")

def ofOutcome (o : Outcome (Payload ValueInfo)) : List Node × Option Fault :=
  if !o.ok then ([leafOf (.ofText s!"({o.status.name})" failureStyle)], none)
  else match o.value with
    | none | some (.many []) => ([noMembers], none)
    | some (.many es) => ofElements es
    | some (.one (.given _)) => ([], some (.notIterable "ValueInfo"))
    | some (.one (.foreign typeName)) => ([], some (.notIterable typeName))

def fill (n : Node) : Answer → Node × Option Fault
  | .values o =>
    let (kids, fault) := ofOutcome o
    ({ n with kids := kids }, fault)
  | .raised f => (n, some f)
  | _ => (n, none)

end Node

end VariableExplorer
