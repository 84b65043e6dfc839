import VariableExplorer.Explorer.Staging
import VariableExplorer.Session.Written

/-!
What an explorer shows, written as JSON.
-/

namespace VariableExplorer

def Span.toJson (s : Span) : Json := .arr [.int s.start, .int s.stop, .str s.style]

def StyledText.toJson (t : StyledText) : Json :=
  .arr [.str t.plain, .str t.style, .arr (t.spans.map Span.toJson)]

def Label.toJson : Label → Json
  | plain text => .str text
  | styled t => t.toJson

namespace Node

mutual

def toJson : Node → Json
  | ⟨label, expression, leaf, _, kids⟩ => .obj [
      ("label", label.toJson), ("data", Json.ofOption .str expression), ("leaf", .bool leaf),
      ("kids", .arr (listToJson kids))]

def listToJson : List Node → List Json
  | [] => []
  | n :: ns => n.toJson :: listToJson ns

end

mutual

/-- A node as a user sees it: the first line of its label and what can be opened below it. -/
def outline : Node → Json
  | ⟨label, expression, _, _, kids⟩ =>
    .arr ([.str label.firstLine, Json.ofOption .str expression] ++
      if kids.isEmpty then [] else [.arr (outlines kids)])

def outlines : List Node → List Json
  | [] => []
  | n :: ns => n.outline :: outlines ns

end

end Node

def Explorer.Display.toJson : Explorer.Display → Json
  | .output t => .arr [.str "output", t.toJson]
  | .help t => .arr [.str "help", t.toJson]
  | .notice text isError => .arr [
      .str "notify", .str text, .obj (if isError then [("severity", .str "error")] else [])]

def Staging.Asked.toJson : Staging.Asked → Json
  | .call c => c.toJson
  | .execute code => .arr [.str "execute", .str code, .null]

end VariableExplorer
