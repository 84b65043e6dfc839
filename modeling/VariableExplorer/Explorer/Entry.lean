import VariableExplorer.Explorer.StyledText
import VariableExplorer.Kernel.Basic
import VariableExplorer.Text.Blank

/-!
What an explorer shows of a piece of code that was run: the code behind a prompt, what it wrote, its
result, and its error.
-/

namespace VariableExplorer

namespace Explorer

/-- A record of code that was run; what is empty is not shown. -/
structure Entry where
  code : String := ""
  stdout : String := ""
  result : String := ""
  stderr : String := ""
  error : Option String := none
  deriving Repr, DecidableEq, Inhabited

namespace Entry

def ofHistory (e : HistoryEntry) : Entry :=
  { code := e.code
    stdout := e.stdout
    result := e.result.getD ""
    stderr := e.stderr
    error := e.error.filter (· ≠ "") }

def codeStyle : String := "bold #8abeb7"

def outputStyle : String := "#d4d4d4"

def failureStyle : String := "#cc6666"

def appendBlock (t : StyledText) (text style : String) : StyledText :=
  let text := Text.strip text
  if text = "" then t else t.append (text ++ "\n") style

def text (e : Entry) : StyledText :=
  let t := StyledText.append {} s!">>> {e.code}\n" codeStyle
  let t := appendBlock t e.stdout outputStyle
  let t := appendBlock t e.result outputStyle
  let t := appendBlock t e.stderr failureStyle
  match e.error with
  | none => t
  | some error => t.append s!"✗ {error}\n" failureStyle

end Entry

end Explorer

end VariableExplorer
