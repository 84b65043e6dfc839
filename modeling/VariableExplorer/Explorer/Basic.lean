import VariableExplorer.Suggestion.Basic
import VariableExplorer.Explorer.Entry
import VariableExplorer.Explorer.Tree
import VariableExplorer.Host.Callback
import VariableExplorer.Settings.File

/-!
An explorer shows the variables of a session as a tree, and what is typed at its prompt. A path with
a selector has its members listed and is remembered; anything else is run in the session.
-/

namespace VariableExplorer

namespace Explorer

inductive Display
  | output (t : StyledText)
  | help (t : StyledText)
  | notice (text : String) (isError : Bool)
  deriving Repr, DecidableEq

inductive Fault
  | settings (f : Settings.Fault)
  | provider (f : Provider.Fault)
  | session (f : VariableExplorer.Fault)
  deriving Repr

namespace Fault

def kind : Fault → String
  | settings f => f.kind
  | provider f => f.kind
  | session f => f.kind

def message : Fault → String
  | settings f => f.message
  | provider f => f.message
  | session f => f.message

end Fault

inductive Submission
  | nothing
  | listing (path : String)
  | code (text : String)
  deriving Repr, DecidableEq

def Submission.ofText (text : String) : Submission :=
  let text := Text.strip text
  if text = "" then nothing else if Suggestion.isPath text then listing text else code text

def listed (path : String) (found : List Candidate) : Entry :=
  let names := ", ".intercalate (found.map (·.displayName))
  { code := path, result := if names = "" then "(no members)" else names }

def childrenRequest (p : Provider) (expression : String) : ChildrenRequest :=
  { environment := globalEnvironment
    expression := expression
    properties := [.expression, .accessorKind, .typeName, .hasChildren]
    limit := some p.maxResults
    timeout := some p.waitTimeout }

/-- Opens a node. Its members are asked for at most once, whatever comes of that. -/
def openNode {m : Type → Type} [Monad m] (ask : Call → m Answer) (p : Provider) (n : Node) :
    m (Node × Option VariableExplorer.Fault) := do
  match n.expression with
  | none => return (n, none)
  | some expression =>
    if n.asked then return (n, none)
    else
      return Node.fill { n with asked := true } (← ask (.children (childrenRequest p expression)))

end Explorer

open Explorer

structure Explorer where
  settings : SettingsManager
  tree : List Node := []
  prompt : String := ""
  /-- Which of the recent paths comes next, counted on past the last one. -/
  next : Nat := 0
  displayed : List Display := []
  deriving Inhabited

namespace Explorer

def showSnapshot (e : Explorer) (s : Snapshot) : Explorer := { e with tree := Node.ofSnapshot s }

def display (e : Explorer) (d : Display) : Explorer := { e with displayed := e.displayed ++ [d] }

def showEntry (e : Explorer) (entry : Entry) : Explorer := e.display (.output entry.text)

def output (e : Explorer) : String :=
  (e.displayed.filterMap fun d ↦ match d with
    | .output t => some t.plain
    | _ => none).getLast?.getD ""

def recentPaths (e : Explorer) : List String := e.settings.settings.recentPaths

/-- Puts the next of the recent paths at the prompt, after the last one the first again. -/
def recallNext (e : Explorer) : Explorer :=
  let paths := e.recentPaths
  match paths[e.next % paths.length]? with
  | none => e
  | some path => { e with prompt := path, next := e.next % paths.length + 1 }

/-- Remembers a path; the next one to recall is the first again, unless saving fails. -/
def remember (e : Explorer) (path : String) : Explorer × Option Settings.Fault :=
  match e.settings.addRecent path with
  | (settings, none) => ({ e with settings := settings, next := 0 }, none)
  | (settings, some f) => ({ e with settings := settings }, some f)

section

variable {m : Type → Type} [Monad m]

def submit (e : Explorer) (p : Provider) (snapshot : Snapshot) (ask : Call → m Answer)
    (run : String → m (Except VariableExplorer.Fault Entry)) (text : String) :
    m (Explorer × Option Fault) := do
  let e := { e with prompt := "" }
  match Submission.ofText text with
  | .nothing => return (e, none)
  | .listing path =>
    match e.remember path with
    | (e, some f) => return (e, some (.settings f))
    | (e, none) =>
      match ← p.members snapshot ask (some path) p.maxResults false {} with
      | .error f => return (e, some (.provider f))
      | .ok found => return (e.showEntry (listed path found), none)
  | .code text =>
    match ← run text with
    | .error f => return (e, some (.session f))
    | .ok entry => return (e.showEntry entry, none)

end

/-! ### What a session asks of its host -/

def showError (e : Explorer) (message : String) : Explorer := e.display (.notice message true)

/-- Nobody can press a button; the first one counts. -/
def showMessage (e : Explorer) (message : String) (buttons : List Host.Button) :
    Host.Button × Explorer :=
  (buttons.headD .ok, e.display (.notice message false))

def showHelp (e : Explorer) (url : String) : Explorer :=
  e.display (.help (.ofText s!"Help: {url}"))

def showPlot (e : Explorer) (path : String) : Explorer :=
  e.display (.notice s!"Plot written to {path}" false)

def hasLocator : Bool := false

def readLine : Option String := none

end Explorer

end VariableExplorer
