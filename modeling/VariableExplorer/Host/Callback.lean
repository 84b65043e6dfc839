import VariableExplorer.Description.Summary
import VariableExplorer.Handover.Queue

/-!
What a session asks of its host: to show messages, help and plots, to pick a point on a plot, and to
read a line. All of it happens on the thread of the host's user interface; some of it is waited for.
-/

namespace VariableExplorer

namespace Host

inductive Button
  | ok
  | cancel
  | yes
  | no
  deriving Repr, DecidableEq

namespace Button

def name : Button → String
  | ok => "ok"
  | cancel => "cancel"
  | yes => "yes"
  | no => "no"

def ofName : String → Button
  | "cancel" => cancel
  | "yes" => yes
  | "no" => no
  | _ => ok

end Button

structure Point where
  clicked : Bool := false
  x : Int := 0
  y : Int := 0
  deriving Repr, DecidableEq, Inhabited

inductive Pointing
  /-- There is no plot. -/
  | unavailable
  /-- Nobody points anywhere. -/
  | nobody
  | cancelled
  | points (ps : List Point)
  deriving Repr, DecidableEq

inductive Kind
  | error
  | message
  | help
  | plot
  | locator
  | input
  deriving Repr, DecidableEq

inductive Event
  | error (message : String)
  | message (text : String) (buttons : List Button)
  | help (url : String)
  | plot (path : String)
  | locator (cancelled : Bool)
  | input (prompt : String)
  | browser (url : String)
  deriving Repr, DecidableEq

/-- A host whose answers are known in advance. -/
structure Answers where
  /-- Which of the buttons is pressed; the last ones have negative numbers. -/
  button : Int := -1
  pointing : Pointing := .unavailable
  line : Option String := none
  /-- What it raises when it is asked for something. -/
  faults : List (Kind × Fault) := []

/-- The element under a number, which counts from the end where it is negative. -/
def element? {α : Type} (xs : List α) (i : Int) : Option α :=
  if 0 ≤ i then xs[i.toNat]? else if i.natAbs ≤ xs.length then xs[xs.length - i.natAbs]? else none

end Host

open Host

structure Callback where
  answers : Answers
  /-- How help is shown: outside of the host, or by it. -/
  helpBrowser : String := "external"
  closed : Bool := false

namespace Callback

/-- What is asked of the host and what comes of it. -/
abbrev Asked (α : Type) := List Event × Except Fault α

def ask {α : Type} (c : Callback) (kind : Kind) (e : Event) (answer : Except Fault α) : Asked α :=
  if c.closed then ([], .error Dispatcher.closedFault)
  else match c.answers.faults.lookup kind with
    | some f => ([e], .error f)
    | none => ([e], answer)

/-- Asks the host for something that nobody waits for. -/
def tell (c : Callback) (kind : Kind) (e : Event) : Asked Unit :=
  if c.closed then ([], .error Dispatcher.closedFault) else ((ask c kind e (.ok ())).1, .ok ())

def showError (c : Callback) (message : String) : Asked Unit := c.tell .error (.error message)

def showPlot (c : Callback) (path : String) : Asked Unit := c.tell .plot (.plot path)

def showMessage (c : Callback) (text : String) (buttons : List Button := [.ok]) : Asked Button :=
  c.ask .message (.message text buttons) (match element? buttons c.answers.button with
    | some b => .ok b
    | none => .error (.outOfRange "tuple index"))

/-- Shows a page of help, outside of the host unless it has a window of its own for it. -/
def showHelp (c : Callback) (url : String) : Asked Unit :=
  if c.helpBrowser = "external" then ([.browser url], .ok ())
  else c.ask .help (.help url) (.ok ())

/-- Lets the user pick a point. Gives the point and whether the token is set in the end; whoever is
not answered gives up and sets it. -/
def locate (c : Callback) (cancelled : Bool) : Asked (Point × Bool) :=
  c.ask .locator (.locator cancelled) (.ok (match c.answers.pointing with
    | .unavailable => ({}, cancelled)
    | .nobody | .cancelled | .points [] => ({}, true)
    | .points (p :: _) => (p, cancelled)))

def lineLimit : Int := 4096

/-- Reads a line; a host that has none gives an empty one. -/
def readLine (c : Callback) (prompt : String) (limit : Int := lineLimit) : Asked String :=
  c.ask .input (.input prompt) (.ok (match c.answers.line with
    | none => "\n"
    | some text => cut text limit))

end Callback

/-- A path without empty parts and parts that mean the same place. -/
def plainPath (path : String) : String :=
  let cs := path.toList
  let slashes := (cs.takeWhile (· = '/')).length
  let root := if slashes = 2 then "//" else if 0 < slashes then "/" else ""
  let parts := (path.splitOn "/").filter fun p ↦ p ≠ "" && p ≠ "."
  let text := root ++ "/".intercalate parts
  if text = "" then "." else text

end VariableExplorer
