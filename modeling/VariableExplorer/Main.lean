import VariableExplorer.CommandLine.Arguments
import VariableExplorer.CommandLine.Launch
import VariableExplorer.Explorer.Front

/-!
The command. It reads its arguments and launches an explorer over a kernel in this process, which
takes lines from the standard input until there are no more.
-/

namespace VariableExplorer.Main

def knownNames : List String := universalNames.map (·.1)

def readVariables : IO Variables := do
  let names := [
    "NSMIRROR_WAIT_TIMEOUT", "NSMIRROR_MAX_RESULTS", "NSMIRROR_REFRESH_TIMEOUT",
    "NSMIRROR_HELP_BROWSER"]
  return (← names.mapM fun name ↦ do return (← IO.getEnv name).map (name, ·)).reduceOption

def settingsDirectory : IO String := do return (← IO.getEnv "HOME").getD "." ++ "/.nsmirror"

def readSettings : IO FileState := do
  try return .file (← IO.FS.readBinFile ((← settingsDirectory) ++ "/settings.json")).toList true
  catch _ => return .absent

/-- Writes the settings file, which only its owner can read. -/
def writeSettings : FileState → IO Unit
  | .file bytes _ => do
    let directory ← settingsDirectory
    let path := directory ++ "/settings.json"
    IO.FS.createDirAll directory
    IO.FS.writeBinFile path ⟨bytes.toArray⟩
    IO.setAccessRights path { user := { read := true, write := true } }
  | _ => return

def readScript (path : String) : IO (List (String × String)) := do
  try return [(path, ← IO.FS.readFile path)] catch _ => return []

partial def converse (input output : IO.FS.Stream) (f : Front) : IO Front := do
  let line ← input.getLine
  if line.isEmpty then return f
  let (shown, f) := f.enter line
  output.putStr shown
  output.flush
  converse input output f

def atFront {α : Type} (front : IO.Ref Front) (x : Desk.Acting α) :
    ExceptT Explorer.Fault IO α := do
  front.modifyGet fun f ↦ let (a, d) := x.run f.desk; (a, { f with desk := d })

/-- Gives a value, or fails as an explorer does. -/
def orFail {ε α : Type} (fault : ε → Explorer.Fault) : Except ε α → ExceptT Explorer.Fault IO α
  | .ok a => return a
  | .error f => throw (fault f)

def steps (front : IO.Ref Front) (vars : Variables) : Launch.Steps Explorer.Fault IO where
  start := pure ()
  read path := do Launch.readFrom (← readScript path) path
  execute code := do
    let _ ← orFail .session (← atFront front (Desk.executeExpression code (some Launch.scriptTag)))
  openWorkspace := do
    let settings := (← front.get).explorer.settings.settings
    orFail .settings (← atFront front (Desk.openWorkspace settings vars))
  browse := do
    let output ← IO.getStdout
    let f := (← front.get).follow
    output.putStr f.listing
    front.set (← converse (← IO.getStdin) output f)
  closeWorkspace := atFront front Desk.closeWorkspace
  close := atFront front (modifyThe Desk fun d ↦ { d with kernel := d.kernel.close })

def launch (c : CommandLine.Choices) : ExceptT Explorer.Fault IO Unit := do
  if let some path := c.logFile then
    let _ ← IO.FS.Handle.mk path .append
  let file ← readSettings
  let settings ← orFail .settings (SettingsManager.new file)
  let kernel ← orFail .session (Kernel.new knownNames [] false)
  let front ← IO.mkRef (⟨{ kernel := kernel }, { settings := settings }⟩ : Front)
  Launch.run (steps front (← readVariables)) c.script
  let left := (← front.get).explorer.settings.file
  if left ≠ file then writeSettings left

end VariableExplorer.Main

open VariableExplorer in
def main (args : List String) : IO UInt32 := do
  match CommandLine.parse args with
  | .error misuse =>
    (← IO.getStderr).putStr misuse.report
    return 2
  | .ok .help =>
    IO.print CommandLine.help
    return 0
  | .ok .version =>
    IO.print CommandLine.versionLine
    return 0
  | .ok (.run choices) =>
    match ← (Main.launch choices).run with
    | .ok () => return 0
    | .error f =>
      IO.eprintln s!"{f.kind}: {f.message}"
      return 1
