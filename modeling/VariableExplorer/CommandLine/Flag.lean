/-!
The flags of the command, and its usage and help as they are printed.
-/

namespace VariableExplorer.CommandLine

inductive Flag
  | help
  | version
  | inProcess
  | logFile
  deriving Repr, DecidableEq

def program : String := "nsmirror"

def versionLine : String := s!"{program} 0.1.0\n"

namespace Flag

def all : List Flag := [help, version, inProcess, logFile]

def spellings : Flag → List String
  | help => ["-h", "--help"]
  | version => ["-V", "--version"]
  | inProcess => ["--in-process"]
  | logFile => ["--log-file"]

def valueName? : Flag → Option String
  | logFile => some "LOG_FILE"
  | _ => none

def purpose : Flag → String
  | help => "show this help message and exit"
  | version => "show program's version number and exit"
  | inProcess => "Run the kernel in this process instead of a child process."
  | logFile => "Write debug logs to this file (the terminal belongs to the UI)."

def table : List (String × Flag) := all.flatMap fun f ↦ f.spellings.map (·, f)

def ofSpelling? (s : String) : Option Flag := table.lookup s

def title (f : Flag) : String := "/".intercalate f.spellings

def withValue (f : Flag) (spelling : String) : String :=
  spelling ++ (f.valueName?.elim "" fun name ↦ " " ++ name)

end Flag

/-- The name of the one argument that is no flag. -/
def scriptName : String := "script"

def usage : String :=
  let flags := Flag.all.map fun f ↦ f.withValue (f.spellings.headD "")
  let optional := (flags ++ [scriptName]).map fun text ↦ s!"[{text}]"
  s!"usage: {program} " ++ " ".intercalate optional ++ "\n"

/-! ### Help -/

def wrap (width : Nat) (text : String) : List String :=
  let place : List String → String → List String := fun lines word ↦
    match lines with
    | [] => [word]
    | line :: done =>
      let longer := line ++ " " ++ word
      if longer.length ≤ width then longer :: done else word :: line :: done
  ((text.splitOn " ").foldl place []).reverse

def lineWidth : Nat := 78

def purposeColumn : Nat := 23

def blanks (count : Nat) : String := String.ofList (List.replicate count ' ')

def helpRow (name purpose : String) : String :=
  let left := "  " ++ name
  let indent := "\n" ++ blanks purposeColumn
  left ++ blanks (purposeColumn - left.length) ++
    indent.intercalate (wrap (lineWidth - purposeColumn) purpose) ++ "\n"

def Flag.helpRow (f : Flag) : String :=
  CommandLine.helpRow (", ".intercalate (f.spellings.map f.withValue)) f.purpose

def description : String := "Browse and complete the variables of a live IPython session."

def scriptPurpose : String := "Python file to run in the session before the explorer opens."

def help : String :=
  usage ++ "\n" ++ description ++ "\n\npositional arguments:\n" ++
    helpRow scriptName scriptPurpose ++
    "\noptions:\n" ++ String.join (Flag.all.map Flag.helpRow)

end VariableExplorer.CommandLine
