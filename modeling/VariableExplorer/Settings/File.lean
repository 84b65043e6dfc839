import VariableExplorer.Settings.Basic

/-!
The settings file. Loading accepts anything that can be read as text, and takes everything but a
JSON object for no settings at all; saving writes the object and makes the file private.
-/

namespace VariableExplorer

inductive FileState
  | absent
  | directory
  | file (bytes : List UInt8) (isPrivate : Bool)
  deriving Repr, DecidableEq, Inhabited

namespace FileState

/-- Replaces the content and leaves the permissions of a file that is there. -/
def write (bytes : List UInt8) : FileState → FileState
  | file _ isPrivate => file bytes isPrivate
  | _ => file bytes false

/-- Line ends of every kind become line feeds. -/
def plainLines : List Char → List Char
  | '\r' :: '\n' :: cs => '\n' :: plainLines cs
  | '\r' :: cs => '\n' :: plainLines cs
  | c :: cs => c :: plainLines cs
  | [] => []

def text (bytes : List UInt8) : Except Text.Utf8.Fault String :=
  (Text.Utf8.decode bytes).map fun s ↦ String.ofList (plainLines s.toList)

end FileState

namespace Settings

def ofText (text : String) : Except Fault Settings :=
  match Json.parse text with
  | .ok (.obj fields) => .ok ⟨fields⟩
  | .ok _ => .ok {}
  | .error .malformed => .ok {}
  | .error (.tooManyDigits count) => .error (.tooManyDigits count)
  | .error .tooDeep => .error .tooDeep

def load : FileState → Except Fault Settings
  | .absent => .ok {}
  | .directory => .ok {}
  | .file bytes _ =>
    match FileState.text bytes with
    | .error f => .error (.badText f)
    | .ok text => ofText text

def toText (s : Settings) : String := (Json.obj s.data).pretty

def save (s : Settings) : FileState → Except Fault FileState
  | .directory => .error .isDirectory
  | _ => .ok (.file (Text.Utf8.encode s.toText) true)

end Settings

structure SettingsManager where
  settings : Settings
  file : FileState
  deriving Inhabited

namespace SettingsManager

def new (file : FileState) : Except Settings.Fault SettingsManager :=
  (Settings.load file).map (⟨·, file⟩)

/-- Reads the file again; settings that cannot be loaded leave those in use. -/
def reload (m : SettingsManager) : SettingsManager × Option Settings.Fault :=
  match Settings.load m.file with
  | .ok s => (⟨s, m.file⟩, none)
  | .error f => (m, some f)

def put (m : SettingsManager) (s : Settings) : SettingsManager × Option Settings.Fault :=
  match s.save m.file with
  | .ok file => (⟨s, file⟩, none)
  | .error f => (⟨s, m.file⟩, some f)

def set (m : SettingsManager) (key : String) (v : Json) : SettingsManager × Option Settings.Fault :=
  m.put (m.settings.set key v)

def addRecent (m : SettingsManager) (path : String) (limit : Int := Settings.recentLimit) :
    SettingsManager × Option Settings.Fault :=
  m.put (m.settings.addRecent path limit)

end SettingsManager

/-- Settings that are loaded when they are first asked for. -/
structure SharedSettings where
  loaded : Option SettingsManager := none
  loads : Nat := 0

namespace SharedSettings

def obtain (s : SharedSettings) (file : FileState) :
    Except Settings.Fault (SettingsManager × SharedSettings) :=
  match s.loaded with
  | some m => .ok (m, s)
  | none => (SettingsManager.new file).map fun m ↦ (m, ⟨some m, s.loads + 1⟩)

end SharedSettings

end VariableExplorer
