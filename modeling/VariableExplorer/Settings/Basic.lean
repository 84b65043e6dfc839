import VariableExplorer.Json
import VariableExplorer.Text.Utf8

/-!
Settings: a JSON object of preferences, most of which an environment variable can override, and a
list of recent paths, latest first. Whatever the data holds, a preference that makes no sense gives
way to its default.
-/

namespace VariableExplorer

abbrev Variables := List (String × String)

structure Settings where
  data : List (String × Json) := []
  deriving Repr, Inhabited

namespace Settings

inductive Fault
  | badText (f : Text.Utf8.Fault)
  | tooManyDigits (count : Nat)
  | tooDeep
  | infinite
  | tooLarge
  | isDirectory
  deriving Repr, DecidableEq

namespace Fault

def kind : Fault → String
  | badText _ => "UnicodeDecodeError"
  | tooManyDigits _ => "ValueError"
  | tooDeep => "RecursionError"
  | infinite | tooLarge => "OverflowError"
  | isDirectory => "IsADirectoryError"

def message : Fault → String
  | badText f => f.message
  | tooManyDigits count =>
    s!"Exceeds the limit (4300 digits) for integer string conversion: value has {count} digits; " ++
      "use sys.set_int_max_str_digits() to increase the limit"
  | tooDeep => "maximum recursion depth exceeded while decoding a JSON array from a unicode string"
  | infinite => "cannot convert float infinity to integer"
  | tooLarge => "int too large to convert to float"
  | isDirectory => "[Errno 21] Is a directory: 'settings.json'"

end Fault

def waitTimeoutDefault : Float := 2.0

def maxResultsDefault : Int := 100

def refreshTimeoutDefault : Float := 30.0

def helpBrowsers : List String := ["external", "internal"]

/-- The value of a preference: the environment variable unless it is blank, else the data. -/
def value? (s : Settings) (vars : Variables) (key envName : String) : Option Json :=
  match (vars.lookup envName).map Text.strip with
  | some text => if text = "" then s.data.lookup key else some (.str text)
  | none => s.data.lookup key

def positiveFloat (raw : Option Json) (default : Float) : Except Fault Float :=
  let found : Except Fault (Option Float) := match raw with
    | some (.bool b) => .ok (some (if b then 1.0 else 0.0))
    | some (.int i) => match Decimal.nearestInt? i with
      | some x => .ok (some x)
      | none => .error .tooLarge
    | some (.float x) => .ok (some x)
    | some (.str t) => .ok (Decimal.readFloat? t)
    | _ => .ok none
  found.map fun x ↦ match x with
    | some x => if 0.0 < x then x else default
    | none => default

def positiveInt (raw : Option Json) (default : Int) : Except Fault Int :=
  let found : Except Fault (Option Int) := match raw with
    | some (.bool b) => .ok (some (if b then 1 else 0))
    | some (.int i) => .ok (some i)
    | some (.float x) => if x.isInf then .error .infinite else .ok (Decimal.truncate? x)
    | some (.str t) => .ok (Decimal.readInteger t).toOption
    | _ => .ok none
  found.map fun i ↦ match i with
    | some i => if 0 < i then i else default
    | none => default

def waitTimeout (s : Settings) (vars : Variables) : Except Fault Float :=
  positiveFloat (s.value? vars "wait_timeout" "NSMIRROR_WAIT_TIMEOUT") waitTimeoutDefault

def maxResults (s : Settings) (vars : Variables) : Except Fault Int :=
  positiveInt (s.value? vars "max_results" "NSMIRROR_MAX_RESULTS") maxResultsDefault

def refreshTimeout (s : Settings) (vars : Variables) : Except Fault Float :=
  positiveFloat (s.value? vars "refresh_timeout" "NSMIRROR_REFRESH_TIMEOUT") refreshTimeoutDefault

def helpBrowser (s : Settings) (vars : Variables) : String :=
  let name := match s.value? vars "help_browser" "NSMIRROR_HELP_BROWSER" with
    | some (.str t) => Decimal.lowerAscii t
    | _ => ""
  if helpBrowsers.contains name then name else "external"

/-! ### Recent paths -/

def recentKey : String := "recent_paths"

/-- The texts that are not blank, each once, in order. -/
def usablePaths : List Json → List String
  | [] => []
  | v :: vs =>
    match v with
    | .str t => if Text.strip t = "" then usablePaths vs else t :: (usablePaths vs).filter (· ≠ t)
    | _ => usablePaths vs

def recentPaths (s : Settings) : List String :=
  match s.data.lookup recentKey with
  | some (.arr values) => usablePaths values
  | _ => []

def set (s : Settings) (key : String) (v : Json) : Settings := ⟨Json.insertField key v s.data⟩

def recentLimit : Int := 12

/-- The elements before an index, which counts from the end where negative. -/
def upTo {α : Type} (limit : Int) (xs : List α) : List α :=
  xs.take (if 0 ≤ limit then limit.toNat else xs.length - limit.natAbs)

/-- Puts a path in front of the recent ones, of which only so many are kept. -/
def addRecent (s : Settings) (path : String) (limit : Int := recentLimit) : Settings :=
  let paths := path :: s.recentPaths.filter (· ≠ path)
  s.set recentKey (.arr ((upTo limit paths).map .str))

end Settings

end VariableExplorer
