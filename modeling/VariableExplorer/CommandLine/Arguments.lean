import VariableExplorer.CommandLine.Flag
import VariableExplorer.Text.DecimalDigit
import VariableExplorer.Text.Quoted

/-!
Reading the arguments of the command. Each argument is first taken for a word: a flag, perhaps
shortened and with its value behind an equals sign, or plain text. Then the words are read in turn;
help and version end this where they stand.
-/

namespace VariableExplorer.CommandLine

inductive Misuse
  | ambiguous (text : String) (spellings : List String)
  | missingValue (f : Flag)
  | unwantedValue (f : Flag) (value : String)
  | unrecognized (texts : List String)
  deriving Repr, DecidableEq

def Misuse.message : Misuse → String
  | ambiguous text spellings =>
    s!"ambiguous option: {text} could match " ++ ", ".intercalate spellings
  | missingValue f => s!"argument {f.title}: expected one argument"
  | unwantedValue f value =>
    s!"argument {f.title}: ignored explicit argument {Text.Quoted.quote value}"
  | unrecognized texts => "unrecognized arguments: " ++ " ".intercalate texts

def Misuse.report (u : Misuse) : String := usage ++ s!"{program}: error: {u.message}\n"

/-- What is written right behind a flag, and whether an equals sign stands between. -/
structure Attached where
  equals : Bool
  text : String
  deriving Repr, DecidableEq

inductive Word
  | plain (text : String)
  /-- What stands behind it is plain. -/
  | separator
  | flag (f : Flag) (spelling : String) (value : Option Attached)
  | unknown (text : String)
  deriving Repr, DecidableEq

namespace Word

def splitValue (cs : List Char) : List Char × Option (List Char) :=
  match cs.span (· ≠ '=') with
  | (before, _ :: after) => (before, some after)
  | (before, []) => (before, none)

/-- The flags that a text can stand for: those of which it is a beginning, with the value behind
the equals sign, or the one of a single letter, with what stands behind that. -/
def candidates (cs : List Char) : List (Flag × String × Option Attached) :=
  match cs with
  | '-' :: '-' :: _ =>
    let (start, value) := splitValue cs
    (Flag.table.filter fun (spelling, _) ↦ start.isPrefixOf spelling.toList).map fun (spelling, f) ↦
      (f, spelling, value.map fun v ↦ ⟨true, String.ofList v⟩)
  | _ =>
    Flag.table.filterMap fun (spelling, f) ↦
      if spelling.toList = cs.take 2 then
        some (f, spelling, some ⟨false, String.ofList (cs.drop 2)⟩)
      else if cs.isPrefixOf spelling.toList then some (f, spelling, none)
      else none

def isDigit (c : Char) : Bool := (Text.digitValue? c).isSome

def isNumber (cs : List Char) : Bool :=
  match cs.span isDigit with
  | (whole, []) | (whole, ['\n']) => !whole.isEmpty
  | (_, '.' :: rest) =>
    match rest.span isDigit with
    | (tenths, []) | (tenths, ['\n']) => !tenths.isEmpty
    | _ => false
  | _ => false

def ofHyphened (text : String) (cs : List Char) : Except Misuse Word :=
  match Flag.ofSpelling? text, splitValue cs with
  | some f, _ => .ok (flag f text none)
  | none, (start, value) =>
    let exact := value.bind fun v ↦
      (Flag.ofSpelling? (String.ofList start)).map fun f ↦
        flag f (String.ofList start) (some ⟨true, String.ofList v⟩)
    match exact, candidates cs with
    | some w, _ => .ok w
    | none, [(f, spelling, value)] => .ok (flag f spelling value)
    | none, [] =>
      .ok (if isNumber (cs.drop 1) || cs.contains ' ' then plain text else unknown text)
    | none, many => .error (.ambiguous text (many.map fun (_, spelling, _) ↦ spelling))

def ofText (text : String) : Except Misuse Word :=
  match text.toList with
  | '-' :: c :: cs => ofHyphened text ('-' :: c :: cs)
  | _ => .ok (plain text)

end Word

def words : List String → Except Misuse (List Word)
  | [] => .ok []
  | text :: texts =>
    if text = "--" then .ok (.separator :: texts.map .plain)
    else do return (← Word.ofText text) :: (← words texts)

/-- What was chosen; an empty path counts as none. -/
structure Choices where
  script : Option String := none
  inProcess : Bool := false
  logFile : Option String := none
  deriving Repr, DecidableEq

inductive Request
  | help
  | version
  | run (c : Choices)
  deriving Repr, DecidableEq

structure Reading where
  choices : Choices := {}
  named : Bool := false
  extra : List String := []

namespace Reading

def chosen (path : String) : Option String := if path = "" then none else some path

def skip (r : Reading) (text : String) : Reading := { r with extra := r.extra ++ [text] }

def take (r : Reading) (text : String) : Reading :=
  if r.named then r.skip text else { r with named := true, choices.script := chosen text }

def log (r : Reading) (path : String) : Reading := { r with choices.logFile := chosen path }

end Reading

/-- The flags of one letter that stand behind one another, and what is none of them. -/
def letters (f : Flag) : List Char → Except Misuse (List Flag × Option String)
  | [] => .error (.unwantedValue f "")
  | '-' :: cs => .error (.unwantedValue f (String.ofList ('-' :: cs)))
  | c :: cs =>
    match Flag.ofSpelling? (String.ofList ['-', c]), cs with
    | none, _ => .ok ([f], some (String.ofList ('-' :: c :: cs)))
    | some g, [] => .ok ([f, g], none)
    | some g, '=' :: value => .error (.unwantedValue g (String.ofList value))
    | some g, _ => (letters g cs).map fun (gs, rest) ↦ (f :: gs, rest)

def isShort (spelling : String) : Bool :=
  not (['-', '-'].isPrefixOf spelling.toList)

/-- What a flag that takes no value stands for with something written right behind it. -/
def flagsOf (f : Flag) (spelling : String) :
    Option Attached → Except Misuse (List Flag × Option String)
  | none => .ok ([f], none)
  | some v =>
    if v.equals || !isShort spelling then .error (.unwantedValue f v.text)
    else letters f v.text.toList

/-- What flags without values do: end the reading, or make a choice. -/
def apply (r : Reading) : List Flag → Except Request Reading
  | [] => .ok r
  | .help :: _ => .error .help
  | .version :: _ => .error .version
  | .inProcess :: fs => apply { r with choices.inProcess := true } fs
  | .logFile :: fs => apply r fs

def read (r : Reading) : List Word → Except Misuse Request
  | [] => if r.extra.isEmpty then .ok (.run r.choices) else .error (.unrecognized r.extra)
  | .plain text :: .separator :: ws =>
    if r.named then read ((r.take text).skip "--") ws else read (r.take text) ws
  | .plain text :: ws => read (r.take text) ws
  | .separator :: ws => read (if r.named then r.skip "--" else r) ws
  | .unknown text :: ws => read (r.skip text) ws
  | .flag .logFile _ (some value) :: ws => read (r.log value.text) ws
  | .flag .logFile _ none :: .plain value :: ws => read (r.log value) ws
  | .flag .logFile _ none :: _ => .error (.missingValue .logFile)
  | .flag f spelling value :: ws =>
    match flagsOf f spelling value with
    | .error u => .error u
    | .ok (flags, rest) =>
      match apply (rest.elim r r.skip) flags with
      | .error request => .ok request
      | .ok r => read r ws

def parse (args : List String) : Except Misuse Request := do read {} (← words args)

end VariableExplorer.CommandLine
