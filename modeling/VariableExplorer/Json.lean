import VariableExplorer.Decimal.Reading
import VariableExplorer.Text.Quoted

/-!
JSON data whose objects keep the order in which their fields were first written. Reading accepts
the three names of the numbers that plain JSON lacks, and integers of any size up to a limit of
digits; writing puts each element on a line of its own.
-/

namespace VariableExplorer

inductive Json
  | null
  | bool (b : Bool)
  | int (i : Int)
  | float (x : Float)
  | str (s : String)
  | arr (items : List Json)
  | obj (fields : List (String × Json))
  deriving Repr, Inhabited

namespace Json

def insertField (key : String) (v : Json) : List (String × Json) → List (String × Json)
  | [] => [(key, v)]
  | (k, w) :: rest => if k = key then (k, v) :: rest else (k, w) :: insertField key v rest

def fields : Json → List (String × Json)
  | obj fs => fs
  | _ => []

def field? (j : Json) (key : String) : Option Json := j.fields.lookup key

inductive Fault
  | malformed
  | tooManyDigits (count : Nat)
  | tooDeep
  deriving Repr, DecidableEq

def depthLimit : Nat := 980

def skipBlank : List Char → List Char
  | c :: cs => if c = ' ' || c = '\t' || c = '\n' || c = '\r' then skipBlank cs else c :: cs
  | [] => []

def hexValue? (c : Char) : Option Nat :=
  if c.isDigit then some (c.toNat - 0x30)
  else if 'a' ≤ c && c ≤ 'f' then some (c.toNat - 0x57)
  else if 'A' ≤ c && c ≤ 'F' then some (c.toNat - 0x37)
  else none

def readHex4? : List Char → Option (Nat × List Char)
  | a :: b :: c :: d :: rest => do
    let a ← hexValue? a
    let b ← hexValue? b
    let c ← hexValue? c
    let d ← hexValue? d
    return (((a * 16 + b) * 16 + c) * 16 + d, rest)
  | _ => none

def isHighSurrogate (n : Nat) : Bool := 0xd800 ≤ n && n < 0xdc00

def isLowSurrogate (n : Nat) : Bool := 0xdc00 ≤ n && n < 0xe000

/-- The character of a code unit; a lone half of a pair becomes the replacement character. -/
def unitChar (n : Nat) : Char := if 0xd800 ≤ n && n < 0xe000 then '\ufffd' else Char.ofNat n

def simpleEscape? (c : Char) : Option Char :=
  if c = '"' || c = '\\' || c = '/' then some c
  else if c = 'b' then some '\x08'
  else if c = 'f' then some '\x0c'
  else if c = 'n' then some '\n'
  else if c = 'r' then some '\r'
  else if c = 't' then some '\t'
  else none

/-- The rest of a string after its opening mark, read onto `acc`. -/
def readString? : (fuel : Nat) → (acc : List Char) → List Char → Option (String × List Char)
  | 0, _, _ => none
  | fuel + 1, acc, cs =>
    match cs with
    | [] => none
    | '"' :: rest => some (String.ofList acc.reverse, rest)
    | '\\' :: 'u' :: rest =>
      match readHex4? rest with
      | none => none
      | some (n, rest') =>
        match rest' with
        | '\\' :: 'u' :: more =>
          match readHex4? more with
          | some (low, more') =>
            if isHighSurrogate n && isLowSurrogate low then
              let code := 0x10000 + (n - 0xd800) * 0x400 + (low - 0xdc00)
              readString? fuel (Char.ofNat code :: acc) more'
            else readString? fuel (unitChar n :: acc) rest'
          | none => readString? fuel (unitChar n :: acc) rest'
        | _ => readString? fuel (unitChar n :: acc) rest'
    | '\\' :: c :: rest =>
      match simpleEscape? c with
      | some d => readString? fuel (d :: acc) rest
      | none => none
    | c :: rest => if c.toNat < 0x20 then none else readString? fuel (c :: acc) rest

def takeDigits (cs : List Char) : List Char × List Char :=
  (cs.takeWhile Char.isDigit, cs.dropWhile Char.isDigit)

def digitsValue (ds : List Char) : Nat := ds.foldl (fun n c ↦ 10 * n + (c.toNat - 0x30)) 0

/-- The part after the point, when at least one digit follows it. -/
def takePart : List Char → List Char × List Char
  | '.' :: cs => match takeDigits cs with
    | ([], _) => ([], '.' :: cs)
    | part => part
  | cs => ([], cs)

/-- The exponent, when at least one digit follows its mark. -/
def takeExponent (cs : List Char) : Option Int × List Char :=
  match cs with
  | c :: rest =>
    if c = 'e' || c = 'E' then
      let (negative, digits) := Decimal.takeSign rest
      match takeDigits digits with
      | ([], _) => (none, cs)
      | (ds, after) =>
        (some (if negative then -(digitsValue ds : Int) else digitsValue ds), after)
    else (none, cs)
  | [] => (none, [])

def readNumber (cs : List Char) : Except Fault (Json × List Char) :=
  let (negative, body) := match cs with
    | '-' :: rest => (true, rest)
    | rest => (false, rest)
  let (whole, after) := match body with
    | '0' :: rest => (['0'], rest)
    | rest => takeDigits rest
  if whole.isEmpty then .error .malformed
  else
    let (part, after) := takePart after
    let (exponent, rest) := takeExponent after
    if part.isEmpty && exponent.isNone then
      if Decimal.digitLimit < whole.length then .error (.tooManyDigits whole.length)
      else
        let n := digitsValue whole
        .ok (int (if negative then -(n : Int) else n), rest)
    else
      let x := Decimal.nearest (digitsValue (whole ++ part)) (exponent.getD 0 - part.length)
      .ok (float (if negative then -x else x), rest)

def startsWith (word : String) (cs : List Char) : Option (List Char) :=
  if word.toList.isPrefixOf cs then some (cs.drop word.length) else none

def names : List (String × Json) := [
  ("null", null), ("true", bool true), ("false", bool false), ("NaN", float (0.0 / 0.0)),
  ("Infinity", float (1.0 / 0.0)), ("-Infinity", float (-1.0 / 0.0))]

def readName? (cs : List Char) : Option (Json × List Char) :=
  names.findSome? fun (word, v) ↦ (startsWith word cs).map (v, ·)

mutual

def readValue : (fuel depth : Nat) → List Char → Except Fault (Json × List Char)
  | 0, _, _ => .error .malformed
  | fuel + 1, depth, cs =>
    match cs with
    | '"' :: rest =>
      match readString? (rest.length + 1) [] rest with
      | some (s, rest) => .ok (str s, rest)
      | none => .error .malformed
    | '[' :: rest =>
      if depth = 0 then .error .tooDeep
      else match skipBlank rest with
        | ']' :: after => .ok (arr [], after)
        | items => readItems fuel (depth - 1) [] items
    | '{' :: rest =>
      if depth = 0 then .error .tooDeep
      else match skipBlank rest with
        | '}' :: after => .ok (obj [], after)
        | items => readFields fuel (depth - 1) [] items
    | _ =>
      match readName? cs with
      | some found => .ok found
      | none => readNumber cs

def readItems : (fuel depth : Nat) → (acc : List Json) → List Char → Except Fault (Json × List Char)
  | 0, _, _, _ => .error .malformed
  | fuel + 1, depth, acc, cs =>
    match readValue fuel depth cs with
    | .error e => .error e
    | .ok (v, rest) =>
      match skipBlank rest with
      | ']' :: after => .ok (arr (v :: acc).reverse, after)
      | ',' :: more => readItems fuel depth (v :: acc) (skipBlank more)
      | _ => .error .malformed

def readFields : (fuel depth : Nat) → (acc : List (String × Json)) → List Char →
    Except Fault (Json × List Char)
  | 0, _, _, _ => .error .malformed
  | fuel + 1, depth, acc, cs =>
    match cs with
    | '"' :: afterMark =>
      match readString? (afterMark.length + 1) [] afterMark with
      | none => .error .malformed
      | some (key, rest) =>
        match skipBlank rest with
        | ':' :: more =>
          match readValue fuel depth (skipBlank more) with
          | .error e => .error e
          | .ok (v, rest) =>
            match skipBlank rest with
            | '}' :: after => .ok (obj (insertField key v acc), after)
            | ',' :: more => readFields fuel depth (insertField key v acc) (skipBlank more)
            | _ => .error .malformed
        | _ => .error .malformed
    | _ => .error .malformed

end

def parse (s : String) : Except Fault Json :=
  let cs := skipBlank s.toList
  match readValue (2 * cs.length + 2) depthLimit cs with
  | .error e => .error e
  | .ok (v, rest) => if (skipBlank rest).isEmpty then .ok v else .error .malformed

/-! ### Writing -/

def escapeUnit (n : Nat) : List Char := '\\' :: 'u' :: Text.Quoted.hex 4 n

def encodeChar (c : Char) : List Char :=
  if c = '"' || c = '\\' then ['\\', c]
  else if c = '\n' then ['\\', 'n']
  else if c = '\r' then ['\\', 'r']
  else if c = '\t' then ['\\', 't']
  else if c = '\x08' then ['\\', 'b']
  else if c = '\x0c' then ['\\', 'f']
  else
    let n := c.toNat
    if 0x20 ≤ n && n < 0x7f then [c]
    else if n < 0x10000 then escapeUnit n
    else escapeUnit (0xd800 + (n - 0x10000) / 0x400) ++ escapeUnit (0xdc00 + (n - 0x10000) % 0x400)

/-- A string in marks, in which only printable characters of the first 127 stand for themselves. -/
def quote (s : String) : List Char := '"' :: s.toList.flatMap encodeChar ++ ['"']

def floatText (x : Float) : String :=
  if x.isNaN then "NaN" else if x.isInf then (if x < 0 then "-Infinity" else "Infinity")
  else Decimal.text x

def scalarText : Json → List Char
  | null => ['n', 'u', 'l', 'l']
  | bool true => ['t', 'r', 'u', 'e']
  | bool false => ['f', 'a', 'l', 's', 'e']
  | int i => (toString i).toList
  | float x => (floatText x).toList
  | str s => quote s
  | arr _ => ['[', ']']
  | obj _ => ['{', '}']

def lineBreak (level : Nat) : List Char := '\n' :: List.replicate (2 * level) ' '

mutual

/-- The value with each element on its own line, two more blanks in for each level. -/
def render (level : Nat) : Json → List Char
  | arr (v :: vs) =>
    '[' :: lineBreak (level + 1) ++ render (level + 1) v ++ renderItems (level + 1) vs
      ++ lineBreak level ++ [']']
  | obj ((k, v) :: fs) =>
    '{' :: lineBreak (level + 1) ++ quote k ++ [':', ' '] ++ render (level + 1) v
      ++ renderFields (level + 1) fs ++ lineBreak level ++ ['}']
  | v => scalarText v

def renderItems (level : Nat) : List Json → List Char
  | [] => []
  | v :: vs => ',' :: lineBreak level ++ render level v ++ renderItems level vs

def renderFields (level : Nat) : List (String × Json) → List Char
  | [] => []
  | (k, v) :: fs =>
    ',' :: lineBreak level ++ quote k ++ [':', ' '] ++ render level v ++ renderFields level fs

end

def pretty (j : Json) : String := String.ofList (render 0 j)

mutual

def compact : Json → List Char
  | arr (v :: vs) => '[' :: compact v ++ compactItems vs ++ [']']
  | obj ((k, v) :: fs) => '{' :: quote k ++ ':' :: compact v ++ compactFields fs ++ ['}']
  | v => scalarText v

def compactItems : List Json → List Char
  | [] => []
  | v :: vs => ',' :: compact v ++ compactItems vs

def compactFields : List (String × Json) → List Char
  | [] => []
  | (k, v) :: fs => ',' :: quote k ++ ':' :: compact v ++ compactFields fs

end

end Json

end VariableExplorer
