import VariableExplorer.Decimal.Shortest
import VariableExplorer.Text.Blank
import VariableExplorer.Text.DecimalDigit

/-!
Reading numbers from text. Digits of every script count, single underscores may stand between
digits, and blanks around the number are ignored.
-/

namespace VariableExplorer.Decimal

def nearest (digits : Nat) (e : Int) : Float :=
  if digits = 0 then 0.0
  else
    let lead : Int := e + digitCount digits
    if 400 < lead then 1.0 / 0.0
    else if lead < -400 then 0.0
    else Float.ofScientific digits (e < 0) e.natAbs

def nearestInt? (i : Int) : Option Float :=
  let x := nearest i.natAbs 0
  if x.isInf then none else some (if i < 0 then -x else x)

def truncate? (x : Float) : Option Int :=
  match Reading.ofFloat x with
  | .notANumber | .infinite _ => none
  | .zero _ => some 0
  | .finite negative b =>
    let n : Nat := if 0 ≤ b.exponent then b.mantissa <<< b.exponent.toNat
      else b.mantissa >>> (-b.exponent).toNat
    some (if negative then -(n : Int) else n)

/-- A run of decimal digits: its value, its length and what follows it. -/
structure Run where
  value : Nat
  count : Nat
  rest : List Char

/-- Reads on from digits already read; an underscore counts only between two digits. -/
def Run.extend (value count : Nat) : List Char → Run
  | '_' :: c :: cs =>
    match if count = 0 then none else Text.digitValue? c with
    | some d => Run.extend (10 * value + d) (count + 1) cs
    | none => ⟨value, count, '_' :: c :: cs⟩
  | c :: cs =>
    match Text.digitValue? c with
    | some d => Run.extend (10 * value + d) (count + 1) cs
    | none => ⟨value, count, c :: cs⟩
  | [] => ⟨value, count, []⟩

def Run.read (cs : List Char) : Run := Run.extend 0 0 cs

def takeSign : List Char → Bool × List Char
  | '-' :: cs => (true, cs)
  | '+' :: cs => (false, cs)
  | cs => (false, cs)

inductive IntegerFault
  | malformed
  | tooManyDigits (count : Nat)
  deriving Repr, DecidableEq

/-- The longest decimal text that is read as, or written for, an integer. -/
def digitLimit : Nat := 4300

def readInteger (s : String) : Except IntegerFault Int :=
  let (negative, cs) := takeSign (Text.strip s).toList
  let run := Run.read cs
  if run.count = 0 || !run.rest.isEmpty then .error .malformed
  else if digitLimit < run.count then .error (.tooManyDigits run.count)
  else .ok (if negative then -(run.value : Int) else run.value)

/-- The exponent part, absent when no digit follows the mark. -/
def readExponent (cs : List Char) : Int × List Char :=
  match cs with
  | c :: rest =>
    if c = 'e' || c = 'E' then
      let (negative, digits) := takeSign rest
      let run := Run.read digits
      if run.count = 0 then (0, cs)
      else (if negative then -(run.value : Int) else run.value, run.rest)
    else (0, cs)
  | [] => (0, [])

/-- An unsigned number with an optional part and exponent, and what follows it. -/
def readUnsigned? (cs : List Char) : Option (Float × List Char) :=
  let whole := Run.read cs
  match whole.rest with
  | '.' :: after =>
    let part : Run := match after with
      | '_' :: _ => ⟨0, 0, after⟩
      | _ => Run.extend whole.value 0 after
    if whole.count = 0 && part.count = 0 then none
    else
      let digits := if part.count = 0 then whole.value else part.value
      let (e, rest) := readExponent part.rest
      some (nearest digits (e - part.count), rest)
  | after =>
    if whole.count = 0 then none
    else
      let (e, rest) := readExponent after
      some (nearest whole.value e, rest)

def lowerAscii (s : String) : String := s.map Char.toLower

def readFloat? (s : String) : Option Float :=
  let (negative, cs) := takeSign (Text.strip s).toList
  let sign (x : Float) : Float := if negative then -x else x
  let word := lowerAscii (String.ofList cs)
  if word = "inf" || word = "infinity" then some (sign (1.0 / 0.0))
  else if word = "nan" then some (0.0 / 0.0)
  else match readUnsigned? cs with
    | some (x, []) => some (sign x)
    | _ => none

end VariableExplorer.Decimal
