import VariableExplorer.Value.Subscript

/-!
Texts with places for values: a percent sign, perhaps the key of a value in parentheses, flags, a
width, a precision, and the letter of the form in which the value is written.
-/

namespace VariableExplorer

namespace Filling

/-- How a value is written in its place. -/
structure Place where
  key : Option String := none
  flags : List Char := []
  width : Nat := 0
  precision : Option Nat := none
  deriving Repr

/-- The values that are left, and whether what is left over matters. -/
structure Supply where
  given : Value
  left : List Value
  isMapping : Bool

def incomplete : Fault := .raised "ValueError" (some "incomplete format")

def takeNumber (cs : List Char) : Nat × List Char :=
  ((cs.takeWhile Char.isDigit).foldl (fun n c ↦ 10 * n + (c.toNat - 0x30)) 0,
    cs.dropWhile Char.isDigit)

def takeKey : (depth : Nat) → List Char → Option (List Char × List Char)
  | _, [] => none
  | 0, ')' :: cs => some ([], cs)
  | depth, c :: cs =>
    let depth := if c = '(' then depth + 1 else if c = ')' then depth - 1 else depth
    (takeKey depth cs).map fun (key, rest) ↦ (c :: key, rest)

def takePlace (cs : List Char) : Except Fault (Place × List Char) := do
  let (key, cs) ← match cs with
    | '(' :: rest =>
      match takeKey 0 rest with
      | some (key, rest) => pure (some (String.ofList key), rest)
      | none => throw (.raised "ValueError" (some "incomplete format key"))
    | cs => pure (none, cs)
  let isFlag (c : Char) : Bool := ['-', '+', ' ', '#', '0'].contains c
  let flags := cs.takeWhile isFlag
  let (width, cs) := takeNumber (cs.dropWhile isFlag)
  match cs with
  | '.' :: rest =>
    let (precision, rest) := takeNumber rest
    return (⟨key, flags, width, some precision⟩, rest)
  | cs => return (⟨key, flags, width, none⟩, cs)

/-- Fills a place up to its width: on the right if asked to, with zeros behind the sign if these
are asked for and allowed, else with blanks on the left. -/
def Place.fill (p : Place) (allowsZeros : Bool) (sign body : List Char) : List Char :=
  let missing := p.width - (sign.length + body.length)
  if p.flags.contains '-' then sign ++ body ++ List.replicate missing ' '
  else if allowsZeros && p.flags.contains '0' then sign ++ List.replicate missing '0' ++ body
  else List.replicate missing ' ' ++ sign ++ body

def Place.sign (p : Place) (negative : Bool) : List Char :=
  if negative then ['-'] else if p.flags.contains '+' then ['+']
  else if p.flags.contains ' ' then [' '] else []

def Place.integer (p : Place) (base : Nat) (mark : List Char) (capital : Bool) (i : Int) :
    List Char :=
  let digits := Nat.toDigits base i.natAbs
  let digits := List.replicate (p.precision.getD 0 - digits.length) '0' ++ digits
  let digits := if capital then digits.map Char.toUpper else digits
  p.fill true (p.sign (i < 0) ++ if p.flags.contains '#' then mark else []) digits

/-- The nearest whole number to a fraction, the even one of two. -/
def roundEven (r : Decimal.Ratio) : Nat :=
  let q := r.num / r.den
  let twice := 2 * (r.num % r.den)
  if twice < r.den then q else if r.den < twice then q + 1 else if q % 2 = 0 then q else q + 1

def Place.fixed (p : Place) (x : Float) : List Char :=
  let places := p.precision.getD 6
  let body (n : Nat) : List Char :=
    let digits := Nat.toDigits 10 n
    let digits := List.replicate (places + 1 - digits.length) '0' ++ digits
    let point := if places = 0 && !p.flags.contains '#' then [] else ['.']
    digits.take (digits.length - places) ++ point ++ digits.drop (digits.length - places)
  match Decimal.Reading.ofFloat x with
  | .notANumber => p.fill false (p.sign false) ['n', 'a', 'n']
  | .infinite negative => p.fill false (p.sign negative) ['i', 'n', 'f']
  | .zero negative => p.fill true (p.sign negative) (body 0)
  | .finite negative b =>
    let value := Decimal.Ratio.scale 2 b.exponent ⟨b.mantissa * Nat.pow 10 places, 1⟩
    p.fill true (p.sign negative) (body (roundEven value))

def Place.text (p : Place) (text : String) : List Char :=
  p.fill false [] (p.precision.elim text.toList text.toList.take)

end Filling

namespace Eval

open Filling

def takeValue (p : Place) (s : Supply) : Eval (Value × Supply) := do
  match p.key with
  | some key =>
    if s.isMapping then return (← getItem s.given (.str key), s)
    else throw (.raised "TypeError" (some "format requires a mapping"))
  | none =>
    match s.left with
    | v :: left => return (v, { s with left := left })
    | [] => throw (.argumentCount "not enough arguments for format string")

def inPlace (p : Place) (form : Char) (index : Nat) (v : Value) : Eval (List Char) := do
  let s ← get
  let needsNumber : Fault :=
    .raised "TypeError" (some s!"%{form} format: a real number is required, not {s.kindFullName v}")
  let needsInteger : Fault :=
    .raised "TypeError" (some s!"%{form} format: an integer is required, not {s.kindFullName v}")
  let whole (fault : Fault) (base : Nat) (mark : List Char) (capital : Bool) : Eval (List Char) :=
    match s.asInt? v with
    | some i => return p.integer base mark capital i
    | none => throw fault
  if form = 's' then return p.text (← plain v)
  else if form = 'r' then return p.text (← shown v)
  else if form = 'd' || form = 'i' || form = 'u' then
    match s.scalar v with
    | .float x =>
      match Decimal.truncate? x with
      | some i => return p.integer 10 [] false i
      | none => throw <|
        if x.isInf then .raised "OverflowError" (some "cannot convert float infinity to integer")
        else .raised "ValueError" (some "cannot convert float NaN to integer")
    | _ => whole needsNumber 10 [] false
  else if form = 'x' then whole needsInteger 16 ['0', 'x'] false
  else if form = 'X' then whole needsInteger 16 ['0', 'X'] true
  else if form = 'o' then whole needsInteger 8 ['0', 'o'] false
  else if form = 'f' || form = 'F' then
    match s.scalar v, s.asInt? v with
    | .float x, _ => return p.fixed x
    | _, some i =>
      match Decimal.nearestInt? i with
      | some x => return p.fixed x
      | none => throw (.raised "OverflowError" (some "int too large to convert to float"))
    | _, none =>
      throw (.raised "TypeError" (some s!"must be real number, not {s.kindFullName v}"))
  else if form = 'c' then
    match s.asInt? v, s.scalar v with
    | some i, _ =>
      if 0 ≤ i && i < 0x110000 then return p.fill false [] [Char.ofNat i.toNat]
      else throw (.raised "OverflowError" (some "%c arg not in range(0x110000)"))
    | none, .str t =>
      match t.toList with
      | [c] => return p.fill false [] [c]
      | _ => throw (.raised "TypeError" (some "%c requires int or char"))
    | none, _ => throw (.raised "TypeError" (some "%c requires int or char"))
  else
    -- no form that there is
    let code := String.ofList (Nat.toDigits 16 form.toNat)
    throw (.raised "ValueError"
      (some s!"unsupported format character '{form}' (0x{code}) at index {index}"))

def fillFrom (length : Nat) : (fuel : Nat) → Supply → List Char → Eval (List Char)
  | 0, _, _ => return []
  | _, s, [] =>
    if s.left.isEmpty || s.isMapping then return []
    else throw (.argumentCount "not all arguments converted during string formatting")
  | fuel + 1, s, '%' :: cs => do
    let (p, cs) ← ofExcept (takePlace cs)
    match cs with
    | [] => throw incomplete
    | '%' :: cs => return '%' :: (← fillFrom length fuel s cs)
    | form :: cs => do
      let (v, s) ← takeValue p s
      let written ← inPlace p form (length - cs.length - 1) v
      return written ++ (← fillFrom length fuel s cs)
  | fuel + 1, s, c :: cs => return c :: (← fillFrom length fuel s cs)

def hasEntries (s : Store) (v : Value) : Bool :=
  match s.ofMade? (s.classOf v) "__getitem__", s.body v with
  | some _, _ => true
  | none, .list _ | none, .dict _ | none, .bytearray _ | none, .range _ _ _ => true
  | none, .scalar (.bytes _) => true
  | none, _ => s.isKind v ["mappingproxy"]

/-- The text with its places filled by the elements of a tuple, or by a single value. -/
def fillText (text : String) (v : Value) : Eval Value := do
  let s ← get
  let supply : Supply := match s.body v with
    | .tuple items => ⟨v, items, false⟩
    | _ => ⟨v, [v], hasEntries s v⟩
  return .str (String.ofList (← fillFrom text.length (text.length + 1) supply text.toList))

end Eval

end VariableExplorer
