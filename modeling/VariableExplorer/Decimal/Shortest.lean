/-!
The shortest decimal that reads back as a given binary floating-point number. A finite number is
`m · 2 ^ q`; the reals that round to it form an interval around it, and the answer is the grid
point of that interval with the fewest digits, the nearest such point where there are two.
-/

namespace VariableExplorer.Decimal

/-- A positive finite number `mantissa · 2 ^ exponent`; `atEdge` when the next smaller number is
only half as far away as the next larger one. -/
structure Binary where
  mantissa : Nat
  exponent : Int
  atEdge : Bool
  deriving Repr

/-- `digits · 10 ^ exponent`. -/
structure Digits where
  digits : Nat
  exponent : Int
  deriving Repr, DecidableEq

/-- A fraction of natural numbers, not reduced. -/
structure Ratio where
  num : Nat
  den : Nat

def Ratio.scale (base : Nat) (e : Int) (r : Ratio) : Ratio :=
  if 0 ≤ e then ⟨r.num * base.pow e.toNat, r.den⟩ else ⟨r.num, r.den * base.pow (-e).toNat⟩

def Ratio.le (r s : Ratio) : Bool := r.num * s.den ≤ s.num * r.den

def Ratio.lt (r s : Ratio) : Bool := r.num * s.den < s.num * r.den

namespace Binary

/-- In quarters of the last place: the number, and the two ends of its rounding interval. -/
def value (b : Binary) : Ratio := Ratio.scale 2 (b.exponent - 2) ⟨4 * b.mantissa, 1⟩

def low (b : Binary) : Ratio :=
  Ratio.scale 2 (b.exponent - 2) ⟨4 * b.mantissa - (if b.atEdge then 1 else 2), 1⟩

def high (b : Binary) : Ratio := Ratio.scale 2 (b.exponent - 2) ⟨4 * b.mantissa + 2, 1⟩

/-- The ends belong to the interval exactly when the mantissa is even. -/
def holds (b : Binary) (r : Ratio) : Bool :=
  if b.mantissa % 2 = 0 then b.low.le r && r.le b.high else b.low.lt r && r.lt b.high

end Binary

def digitCount (n : Nat) : Nat := (Nat.toDigits 10 n).length

def leadingExponent (r : Ratio) : Int :=
  let guess : Int := digitCount r.num - digitCount r.den
  if (Ratio.scale 10 guess ⟨1, 1⟩).le r then guess else guess - 1

/-- The grid points of step `10 ^ e` that lie in the interval of `b`, the nearer one first. -/
def neighbours (b : Binary) (e : Int) : List Digits :=
  let v := Ratio.scale 10 (-e) b.value
  let below := v.num / v.den
  let rest := v.num % v.den
  let points :=
    if 2 * rest < v.den || (2 * rest = v.den && below % 2 = 0) then [below, below + 1]
    else [below + 1, below]
  (points.filter fun d ↦ d ≠ 0 && b.holds (Ratio.scale 10 e ⟨d, 1⟩)).map (⟨·, e⟩)

def Digits.trim : (fuel : Nat) → Digits → Digits
  | 0, d => d
  | fuel + 1, d =>
    if d.digits ≠ 0 && d.digits % 10 = 0 then Digits.trim fuel ⟨d.digits / 10, d.exponent + 1⟩
    else d

/-- The fewest digits that read back as `b`; seventeen always do. -/
def shortest (b : Binary) : Digits :=
  let lead := leadingExponent b.value
  let found := (List.range 17).findSome? fun (n : Nat) ↦ (neighbours b (lead - (n : Int))).head?
  (found.getD ⟨0, 0⟩).trim 20

inductive Reading
  | notANumber
  | infinite (negative : Bool)
  | zero (negative : Bool)
  | finite (negative : Bool) (b : Binary)

def Reading.ofFloat (x : Float) : Reading :=
  let bits := x.toBits.toNat
  let negative : Bool := bits >>> 63 = 1
  let field : Nat := (bits >>> 52) % 2048
  let fraction : Nat := bits % Nat.pow 2 52
  if field = 2047 then
    if fraction = 0 then .infinite negative else .notANumber
  else if field = 0 then
    if fraction = 0 then .zero negative else .finite negative ⟨fraction, -1074, false⟩
  else
    .finite negative ⟨fraction + Nat.pow 2 52, (field : Int) - 1075, fraction = 0 && field ≠ 1⟩

/-- How a number is laid out: positional while the leading digit's exponent lies in
`[leastPositional, endPositional)`, else with an exponent of at least two digits. -/
structure Layout where
  leastPositional : Int
  endPositional : Int
  keepsPoint : Bool

def zeros (n : Nat) : List Char := List.replicate n '0'

def Layout.render (l : Layout) (d : Digits) : List Char :=
  let ds := Nat.toDigits 10 d.digits
  let lead : Int := d.exponent + ds.length - 1
  if l.leastPositional ≤ lead && lead < l.endPositional then
    if lead < 0 then '0' :: '.' :: zeros (-lead - 1).toNat ++ ds
    else
      let whole := ds.take (lead + 1).toNat ++ zeros ((lead + 1).toNat - ds.length)
      match ds.drop (lead + 1).toNat with
      | [] => if l.keepsPoint then whole ++ ['.', '0'] else whole
      | part => whole ++ '.' :: part
  else
    let head := match ds with
      | [] => []
      | [c] => [c]
      | c :: rest => c :: '.' :: rest
    let size := Nat.toDigits 10 lead.natAbs
    head ++ 'e' :: (if lead < 0 then '-' else '+') :: zeros (2 - size.length) ++ size

/-- Positional from `0.0001` up to and excluding `10 ^ 16`. -/
def plainLayout : Layout := ⟨-4, 16, true⟩

def Layout.text (l : Layout) (x : Float) : String :=
  let sign (negative : Bool) (cs : List Char) := if negative then '-' :: cs else cs
  String.ofList <| match Reading.ofFloat x with
    | .notANumber => ['n', 'a', 'n']
    | .infinite negative => sign negative ['i', 'n', 'f']
    | .zero negative => sign negative (if l.keepsPoint then ['0', '.', '0'] else ['0'])
    | .finite negative b => sign negative (l.render (shortest b))

/-- The shortest text of a number, always with a point or an exponent. -/
def text (x : Float) : String := plainLayout.text x

end VariableExplorer.Decimal
