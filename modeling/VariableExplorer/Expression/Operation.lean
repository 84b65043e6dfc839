import VariableExplorer.Expression.Basic
import VariableExplorer.Expression.Filling

/-!
The operators on values: arithmetic on numbers, joining and repetition of sequences, comparison.
-/

namespace VariableExplorer

def BinaryOp.symbol : BinaryOp → String
  | add => "+"
  | sub => "-"
  | mul => "*"
  | div => "/"
  | floorDiv => "//"
  | mod => "%"
  | pow => "** or pow()"
  | matMul => "@"
  | shiftLeft => "<<"
  | shiftRight => ">>"
  | bitAnd => "&"
  | bitOr => "|"
  | bitXor => "^"

def UnaryOp.symbol : UnaryOp → String
  | negate => "-"
  | keep => "+"
  | invert => "~"
  | not => "not"

def CompareOp.symbol : CompareOp → String
  | eq => "=="
  | ne => "!="
  | lt => "<"
  | le => "<="
  | gt => ">"
  | ge => ">="
  | isSame => "is"
  | isNotSame => "is not"
  | isIn => "in"
  | isNotIn => "not in"

namespace Number

def toFloat (n : Number) : Except Fault Float :=
  match n with
  | int i => match Decimal.nearestInt? i with
    | some x => .ok x
    | none => .error (.raised "OverflowError" (some "int too large to convert to float"))
  | float x => .ok x
  | complex re _ => .ok re

/-- What is left of one magnitude when another is taken from it as often as possible. -/
def leftOver (b c : Decimal.Binary) : Float :=
  let e := min b.exponent c.exponent
  let shifted (d : Decimal.Binary) : Nat := d.mantissa <<< (d.exponent - e).toNat
  (Float.ofNat (shifted b % shifted c)).scaleB e

def truncatedRemainder (x y : Float) : Float :=
  match Decimal.Reading.ofFloat x, Decimal.Reading.ofFloat y with
  | .notANumber, _ | _, .notANumber | .infinite _, _ => 0.0 / 0.0
  | .zero _, _ | _, .infinite _ | _, .zero _ => x
  | .finite negative b, .finite _ c => if negative then -(leftOver b c) else leftOver b c

def isNegative (x : Float) : Bool := x.toBits.toNat >>> 63 = 1

def zeroLike (x : Float) : Float := if isNegative x then -0.0 else 0.0

def floatMod (x y : Float) : Float :=
  let r := truncatedRemainder x y
  if r == 0.0 then zeroLike y else if (r < 0.0) != (y < 0.0) then r + y else r

def floatFloorDiv (x y : Float) : Float :=
  let r := truncatedRemainder x y
  let q := (x - r) / y
  let q := if r != 0.0 && (r < 0.0) != (y < 0.0) then q - 1.0 else q
  if q == 0.0 then zeroLike (x / y) else if 0.5 < q - q.floor then q.floor + 1.0 else q.floor

def quotient (i j : Int) : Except Fault Value :=
  let a := i.natAbs
  let b := j.natAbs
  -- enough bits for rounding, the last of which tells of anything below it
  let shift : Int := 66 + b.log2 - a.log2
  let r := Decimal.Ratio.scale 2 shift ⟨a, b⟩
  let q := 2 * (r.num / r.den) + (if r.num % r.den = 0 then 0 else 1)
  let x := (Float.ofNat q).scaleB (-shift - 1)
  if x.isInf then
    .error (.raised "OverflowError" (some "integer division result too large for a float"))
  else .ok (.float (if (i < 0) != (j < 0) && a != 0 then -x else x))

def ofFloats (op : BinaryOp) (x y : Float) : Option (Except Fault Value) :=
  match op with
  | .add => some (.ok (.float (x + y)))
  | .sub => some (.ok (.float (x - y)))
  | .mul => some (.ok (.float (x * y)))
  | .div => some <|
    if y == 0.0 then .error (.divisionByZero "float division by zero") else .ok (.float (x / y))
  | .floorDiv =>
    some (if y == 0.0 then .error (.divisionByZero "float floor division by zero")
      else .ok (.float (floatFloorDiv x y)))
  | .mod => some <|
    if y == 0.0 then .error (.divisionByZero "float modulo") else .ok (.float (floatMod x y))
  | .pow => some (.ok (.float (x.pow y)))
  | _ => none

def ofInts (op : BinaryOp) (i j : Int) : Except Fault Value :=
  match op with
  | .add => .ok (.int (i + j))
  | .sub => .ok (.int (i - j))
  | .mul => .ok (.int (i * j))
  | .div =>
    if j = 0 then .error (.divisionByZero "division by zero")
    else quotient i j
  | .floorDiv =>
    if j = 0 then .error (.divisionByZero "integer division or modulo by zero")
    else .ok (.int (i.fdiv j))
  | .mod =>
    if j = 0 then .error (.divisionByZero "integer modulo by zero") else .ok (.int (i.fmod j))
  | .pow =>
    if 0 ≤ j then .ok (.int (i.pow j.toNat))
    else if i = 0 then .error (.divisionByZero "0.0 cannot be raised to a negative power")
    else do return .float ((← toFloat (.int i)).pow (← toFloat (.int j)))
  | .shiftLeft => if j < 0 then .error (.raised "ValueError" (some "negative shift count"))
    else .ok (.int (i <<< j.toNat))
  | .shiftRight => if j < 0 then .error (.raised "ValueError" (some "negative shift count"))
    else .ok (.int (i >>> j.toNat))
  | .bitAnd => .ok (.int (bitwise (· && ·) i j))
  | .bitOr => .ok (.int (bitwise (· || ·) i j))
  | .bitXor => .ok (.int (bitwise (· != ·) i j))
  | .matMul => .error (.badOperands "@" "int" "int")
where
  /-- Bit by bit, in the shortest common width with a sign bit. -/
  bitwise (f : Bool → Bool → Bool) (i j : Int) : Int :=
    let width := max i.natAbs.log2 j.natAbs.log2 + 2
    let bits (k : Int) : Nat := (k % (1 <<< width)).toNat
    let n := (List.range width).foldl (fun (acc : Nat) k ↦
      if f ((bits i).testBit k) ((bits j).testBit k) then acc + 1 <<< k else acc) 0
    if n.testBit (width - 1) then (n : Int) - 1 <<< width else n

def ofComplex (op : BinaryOp) (a b c d : Float) : Option (Except Fault Value) :=
  match op with
  | .add => some (.ok (.complex (a + c) (b + d)))
  | .sub => some (.ok (.complex (a - c) (b - d)))
  | .mul => some (.ok (.complex (a * c - b * d) (a * d + b * c)))
  | .div =>
    let n := c * c + d * d
    some (if n == 0.0 then .error (.divisionByZero "complex division by zero")
      else .ok (.complex ((a * c + b * d) / n) ((b * c - a * d) / n)))
  | _ => none

def parts : Number → Except Fault (Float × Float)
  | complex re im => .ok (re, im)
  | n => do return (← n.toFloat, 0.0)

def operate (op : BinaryOp) (a b : Number) : Option (Except Fault Value) :=
  match a, b with
  | int i, int j => if op = .matMul then none else some (ofInts op i j)
  | complex _ _, _ | _, complex _ _ =>
    match a.parts, b.parts with
    | .ok (x, y), .ok (z, w) => ofComplex op x y z w
    | .error f, _ | _, .error f => some (.error f)
  | a, b =>
    match a.toFloat, b.toFloat with
    | .ok x, .ok y => ofFloats op x y
    | .error f, _ | _, .error f => some (.error f)

def less : Number → Number → Option Bool
  | int i, int j => some (i < j)
  | complex _ _, _ | _, complex _ _ => none
  -- not by way of `toFloat`, which may round
  | int i, float x => some (match Decimal.truncate? x.floor with
    | some t => if x == x.floor then i < t else i ≤ t
    | none => 0.0 < x)
  | float x, int i => some (match Decimal.truncate? x.floor with
    | some t => t < i
    | none => x < 0.0)
  | float x, float y => some (x < y)

end Number

namespace Eval

def repeatList {α : Type} (xs : List α) (n : Int) : List α :=
  (List.replicate n.toNat xs).flatten

def operateSequences (op : BinaryOp) (l r : Value) : Eval Value := do
  let s ← get
  let unsupported : Fault := .badOperands op.symbol (s.kindFullName l) (s.kindFullName r)
  match op with
  | .add =>
    match s.body l, s.body r with
    | .list xs, .list ys => newList (xs ++ ys)
    | .tuple xs, .tuple ys => newTuple (xs ++ ys)
    | .scalar (.str a), .scalar (.str b) => return .str (a ++ b)
    | .scalar (.bytes a), .scalar (.bytes b) => return .bytes (a ++ b)
    | .list _, _ => throw (.notConcatenable "list" (s.kindFullName r))
    | .tuple _, _ => throw (.notConcatenable "tuple" (s.kindFullName r))
    | .scalar (.str _), _ => throw (.notConcatenable "str" (s.kindFullName r))
    | .scalar (.bytes _), _ => throw (.notBytesConcatenable (s.kindFullName r) "bytes")
    | _, _ => throw unsupported
  | .mul =>
    let times (v : Value) (n : Int) : Eval Value :=
      match s.body v with
      | .list xs => newList (repeatList xs n)
      | .tuple xs => newTuple (repeatList xs n)
      | .scalar (.str a) => return .str (String.ofList (repeatList a.toList n))
      | .scalar (.bytes a) => return .bytes (repeatList a n)
      | _ => throw unsupported
    let isSequence (v : Value) : Bool := match s.body v with
      | .list _ | .tuple _ | .scalar (.str _) | .scalar (.bytes _) => true
      | _ => false
    match s.asInt? l, s.asInt? r with
    -- either side may be the number of times
    | _, some n => times l n
    | some n, _ => times r n
    | none, none =>
      if isSequence l then throw (.badRepeat (s.kindFullName r))
      else if isSequence r then throw (.badRepeat (s.kindFullName l))
      else throw unsupported
  | .mod =>
    match s.scalar l with
    | .str t => fillText t r
    | _ => throw unsupported
  | _ => throw unsupported

def operate (op : BinaryOp) (l r : Value) : Eval Value := do
  let s ← get
  match Number.ofValue? (s.scalar l), Number.ofValue? (s.scalar r) with
  | some a, some b =>
    match Number.operate op a b with
    | some result => ofExcept result
    | none => throw (.badOperands op.symbol (s.kindFullName l) (s.kindFullName r))
  | _, _ => operateSequences op l r

def operateUnary (op : UnaryOp) (v : Value) : Eval Value := do
  let s ← get
  let unsupported : Fault := .badOperand op.symbol (s.kindFullName v)
  match op, Number.ofValue? (s.scalar v) with
  | .not, _ => return .bool (!(← isTrue v))
  | .negate, some (.int i) => return .int (-i)
  | .negate, some (.float x) => return .float (-x)
  | .negate, some (.complex re im) => return .complex (-re) (-im)
  | .keep, some (.int i) => return .int i
  | .keep, some (.float x) => return .float x
  | .keep, some (.complex re im) => return .complex re im
  | .invert, some (.int i) => return .int (-i - 1)
  | _, _ => throw unsupported

def isSame (v w : Value) : Bool :=
  match v, w with
  | .float x, .float y => x.toBits == y.toBits
  | .bool a, .bool b => a == b
  | .bool _, _ | _, .bool _ => false
  | .int i, .int j => i == j
  | .int _, _ | _, .int _ => false
  | v, w => v.equalScalar w

/-- The order of two values, or the parts of them that have none; `fuel` bounds the nesting. A list
comes before another as the first elements do in which they differ, and a set before those that hold
more. -/
def less (s : Store) (strict : Bool) : (fuel : Nat) → Value → Value → Except (Value × Value) Bool
  | 0, v, w => .error (v, w)
  | fuel + 1, v, w =>
    let least (lt eq : Bool) := lt || (eq && !strict)
    match Number.ofValue? (s.scalar v), Number.ofValue? (s.scalar w) with
    | some a, some b =>
      match a.less b with
      | some lt => .ok (least lt (a.equal b))
      | none => .error (v, w)
    | _, _ =>
      match s.body v, s.body w with
      | .scalar (.str a), .scalar (.str b) => .ok (least (a < b) (a == b))
      | .scalar (.bytes a), .scalar (.bytes b) | .scalar (.bytes a), .bytearray b
      | .bytearray a, .scalar (.bytes b) | .bytearray a, .bytearray b =>
        .ok (least (a < b) (a == b))
      | .list xs, .list ys | .tuple xs, .tuple ys =>
        match (xs.zip ys).find? fun (x, y) ↦ !s.equal fuel x y with
        | some (x, y) => less s strict fuel x y
        | none => .ok (least (xs.length < ys.length) (xs.length == ys.length))
      | .set xs, .set ys =>
        .ok (xs.all (fun x ↦ ys.any (s.equal fuel x ·)) &&
          least (xs.length < ys.length) (xs.length == ys.length))
      | _, _ => .error (v, w)

def contains (container v : Value) : Eval Bool := do
  let s ← get
  match s.scalar container, s.scalar v with
  | .str t, .str u =>
    let cs := t.toList
    return (List.range (cs.length + 1)).any fun k ↦ u.toList.isPrefixOf (cs.drop k)
  | .str _, _ =>
    throw (.argumentCount s!"'in <string>' requires string as left operand, not {s.kindFullName v}")
  | _, _ =>
    match s.body container with
    | .dict _ | .view _ =>
      checkKey v
      return (s.lookup? v ((entriesOf s 3 container).getD [])).isSome
    | _ =>
      match contentElements? s container with
      | some items => return items.any (s.sameKey · v)
      | none =>
        throw (.argumentCount s!"argument of type '{s.kindFullName container}' is not iterable")

def compare (op : CompareOp) (l r : Value) : Eval Bool := do
  let s ← get
  let fault (v w : Value) : Fault :=
    .badComparison op.symbol (s.kindFullName v) (s.kindFullName w)
  let ordered (strict : Bool) : Eval Bool :=
    ofExcept ((less s strict Store.keyDepth l r).mapError fun (v, w) ↦ fault v w)
  let reversed (strict : Bool) : Eval Bool :=
    ofExcept ((less s strict Store.keyDepth r l).mapError fun (v, w) ↦ fault w v)
  match op with
  | .eq => return s.equal Store.keyDepth l r
  | .ne => return !s.equal Store.keyDepth l r
  | .lt => ordered true
  | .le => ordered false
  | .gt => reversed true
  | .ge => reversed false
  | .isSame => return isSame l r
  | .isNotSame => return !isSame l r
  | .isIn => contains r l
  | .isNotIn => return !(← contains r l)

end Eval

end VariableExplorer
