import VariableExplorer.Expression.Basic
import VariableExplorer.Expression.Token

/-!
Reading an expression from its tokens, by precedence: choice, then disjunction, conjunction,
negation, comparison, the arithmetic operators level by level, and last names, literals and what
is applied to them.
-/

namespace VariableExplorer

namespace Parser

/-- Where reading stopped, with a more telling reason than the general one where there is one. -/
structure Stop where
  rest : List Token
  reason : Option SyntaxReason := none

def keywords : List String := [
  "False", "None", "True", "and", "as", "assert", "async", "await", "break", "class", "continue",
  "def", "del", "elif", "else", "except", "finally", "for", "from", "global", "if", "import", "in",
  "is", "lambda", "nonlocal", "not", "or", "pass", "raise", "return", "try", "while", "with",
  "yield"]

def constants : List String := ["None", "True", "False"]

def isMark (m : String) : List Token → Bool
  | ⟨.mark n, _, _⟩ :: _ => n == m
  | _ => false

def isWord (w : String) : List Token → Bool
  | ⟨.name n, _, _⟩ :: _ => n == w
  | _ => false

def expectMark (m : String) (ts : List Token) : Except Stop (List Token) :=
  if isMark m ts then .ok ts.tail else .error ⟨ts, none⟩

/-- The operators of each level of arithmetic, from the loosest. -/
def levels : List (List (String × BinaryOp)) := [
  [("|", .bitOr)], [("^", .bitXor)], [("&", .bitAnd)], [("<<", .shiftLeft), (">>", .shiftRight)],
  [("+", .add), ("-", .sub)],
  [("*", .mul), ("/", .div), ("//", .floorDiv), ("%", .mod), ("@", .matMul)]]

def comparisons : List (String × CompareOp) := [
  ("==", .eq), ("!=", .ne), ("<", .lt), ("<=", .le), (">", .gt), (">=", .ge)]

def takeComparison? (ts : List Token) : Option (CompareOp × List Token) :=
  match ts with
  | ⟨.mark m, _, _⟩ :: rest => (comparisons.lookup m).map (·, rest)
  | ⟨.name "in", _, _⟩ :: rest => some (.isIn, rest)
  | ⟨.name "not", _, _⟩ :: ⟨.name "in", _, _⟩ :: rest => some (.isNotIn, rest)
  | ⟨.name "is", _, _⟩ :: ⟨.name "not", _, _⟩ :: rest => some (.isNotSame, rest)
  | ⟨.name "is", _, _⟩ :: rest => some (.isSame, rest)
  | _ => none

def joinTexts : Value → List Token → Except Stop (Value × List Token)
  | v, ⟨.text w, line, level⟩ :: rest =>
    match v, w with
    | .str a, .str b => joinTexts (.str (a ++ b)) rest
    | .bytes a, .bytes b => joinTexts (.bytes (a ++ b)) rest
    | _, _ => .error ⟨⟨.text w, line, level⟩ :: rest, some .mixedLiterals⟩
  | v, ts => .ok (v, ts)

def isFinish : List Token → Bool
  | ⟨.finish, _, _⟩ :: _ => true
  | _ => false

def isSign : Token → Bool
  | ⟨.mark m, _, _⟩ => m = "-" || m = "+" || m = "~"
  | ⟨.name n, _, _⟩ => n = "not"
  | _ => false

def isBoundary : Token → Bool
  | ⟨.mark m, _, _⟩ => Token.isOpening m || m = "," || m = ":" || m = "="
  | ⟨.name n, _, _⟩ => n = "else"
  | _ => false

/-- The last expression of tokens that are given in reverse, in order. -/
def sinceBoundary (reversed : List Token) : List Token :=
  go 0 [] reversed
where
  go (depth : Nat) (acc : List Token) : List Token → List Token
    | [] => acc
    | t :: ts =>
      match t.kind, depth with
      | .mark m, depth =>
        if Token.isClosing m then go (depth + 1) (t :: acc) ts
        else if depth = 0 then if isBoundary t then acc else go 0 (t :: acc) ts
        else go (if Token.isOpening m then depth - 1 else depth) (t :: acc) ts
      | _, 0 => if isBoundary t then acc else go 0 (t :: acc) ts
      | _, depth => go depth (t :: acc) ts

/-- What is wrong with an equals sign behind an expression, where that is likely a slip. -/
def slip? : Expr → Option SyntaxReason
  | .name _ => some .comparison
  | .constant .none | .constant (.bool _) => none
  | .constant .ellipsis => some (.assignment "ellipsis")
  | .constant _ => some (.assignment "literal")
  | .member _ _ => some (.assignment "attribute")
  | .subscript _ _ => some (.assignment "subscript")
  | .call _ _ _ => some (.assignment "function call")
  | .unary .not _ => none
  | .binary _ _ _ | .unary _ _ => some (.assignment "expression")
  | .dict _ _ => some (.assignment "dict literal")
  | .set _ => some (.assignment "set display")
  | _ => none

structure Arguments where
  positional : List Expr
  keywords : List String

mutual

def expression : (fuel : Nat) → List Token → Except Stop (Expr × List Token)
  | 0, ts => .error ⟨ts, none⟩
  | fuel + 1, ts => do
    if isWord "lambda" ts then
      let ts ← skipParameters fuel ts.tail
      let (_, ts) ← expression fuel ts
      return (.lambda, ts)
    else
      let (yes, ts) ← disjunction fuel ts
      if isWord "if" ts then
        let (condition, ts) ← disjunction fuel ts.tail
        if isWord "else" ts then
          let (no, ts) ← expression fuel ts.tail
          return (.choose condition yes no, ts)
        else if isMark ":" ts then throw ⟨ts, none⟩
        else throw ⟨ts, some .missingElse⟩
      else return (yes, ts)

def skipParameters : (fuel : Nat) → List Token → Except Stop (List Token)
  | 0, ts => .error ⟨ts, none⟩
  | fuel + 1, ts => do
    if isMark ":" ts then return ts.tail
    else
      let ts := if isMark "*" ts || isMark "**" ts then ts.tail else ts
      match ts with
      | ⟨.name n, line, level⟩ :: rest =>
        if keywords.contains n then throw ⟨⟨.name n, line, level⟩ :: rest, none⟩
        let rest ← if isMark "=" rest then do
            let (_, rest) ← expression fuel rest.tail
            pure rest
          else pure rest
        if isMark "," rest then skipParameters fuel rest.tail
        else if isMark ":" rest then return rest.tail
        else throw ⟨rest, none⟩
      | ts => throw ⟨ts, none⟩

def disjunction : (fuel : Nat) → List Token → Except Stop (Expr × List Token)
  | 0, ts => .error ⟨ts, none⟩
  | fuel + 1, ts => do
    let (first, ts) ← conjunction fuel ts
    let (more, ts) ← repeated fuel "or" ts
    return (if more.isEmpty then first else .or (first :: more), ts)

def conjunction : (fuel : Nat) → List Token → Except Stop (Expr × List Token)
  | 0, ts => .error ⟨ts, none⟩
  | fuel + 1, ts => do
    let (first, ts) ← inversion fuel ts
    let (more, ts) ← repeated fuel "and" ts
    return (if more.isEmpty then first else .and (first :: more), ts)

def repeated : (fuel : Nat) → (word : String) → List Token → Except Stop (List Expr × List Token)
  | 0, _, ts => .error ⟨ts, none⟩
  | fuel + 1, word, ts => do
    if isWord word ts then
      let (e, ts) ← if word == "or" then conjunction fuel ts.tail else inversion fuel ts.tail
      let (more, ts) ← repeated fuel word ts
      return (e :: more, ts)
    else return ([], ts)

def inversion : (fuel : Nat) → List Token → Except Stop (Expr × List Token)
  | 0, ts => .error ⟨ts, none⟩
  | fuel + 1, ts => do
    if isWord "not" ts then
      let (e, ts) ← inversion fuel ts.tail
      return (.unary .not e, ts)
    else
      let (first, ts) ← arithmetic fuel 0 ts
      let ((ops, rest), ts) ← comparisonTail fuel ts
      return (if ops.isEmpty then first else .compare first ops rest, ts)

def comparisonTail :
    (fuel : Nat) → List Token → Except Stop ((List CompareOp × List Expr) × List Token)
  | 0, ts => .error ⟨ts, none⟩
  | fuel + 1, ts => do
    match takeComparison? ts with
    | none => return (([], []), ts)
    | some (op, ts) =>
      let (e, ts) ← arithmetic fuel 0 ts
      let ((ops, rest), ts) ← comparisonTail fuel ts
      return ((op :: ops, e :: rest), ts)

def arithmetic : (fuel : Nat) → (level : Nat) → List Token → Except Stop (Expr × List Token)
  | 0, _, ts => .error ⟨ts, none⟩
  | fuel + 1, level, ts => do
    match levels[level]? with
    | none => factor fuel ts
    | some ops =>
      let (first, ts) ← arithmetic fuel (level + 1) ts
      leftTail fuel level ops first ts

/-- Further operands of one level, grouped to the left. -/
def leftTail : (fuel : Nat) → (level : Nat) → List (String × BinaryOp) → Expr → List Token →
    Except Stop (Expr × List Token)
  | 0, _, _, _, ts => .error ⟨ts, none⟩
  | fuel + 1, level, ops, acc, ts => do
    match ts with
    | ⟨.mark m, _, _⟩ :: rest =>
      match ops.lookup m with
      | none => return (acc, ts)
      | some op =>
        let (r, ts) ← arithmetic fuel (level + 1) rest
        leftTail fuel level ops (.binary op acc r) ts
    | _ => return (acc, ts)

def factor : (fuel : Nat) → List Token → Except Stop (Expr × List Token)
  | 0, ts => .error ⟨ts, none⟩
  | fuel + 1, ts => do
    if isMark "-" ts then
      let (e, ts) ← factor fuel ts.tail
      return (.unary .negate e, ts)
    else if isMark "+" ts then
      let (e, ts) ← factor fuel ts.tail
      return (.unary .keep e, ts)
    else if isMark "~" ts then
      let (e, ts) ← factor fuel ts.tail
      return (.unary .invert e, ts)
    else
      let (base, ts) ← atom fuel ts
      let (base, ts) ← trailers fuel base ts
      if isMark "**" ts then
        let (power, ts) ← factor fuel ts.tail
        return (.binary .pow base power, ts)
      else return (base, ts)

def trailers : (fuel : Nat) → Expr → List Token → Except Stop (Expr × List Token)
  | 0, _, ts => .error ⟨ts, none⟩
  | fuel + 1, e, ts => do
    if isMark "." ts then
      match ts.tail with
      | ⟨.name n, line, level⟩ :: rest =>
        if keywords.contains n then throw ⟨⟨.name n, line, level⟩ :: rest, none⟩
        else trailers fuel (.member e n) rest
      | ts => throw ⟨ts, none⟩
    else if isMark "[" ts then
      let (index, ts) ← subscripts fuel ts.tail
      let ts ← expectMark "]" ts
      trailers fuel (.subscript e index) ts
    else if isMark "(" ts then
      let (args, ts) ← arguments fuel ts.tail
      let ts ← expectMark ")" ts
      trailers fuel (.call e args.positional args.keywords) ts
    else return (e, ts)

def arguments : (fuel : Nat) → List Token → Except Stop (Arguments × List Token)
  | 0, ts => .error ⟨ts, none⟩
  | fuel + 1, ts => do
    if isMark ")" ts then return (⟨[], []⟩, ts)
    else
      let (add, ts) ← argument fuel ts
      if isMark "," ts then
        let (more, ts) ← arguments fuel ts.tail
        return (⟨add.positional ++ more.positional, add.keywords ++ more.keywords⟩, ts)
      else return (add, ts)

def argument : (fuel : Nat) → List Token → Except Stop (Arguments × List Token)
  | 0, ts => .error ⟨ts, none⟩
  | fuel + 1, ts => do
    match ts with
    | ⟨.name n, _, _⟩ :: ⟨.mark "=", _, _⟩ :: rest =>
      if constants.contains n then throw ⟨ts, some (.assignedKeyword n)⟩
      let (_, ts) ← expression fuel rest
      return (⟨[], [n]⟩, ts)
    | ts =>
      let (e, after) ← expression fuel ts
      if isMark "=" after then throw ⟨ts, some .assignedArgument⟩
      return (⟨[e], []⟩, after)

def subscripts : (fuel : Nat) → List Token → Except Stop (Expr × List Token)
  | 0, ts => .error ⟨ts, none⟩
  | fuel + 1, ts => do
    let (first, ts) ← oneSubscript fuel ts
    if isMark "," ts then
      let (more, ts) ← moreSubscripts fuel ts.tail
      return (.tuple (first :: more), ts)
    else return (first, ts)

def moreSubscripts : (fuel : Nat) → List Token → Except Stop (List Expr × List Token)
  | 0, ts => .error ⟨ts, none⟩
  | fuel + 1, ts => do
    if isMark "]" ts then return ([], ts)
    else
      let (e, ts) ← oneSubscript fuel ts
      if isMark "," ts then
        let (more, ts) ← moreSubscripts fuel ts.tail
        return (e :: more, ts)
      else return ([e], ts)

def oneSubscript : (fuel : Nat) → List Token → Except Stop (Expr × List Token)
  | 0, ts => .error ⟨ts, none⟩
  | fuel + 1, ts => do
    let (start, ts) ← if isMark ":" ts then pure (none, ts) else do
      let (e, ts) ← element fuel ts
      pure (some e, ts)
    match start, isMark ":" ts with
    | some e, false => return (e, ts)
    | start, _ =>
      let ts ← expectMark ":" ts
      let (stop, ts) ← bound fuel ts
      if isMark ":" ts then
        let (step, ts) ← bound fuel ts.tail
        return (.part start stop step, ts)
      else return (.part start stop none, ts)

/-- A bound, absent before a colon, a comma or the closing bracket. -/
def bound : (fuel : Nat) → List Token → Except Stop (Option Expr × List Token)
  | 0, ts => .error ⟨ts, none⟩
  | fuel + 1, ts => do
    if isMark ":" ts || isMark "]" ts || isMark "," ts then return (none, ts)
    else
      let (e, ts) ← expression fuel ts
      return (some e, ts)

/-- An expression inside brackets, where a lone equals sign with an operand behind it is a likely
slip. -/
def element : (fuel : Nat) → List Token → Except Stop (Expr × List Token)
  | 0, ts => .error ⟨ts, none⟩
  | fuel + 1, ts => do
    let (e, after) ← expression fuel ts
    if isMark "=" after then
      match slip? e with
      | none => throw ⟨after, none⟩
      | some reason =>
        let (_, behind) ← arithmetic fuel 0 after.tail
        if isMark "=" behind || isMark ":=" behind then throw ⟨after, none⟩
        else if isFinish behind then throw ⟨behind, none⟩
        else throw ⟨after, some reason⟩
    else return (e, after)

def elements : (fuel : Nat) → (closing : String) → List Token →
    Except Stop ((List Expr × Bool) × List Token)
  | 0, _, ts => .error ⟨ts, none⟩
  | fuel + 1, closing, ts => do
    if isMark closing ts then return (([], false), ts)
    else
      let (e, ts) ← element fuel ts
      if isMark "," ts then
        let ((more, _), ts) ← elements fuel closing ts.tail
        return ((e :: more, true), ts)
      else return (([e], false), ts)

/-- A key of a dictionary. Behind an entry a key is found even where only its beginning can be
read, and then the colon is what is missing. -/
def dictKey : (fuel : Nat) → (isFirst : Bool) → List Token → Except Stop (Expr × List Token)
  | 0, _, ts => .error ⟨ts, none⟩
  | fuel + 1, isFirst, ts =>
    match expression fuel ts with
    | .ok (k, after) =>
      if isMark ":" after then .ok (k, after.tail)
      else if isFirst || isFinish after then .error ⟨after, none⟩
      else .error ⟨ts, some .missingKeyColon⟩
    | .error stop =>
      let read := ts.take (ts.length - stop.rest.length)
      let isBare := stop.reason.isNone || stop.reason = some .missingElse
      let isWhole := (sinceBoundary read.reverse).length = read.length
      if !isFirst && isBare && !isFinish stop.rest && isWhole &&
          (atom fuel (ts.dropWhile isSign)).isOk then
        .error ⟨ts, some .missingKeyColon⟩
      else .error stop

def dictEntries : (fuel : Nat) → (isFirst : Bool) → List Token →
    Except Stop ((List Expr × List Expr) × List Token)
  | 0, _, ts => .error ⟨ts, none⟩
  | fuel + 1, isFirst, ts => do
    if isMark "\x7d" ts then return (([], []), ts)
    else
      let (k, after) ← dictKey fuel isFirst ts
      if isMark "\x7d" after || isMark "," after then throw ⟨ts, some .missingKeyValue⟩
      if isMark "*" after then
        let _ ← arithmetic fuel 0 after.tail
        throw ⟨after, some .starredValue⟩
      let (v, ts) ← expression fuel after
      if isMark "," ts then
        let ((ks, vs), ts) ← dictEntries fuel false ts.tail
        return ((k :: ks, v :: vs), ts)
      else return (([k], [v]), ts)

def atom : (fuel : Nat) → List Token → Except Stop (Expr × List Token)
  | 0, ts => .error ⟨ts, none⟩
  | fuel + 1, ts => do
    match ts with
    | ⟨.number v, _, _⟩ :: rest => return (.constant v, rest)
    | ⟨.text v, _, _⟩ :: rest =>
      let (v, rest) ← joinTexts v rest
      return (.constant v, rest)
    | ⟨.name n, _, _⟩ :: rest =>
      if n == "None" then return (.constant .none, rest)
      else if n == "True" then return (.constant (.bool true), rest)
      else if n == "False" then return (.constant (.bool false), rest)
      else if keywords.contains n then throw ⟨ts, none⟩
      else return (.name n, rest)
    | ⟨.mark m, _, _⟩ :: rest =>
      if m == "..." then return (.constant .ellipsis, rest)
      else if m == "(" then
        let ((items, comma), ts) ← elements fuel ")" rest
        let ts ← expectMark ")" ts
        match items, comma with
        -- brackets around one expression only group; a comma makes a tuple
        | [e], false => return (e, ts)
        | items, _ => return (.tuple items, ts)
      else if m == "[" then
        let ((items, _), ts) ← elements fuel "]" rest
        let ts ← expectMark "]" ts
        return (.list items, ts)
      else if m == "\x7b" then
        -- the mark behind the first element tells a dictionary from a set
        if isMark "\x7d" rest then return (.dict [] [], rest.tail)
        else
          let (first, after) ← element fuel rest
          if isMark ":" after then
            let ((ks, vs), ts) ← dictEntries fuel true rest
            let ts ← expectMark "\x7d" ts
            return (.dict ks vs, ts)
          else if isMark "," after then
            let ((more, _), ts) ← elements fuel "\x7d" after.tail
            let ts ← expectMark "\x7d" ts
            return (.set (first :: more), ts)
          else
            let ts ← expectMark "\x7d" after
            return (.set [first], ts)
      else throw ⟨ts, none⟩
    | ts => throw ⟨ts, none⟩

end

/-- Expressions with commas between them: one alone is itself, several are a tuple. -/
def expressions (fuel : Nat) (ts : List Token) : Except Stop (Expr × List Token) := do
  let (first, ts) ← expression fuel ts
  if isMark "," ts then
    let ((more, _), ts) ← go fuel ts.tail
    return (.tuple (first :: more), ts)
  else return (first, ts)
where
  go : Nat → List Token → Except Stop ((List Expr × Bool) × List Token)
    | 0, ts => .error ⟨ts, none⟩
    | fuel + 1, ts =>
      match ts with
      | ⟨.lineEnd, _, _⟩ :: _ | ⟨.finish, _, _⟩ :: _ => .ok (([], true), ts)
      | ts => do
        let (e, ts) ← expression fuel ts
        if isMark "," ts then
          let ((more, _), ts) ← go fuel ts.tail
          return ((e :: more, true), ts)
        else return (([e], true), ts)

def atEnd : List Token → Except Stop Unit
  | ⟨.finish, _, _⟩ :: _ => .ok ()
  | ⟨.lineEnd, _, _⟩ :: ts => atEnd ts
  | [] => .ok ()
  | ts => .error ⟨ts, none⟩

def fuelFor (ts : List Token) : Nat := 24 * ts.length + 24

def softKeywords : List String := ["_", "case", "match"]

def formerStatements : List String := ["print", "exec"]

def startsWithName? : List Token → Option String
  | ⟨.name n, _, _⟩ :: _ => if keywords.contains n then none else some n
  | _ => none

/-- Whether the tokens end with an operand that another expression behind it would be read after:
not one that starts like a prefixed text or with a word that is sometimes a keyword. -/
def endsOperand (consumed rest : List Token) : Bool :=
  let current := sinceBoundary consumed.reverse
  let isOperand := match consumed.reverse with
    | ⟨.number _, _, _⟩ :: _ | ⟨.text _, _, _⟩ :: _ => true
    | ⟨.name n, _, _⟩ :: _ => !keywords.contains n || constants.contains n
    | ⟨.mark m, _, _⟩ :: _ => Token.isClosing m || m == "..."
    | _ => false
  let isWord := match startsWithName? current, (current ++ rest.take 1)[1]? with
    | some _, some ⟨.text _, _, _⟩ => true
    | some n, _ => softKeywords.contains n
    | none, _ => false
  isOperand && !isWord

def isFormerStatement : List Token → Bool
  | [⟨.name n, _, _⟩] => formerStatements.contains n
  | _ => false

/-- Whether, at the place where reading stopped inside brackets, a comma is likely to be missing:
an operand ends there and an expression begins. The line is the one on which the operand's own
expression begins. -/
def lacksComma? (consumed rest : List Token) : Option Nat :=
  let current := sinceBoundary consumed.reverse
  if !endsOperand consumed rest || isFormerStatement current then none
  else match expression (fuelFor rest) rest with
    | .ok (_, after) =>
      match (rest.take (rest.length - after.length)).getLast?, current with
      | some t, first :: _ => if t.level ≠ 0 then some first.line else none
      | _, _ => none
    | .error _ => none

/-- The first name of a former statement at the beginning of an expression that is followed by
another expression and not by an opening bracket. -/
def formerStatement? (before : List Token) : List Token → (count : Nat) → Option (String × Nat)
  | [], _ | _, 0 => none
  | t :: ts, count + 1 =>
    let found := match t.kind with
      | .name n =>
        if formerStatements.contains n && (before.head?.elim true isBoundary) && !isMark "(" ts &&
            (expression (fuelFor ts) ts).isOk then
          some (n, t.line)
        else none
      | _ => none
    match found with
    | some f => some f
    | none => formerStatement? (t :: before) ts count

/-- How far the tokens are looked at: up to the token after the expression that begins behind an
operand, or to where reading it stops, and otherwise to the first token. -/
def lastSeen (consumed rest : List Token) : Option TokenKind :=
  match rest with
  | ⟨.finish, _, _⟩ :: _ => some .finish
  | _ =>
    if !endsOperand consumed rest then rest.head?.map (·.kind)
    else match expression (fuelFor rest) rest with
      | .ok (_, t :: _) => some t.kind
      | .error ⟨t :: _, _⟩ => some t.kind
      | _ => none

end Parser

namespace Expr

/-- Reads a whole text as an expression; `source` names the text in failures. -/
def parse (source text : String) : Except Fault Expr :=
  if text.contains (Char.ofNat 0) then
    .error (.raised "ValueError" (some "source code string cannot contain null bytes"))
  else
    let ⟨ts, unclosed, fault⟩ := Token.ofText text
    let failed {α : Type} (reason : SyntaxReason) (line : Nat) : Except Fault α :=
      .error (.notAnExpression reason source line)
    if text = "" then failed .invalid 0
    else
      let result : Except Parser.Stop Expr := do
        let (e, rest) ← Parser.expressions (Parser.fuelFor ts) ts
        Parser.atEnd rest
        return e
      match result with
      | .ok e => .ok e
      | .error ⟨rest, reason⟩ =>
        let line := (rest.head?.map (·.line)).getD 1
        match rest, fault with
        -- What is wrong with the tokens goes before what the parser misses.
        | ⟨.indent, _, _⟩ :: _, _ => failed .indented line
        | _, some ⟨r, line⟩ => failed r line
        | ⟨.broken r, _, _⟩ :: after, none =>
          match Parser.isFinish after, unclosed with
          | true, some (c, openLine) => failed (.neverClosed c) openLine
          | _, _ => failed r line
        | _, none =>
          match reason with
          | some r => failed r line
          | none =>
            let consumed := ts.take (ts.length - rest.length)
            match Parser.lastSeen consumed rest, unclosed with
            | some (.broken r), _ => failed r line
            | some .finish, some (c, openLine) => failed (.neverClosed c) openLine
            | _, some (c, openLine) =>
              -- a bracket is blamed that has stayed open since an earlier line
              if openLine < line then failed (.neverClosed c) openLine
              else general failed ts consumed rest line
            | _, none => general failed ts consumed rest line
where
  /-- The reason that is left where nothing else was found. -/
  general (failed : SyntaxReason → Nat → Except Fault Expr) (ts consumed rest : List Token)
      (line : Nat) : Except Fault Expr :=
    match Parser.formerStatement? [] ts consumed.length, Parser.lacksComma? consumed rest with
    | some (word, line), _ => failed (.missingParentheses word) line
    | none, some line => failed .missingComma line
    | none, none => failed .invalid line

end Expr

end VariableExplorer
