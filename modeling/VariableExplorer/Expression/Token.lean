import VariableExplorer.Text.IdentifierChar
import VariableExplorer.Decimal.Reading
import VariableExplorer.Value.Basic

/-!
The tokens of an expression. Blanks, comments and line breaks inside brackets separate tokens and
are dropped; each token knows its line and how many brackets are open after it.
-/

namespace VariableExplorer

inductive TokenKind
  | name (s : String)
  | number (v : Value)
  | text (v : Value)
  | mark (s : String)
  | lineEnd
  | indent
  | finish
  /-- Where the text cannot be read on. -/
  | broken (reason : SyntaxReason)
  deriving Repr, Inhabited

structure Token where
  kind : TokenKind
  line : Nat
  level : Nat
  deriving Repr, Inhabited

structure TokenFault where
  reason : SyntaxReason
  line : Nat
  deriving Repr

/-- The tokens of a text, the bracket that is still open at its end, and what is wrong with the
text itself. -/
structure Tokens where
  tokens : List Token
  unclosed : Option (Char × Nat)
  fault : Option TokenFault

namespace Token

/-! ### Numbers -/

def digitOf (c : Char) : Nat :=
  let n := c.toNat
  if c.isDigit then n - 0x30 else if c.isUpper then n - 0x37 else n - 0x57

def isDigitOf (base : Nat) (c : Char) : Bool := c.isAlphanum && digitOf c < base

/-- A run of digits of a base, with single underscores between them. -/
structure DigitRun where
  digits : List Char
  broken : Bool
  rest : List Char

def DigitRun.extend (base : Nat) (acc : List Char) : List Char → DigitRun
  | '_' :: c :: cs =>
    if isDigitOf base c then DigitRun.extend base (c :: acc) cs else ⟨acc.reverse, true, c :: cs⟩
  | ['_'] => ⟨acc.reverse, true, []⟩
  | c :: cs =>
    if isDigitOf base c then DigitRun.extend base (c :: acc) cs else ⟨acc.reverse, false, c :: cs⟩
  | [] => ⟨acc.reverse, false, []⟩

def DigitRun.read (base : Nat) : List Char → DigitRun
  | c :: cs => if isDigitOf base c then DigitRun.extend base [c] cs else ⟨[], false, c :: cs⟩
  | [] => ⟨[], false, []⟩

def DigitRun.value (base : Nat) (ds : List Char) : Nat :=
  ds.foldl (fun n c ↦ base * n + digitOf c) 0

/-- Characters that a word may hold, as far as finding its end goes. -/
def isNameChar (c : Char) : Bool := c.isAlphanum || c = '_' || 0x80 ≤ c.toNat

def wordsAfterNumber : List String := ["and", "else", "for", "not", "or"]

def mayFollowNumber (rest : List Char) : Bool :=
  match rest with
  | [] => true
  | c :: _ =>
    if isNameChar c && c.toNat < 0x80 then
      ["if", "in", "is"].any (fun w ↦ w.toList.isPrefixOf rest) ||
        wordsAfterNumber.contains (String.ofList (rest.takeWhile isNameChar))
    else true

def readBased (base : Nat) (baseName : String) (cs : List Char) :
    Except SyntaxReason (Value × List Char) :=
  let body := match cs with
    | '_' :: rest => rest
    | rest => rest
  let run := DigitRun.read base body
  let next := run.rest.head?
  if run.digits.isEmpty || run.broken then
    match next with
    | some c => if c.isDigit then .error (.badDigit c baseName) else .error (.badLiteral baseName)
    | none => .error (.badLiteral baseName)
  else
    match next with
    | some c =>
      if c.isDigit then .error (.badDigit c baseName)
      else if mayFollowNumber run.rest then .ok (.int (DigitRun.value base run.digits), run.rest)
      else .error (.badLiteral baseName)
    | none => .ok (.int (DigitRun.value base run.digits), [])

/-- The exponent of a number, if its mark is followed by one; an underscore must not end it. -/
def readPower (cs : List Char) : Except SyntaxReason (Option Int × List Char) :=
  match cs with
  | c :: rest =>
    if c = 'e' || c = 'E' then
      let (negative, digits) := Decimal.takeSign rest
      let signed := digits.length < rest.length
      let run := DigitRun.read 10 digits
      if run.broken then .error (.badLiteral "decimal")
      else if run.digits.isEmpty then
        if signed then .error (.badLiteral "decimal") else .ok (none, cs)
      else
        let n : Int := DigitRun.value 10 run.digits
        .ok (some (if negative then -n else n), run.rest)
    else .ok (none, cs)
  | [] => .ok (none, [])

/-- Ends a number that has a part or an exponent, or is imaginary. -/
def finishFloat (digits : List Char) (places : Nat) (cs : List Char) :
    Except SyntaxReason (Value × List Char) := do
  let (power, rest) ← readPower cs
  let x := Decimal.nearest (DigitRun.value 10 digits) (power.getD 0 - (places : Int))
  match rest with
  | c :: after =>
    if c = 'j' || c = 'J' then
      if mayFollowNumber after then return (.complex 0.0 x, after)
      else throw (.badLiteral "imaginary")
    else if mayFollowNumber rest then return (.float x, rest)
    else throw (.badLiteral "decimal")
  | [] => return (.float x, [])

def readPart (whole : List Char) (cs : List Char) : Except SyntaxReason (Value × List Char) :=
  let run := DigitRun.read 10 cs
  if run.broken then .error (.badLiteral "decimal")
  else finishFloat (whole ++ run.digits) run.digits.length run.rest

def readNumber (cs : List Char) : Except SyntaxReason (Value × List Char) :=
  match cs with
  | '0' :: 'x' :: rest | '0' :: 'X' :: rest => readBased 16 "hexadecimal" rest
  | '0' :: 'o' :: rest | '0' :: 'O' :: rest => readBased 8 "octal" rest
  | '0' :: 'b' :: rest | '0' :: 'B' :: rest => readBased 2 "binary" rest
  | _ =>
    let run := DigitRun.read 10 cs
    if run.broken then .error (.badLiteral "decimal")
    else
      let value := DigitRun.value 10 run.digits
      match run.rest with
      | '.' :: rest => readPart run.digits rest
      | rest =>
        match rest with
        | c :: after =>
          if c = 'j' || c = 'J' then
            if mayFollowNumber after then .ok (.complex 0.0 (Decimal.nearest value 0), after)
            else .error (.badLiteral "imaginary")
          else if c = 'e' || c = 'E' then
            match readPower rest with
            | .error r => .error r
            | .ok (some _, _) => finishFloat run.digits 0 rest
            | .ok (none, _) => whole run value rest
          else whole run value rest
        | [] => whole run value []
where
  whole (run : DigitRun) (value : Nat) (rest : List Char) :
      Except SyntaxReason (Value × List Char) :=
    if run.digits.head? = some '0' && value ≠ 0 then .error .leadingZeros
    else if mayFollowNumber rest then .ok (.int value, rest)
    else .error (.badLiteral "decimal")

/-! ### Texts -/

structure TextStyle where
  raw : Bool := false
  binary : Bool := false

def textStyle? (letters : String) : Option TextStyle :=
  let l := letters.toLower
  if l = "" || l = "u" || l = "f" then some ⟨false, false⟩
  else if l = "r" || l = "fr" || l = "rf" then some ⟨true, false⟩
  else if l = "b" then some ⟨false, true⟩
  else if l = "br" || l = "rb" then some ⟨true, true⟩
  else none

def takeQuoted (mark : Char) (triple : Bool) :
    (acc : List Char) → List Char → Option (List Char × List Char)
  | _, [] => none
  | acc, '\\' :: c :: cs => takeQuoted mark triple (c :: '\\' :: acc) cs
  | acc, c :: cs =>
    if c = mark then
      if triple then
        match cs with
        | d :: e :: rest =>
          if d = mark && e = mark then some (acc.reverse, rest)
          else takeQuoted mark triple (c :: acc) cs
        | _ => none
      else some (acc.reverse, cs)
    else if c = '\n' && !triple then none
    else takeQuoted mark triple (c :: acc) cs

def octalRun : (limit : Nat) → List Char → Nat × List Char
  | 0, cs => (0, cs)
  | limit + 1, c :: cs =>
    if isDigitOf 8 c then
      let (v, rest) := octalRun limit cs
      (digitOf c * Nat.pow 8 (cs.length - rest.length) + v, rest)
    else (0, c :: cs)
  | _, [] => (0, [])

/-- What the letters of an escape by number are called, and how many digits follow each. -/
def escapeForms : List (Char × Nat × String) := [
  ('x', 2, "truncated \\xXX escape"), ('u', 4, "truncated \\uXXXX escape"),
  ('U', 8, "truncated \\UXXXXXXXX escape")]

/-- How much room a character takes where positions in a text are counted. -/
def countedWidth (c : Char) : Nat := if c.toNat < 0x80 then 1 else 10

/-- How much room a character takes together with a backslash that starts no escape. -/
def keptWidth (c : Char) : Nat := if c.toNat < 0x80 then 2 else 6 + countedWidth c

/-- The characters that the escapes of a text stand for, a backslash that starts none among them;
`position` is where it starts. -/
def unescape (binary : Bool) : (fuel position : Nat) → List Char → Except SyntaxReason (List Char)
  | 0, _, _ => .ok []
  | _, _, [] => .ok []
  | fuel + 1, position, '\\' :: c :: cs =>
    let simple (d : Char) := (unescape binary fuel (position + 2) cs).map (d :: ·)
    let byNumber (count : Nat) (truncated : String) : Except SyntaxReason (List Char) :=
      let digits := (cs.take count).takeWhile (isDigitOf 16)
      let stop := position + 2 + digits.length
      let n := DigitRun.value 16 digits
      if binary && digits.length < count then .error (.badByteEscape position)
      else if digits.length < count then .error (.badEscape position stop truncated)
      else if 0x10ffff < n then .error (.badEscape position stop "illegal Unicode character")
      else (unescape binary fuel stop (cs.drop count)).map (Char.ofNat n :: ·)
    let byName : Except SyntaxReason (List Char) :=
      let malformed (stop : Nat) :=
        SyntaxReason.badEscape position stop "malformed \\N character escape"
      match cs with
      | '\x7b' :: rest =>
        let name := rest.takeWhile (· ≠ '\x7d')
        let width := (name.map countedWidth).sum
        if name.length = rest.length || name.isEmpty then .error (malformed (position + 3 + width))
        else .error (.badEscape position (position + 4 + width) "unknown Unicode character name")
      | _ => .error (malformed (position + 2))
    let asItStands := (unescape binary fuel (position + keptWidth c) cs).map ('\\' :: c :: ·)
    -- a line break behind a backslash is left out
    if c = '\n' then unescape binary fuel (position + 2) cs
    else if c = '\\' || c = '\'' || c = '"' then simple c
    else if c = 'n' then simple '\n'
    else if c = 't' then simple '\t'
    else if c = 'r' then simple '\r'
    else if c = 'a' then simple '\x07'
    else if c = 'b' then simple '\x08'
    else if c = 'f' then simple '\x0c'
    else if c = 'v' then simple '\x0b'
    else if isDigitOf 8 c then
      let (n, rest) := octalRun 3 (c :: cs)
      (unescape binary fuel (position + 2 + (cs.length - rest.length)) rest).map (Char.ofNat n :: ·)
    else if c = 'N' && !binary then byName
    else match escapeForms.lookup c with
      | some (count, truncated) =>
        if c = 'x' || !binary then byNumber count truncated else asItStands
      | none => asItStands
  | fuel + 1, position, c :: cs =>
    (unescape binary fuel (position + countedWidth c) cs).map (c :: ·)

def textValue (style : TextStyle) (content : List Char) : Except SyntaxReason Value := do
  if style.binary && content.any (0x80 ≤ ·.toNat) then throw .bytesBeyondAscii
  let chars ← if style.raw then pure content
    else unescape style.binary (content.length + 1) 0 content
  return if style.binary then .bytes (chars.map fun c ↦ UInt8.ofNat c.toNat)
    else .str (String.ofList chars)

/-! ### Marks and names -/

def marks : List String := [
  "...", "**=", "//=", ">>=", "<<=", "**", "//", ">>", "<<", "<=", ">=", "==", "!=", "->", "+=",
  "-=", "*=", "/=", "%=", "&=", "|=", "^=", "@=", ":=", "(", ")", "[", "]", "\x7b", "\x7d", ",",
  ":", ".", ";", "=", "+", "-", "*", "/", "%", "@", "&", "|", "^", "~", "<", ">"]

def readMark? (cs : List Char) : Option (String × List Char) :=
  (marks.find? fun m ↦ m.toList.isPrefixOf cs).map fun m ↦ (m, cs.drop m.length)

def closingOf (c : Char) : Char := if c = '(' then ')' else if c = '[' then ']' else '}'

/-- The first character that keeps a run of name characters from being a name. -/
def badNameChar? : List Char → Option Char
  | [] => none
  | c :: cs => if Text.isIdentifierStart c then cs.find? (!Text.isIdentifierRest ·) else some c

def isOpening (m : String) : Bool := m = "(" || m = "[" || m = "\x7b"

def isClosing (m : String) : Bool := m = ")" || m = "]" || m = "\x7d"

structure Cursor where
  line : Nat := 1
  stack : List (Char × Nat) := []
  /-- Whether nothing but blanks precedes on this line. -/
  fresh : Bool := true
  acc : List Token := []

namespace Cursor

def push (k : Cursor) (kind : TokenKind) : Cursor :=
  ⟨k.line, k.stack, false, ⟨kind, k.line, k.stack.length⟩ :: k.acc⟩

def stop (k : Cursor) (reason : SyntaxReason) (line : Nat) : Tokens :=
  ⟨(k.push (.broken reason)).acc.reverse, none, some ⟨reason, line⟩⟩

/-- Ends the tokens where the text cannot be read on, which matters only to what needs more. -/
def halt (k : Cursor) (reason : SyntaxReason) : Tokens :=
  ⟨(k.push (.broken reason)).acc.reverse, none, none⟩

def finish (k : Cursor) (lastLine : Nat) : Tokens :=
  let k := if k.fresh || !k.stack.isEmpty then k else k.push .lineEnd
  ⟨(⟨.finish, lastLine, k.stack.length⟩ :: k.acc).reverse, k.stack.head?, none⟩

end Cursor

def lineBreaks (cs : List Char) : Nat := cs.count '\n'

def bracketLimit : Nat := 200

def isIndented (line : List Char) : Bool :=
  (line.head? = some ' ' || line.head? = some '\t') &&
    match line.dropWhile (fun c ↦ c = ' ' || c = '\t') with
    | [] => true
    | c :: _ => c ≠ '\n' && c ≠ '#'

/-- How many line breaks at the start of an unfinished text are escaped. -/
def continuedLines : List Char → Nat
  | '\\' :: '\n' :: cs => continuedLines cs + 1
  | '\\' :: _ :: cs => continuedLines cs
  | '\n' :: _ => 0
  | _ :: cs => continuedLines cs
  | [] => 0

/-- What reading one token comes to: the tokens end here, or there is more to read. -/
inductive Reading
  | last (ts : Tokens)
  | more (k : Cursor) (rest : List Char)

def readName (k : Cursor) (word after : List Char) : Reading :=
  match badNameChar? word with
  | some c =>
    .last (k.stop (if Text.isPrintable c then .badCharacter c else .hiddenCharacter c) k.line)
  | none => .more (k.push (.name (String.ofList word))) after

def readText (lastLine : Nat) (k : Cursor) (style : TextStyle) (mark : Char) (rest : List Char) :
    Reading :=
  let (triple, body) := match rest with
    | a :: b :: more => if a = mark && b = mark then (true, more) else (false, rest)
    | _ => (false, rest)
  match takeQuoted mark triple [] body with
  | none => .last <|
    if triple then k.stop (.unterminatedTripleString lastLine) k.line
    else k.stop (.unterminatedString (k.line + continuedLines body)) k.line
  | some (content, after) =>
    let k := k.push (match textValue style content with
      | .error r => .broken r
      | .ok v => .text v)
    .more { k with line := k.line + lineBreaks content } after

/-- A line break ends what stands outside of brackets. -/
def readLineBreak (k : Cursor) (rest : List Char) : Reading :=
  let acc := if k.fresh || !k.stack.isEmpty then k.acc else (k.push .lineEnd).acc
  let next : Cursor := ⟨k.line + 1, k.stack, k.fresh || k.stack.isEmpty, acc⟩
  .more (if next.stack.isEmpty && isIndented rest then next.push .indent else next) rest

/-- Reads a mark; brackets are opened and closed in pairs. -/
def readMark (k : Cursor) (c : Char) (cs : List Char) : Reading :=
  match readMark? cs with
  | none => .last (k.stop (.hiddenCharacter c) k.line)
  | some (m, after) =>
    if isOpening m then
      if bracketLimit ≤ k.stack.length then .last (k.stop .tooManyBrackets k.line)
      else .more (Cursor.push { k with stack := (c, k.line) :: k.stack } (.mark m)) after
    else if isClosing m then
      match k.stack with
      | [] => .last (k.stop (.unmatched c) k.line)
      | (opening, openLine) :: stack =>
        if closingOf opening = c then .more (Cursor.push { k with stack := stack } (.mark m)) after
        -- the line of the opening bracket is named if it is another one
        else if openLine = k.line then .last (k.stop (.mismatched c opening) k.line)
        else .last (k.stop (.mismatchedAcross c opening openLine) k.line)
    else .more (k.push (.mark m)) after

def readOne (lastLine : Nat) (k : Cursor) (c : Char) (rest : List Char) : Reading :=
  let cs := c :: rest
  if c = '\n' then readLineBreak k rest
  else if c = '\\' then
    match rest with
    | ['\n'] => .last (k.halt .unexpectedEnd)
    | '\n' :: after => .more { k with line := k.line + 1 } after
    | _ => .last (k.halt .afterContinuation)
  else if c = '#' then .more k (rest.dropWhile (· ≠ '\n'))
  else if c = ' ' || c = '\t' || c = '\x0c' then .more k rest
  else if c = '"' || c = '\'' then readText lastLine k {} c rest
  else if isNameChar c && !c.isDigit then
    let word := cs.takeWhile isNameChar
    let after := cs.dropWhile isNameChar
    -- a word right before a quote may be the style of a text
    match textStyle? (String.ofList word), after with
    | some style, q :: rest =>
      if q = '"' || q = '\'' then readText lastLine k style q rest else readName k word after
    | _, _ => readName k word after
  else if c.isDigit || (c = '.' && rest.head?.any Char.isDigit) then
    match (if c = '.' then readPart [] rest else readNumber cs) with
    | .error r => .last (k.stop r k.line)
    | .ok (v, after) => .more (k.push (.number v)) after
  else if c = '!' && rest.head? = some '=' then .more (k.push (.mark "!=")) (rest.drop 1)
  else if c = '$' || c = '?' || c = '!' || c = '\x60' then .more (k.push (.mark c.toString)) rest
  else readMark k c cs

def readAll (lastLine : Nat) : (fuel : Nat) → Cursor → List Char → Tokens
  | fuel + 1, k, c :: cs =>
    match readOne lastLine k c cs with
    | .last ts => ts
    | .more k rest => readAll lastLine fuel k rest
  | _, k, _ => k.finish lastLine

def lastLineOf (cs : List Char) : Nat :=
  1 + lineBreaks (if cs.getLast? = some '\n' then cs.dropLast else cs)

def ofText (s : String) : Tokens :=
  let cs := s.toList
  readAll (lastLineOf cs) (cs.length + 1) {} cs

end Token

end VariableExplorer
