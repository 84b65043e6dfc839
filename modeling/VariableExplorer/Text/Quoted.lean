import VariableExplorer.Text.Printable

/-!
Quoted literals: a text between quote marks in which every character that does not show itself
is written as an escape.
-/

namespace VariableExplorer.Text.Quoted

/-- The apostrophe, unless the text holds apostrophes and no quotation mark. -/
def markFor (hasApostrophe hasQuotation : Bool) : Char :=
  if hasApostrophe && !hasQuotation then '"' else '\''

def hexDigit (n : Nat) : Char :=
  if n < 10 then Char.ofNat (0x30 + n) else Char.ofNat (0x57 + n)

def hex : (width : Nat) → (n : Nat) → List Char
  | 0, _ => []
  | width + 1, n => hex width (n / 16) ++ [hexDigit (n % 16)]

/-- The shortest of the three escapes by number that fits the code point. -/
def escapeByNumber (n : Nat) : List Char :=
  if n < 0x100 then '\\' :: 'x' :: hex 2 n
  else if n < 0x10000 then '\\' :: 'u' :: hex 4 n
  else '\\' :: 'U' :: hex 8 n

def encodeChar (mark c : Char) : List Char :=
  if c = mark || c = '\\' then ['\\', c]
  else if c = '\t' then ['\\', 't']
  else if c = '\n' then ['\\', 'n']
  else if c = '\r' then ['\\', 'r']
  else if isPrintable c then [c]
  else escapeByNumber c.toNat

def quote (s : String) : String :=
  let mark := markFor (s.toList.contains '\'') (s.toList.contains '"')
  String.ofList (mark :: s.toList.flatMap (encodeChar mark) ++ [mark])

def encodeByte (mark : Char) (b : UInt8) : List Char :=
  if b.toNat < 0x80 then encodeChar mark (Char.ofNat b.toNat) else escapeByNumber b.toNat

def quoteBytes (bytes : List UInt8) : String :=
  let mark := markFor (bytes.contains 0x27) (bytes.contains 0x22)
  String.ofList ('b' :: mark :: bytes.flatMap (encodeByte mark) ++ [mark])

end VariableExplorer.Text.Quoted
