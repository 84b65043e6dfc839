import VariableExplorer.Text.Quoted
import VariableExplorer.Value.NativeClass

/-!
The ways in which evaluating an expression or inspecting a value can fail. Each cause fixes the
class under which the failure is known and the text it is reported with.
-/

namespace VariableExplorer

inductive SyntaxReason
  | invalid
  | missingComma
  | neverClosed (bracket : Char)
  | unmatched (bracket : Char)
  | mismatched (closing opening : Char)
  | unterminatedString (line : Nat)
  | unterminatedTripleString (line : Nat)
  | leadingZeros
  | badLiteral (base : String)
  | badDigit (digit : Char) (base : String)
  | badCharacter (c : Char)
  | hiddenCharacter (c : Char)
  | afterContinuation
  | unexpectedEnd
  | bytesBeyondAscii
  | mixedLiterals
  | comparison
  | assignment (target : String)
  | tooManyBrackets
  | mismatchedAcross (closing opening : Char) (line : Nat)
  | missingElse
  | indented
  | missingKeyColon
  | missingKeyValue
  | starredValue
  | missingParentheses (name : String)
  /-- An argument that is assigned to what cannot be the name of a parameter. -/
  | assignedArgument
  | assignedKeyword (name : String)
  /-- An escape that stands for nothing, from one position up to another. -/
  | badEscape (start stop : Nat) (reason : String)
  | badByteEscape (position : Nat)
  deriving Repr, DecidableEq

def codePointText (c : Char) : String :=
  let digits := (Nat.toDigits 16 c.toNat).map Char.toUpper
  String.ofList (List.replicate (4 - digits.length) '0' ++ digits)

def SyntaxReason.text : SyntaxReason → String
  | invalid => "invalid syntax"
  | missingComma => "invalid syntax. Perhaps you forgot a comma?"
  | neverClosed c => s!"'{c}' was never closed"
  | unmatched c => s!"unmatched '{c}'"
  | mismatched closing opening =>
    s!"closing parenthesis '{closing}' does not match opening parenthesis '{opening}'"
  | unterminatedString line => s!"unterminated string literal (detected at line {line})"
  | unterminatedTripleString line =>
    s!"unterminated triple-quoted string literal (detected at line {line})"
  | leadingZeros =>
    "leading zeros in decimal integer literals are not permitted; " ++
      "use an 0o prefix for octal integers"
  | badLiteral base => s!"invalid {base} literal"
  | badDigit digit base => s!"invalid digit '{digit}' in {base} literal"
  | badCharacter c => s!"invalid character '{c}' (U+{codePointText c})"
  | hiddenCharacter c => s!"invalid non-printable character U+{codePointText c}"
  | afterContinuation => "unexpected character after line continuation character"
  | unexpectedEnd => "unexpected EOF while parsing"
  | bytesBeyondAscii => "bytes can only contain ASCII literal characters"
  | mixedLiterals => "cannot mix bytes and nonbytes literals"
  | comparison => "invalid syntax. Maybe you meant '==' or ':=' instead of '='?"
  | assignment target =>
    s!"cannot assign to {target} here. Maybe you meant '==' instead of '='?"
  | tooManyBrackets => "too many nested parentheses"
  | mismatchedAcross closing opening openLine =>
    s!"closing parenthesis '{closing}' does not match opening parenthesis '{opening}' on line " ++
      toString openLine
  | missingElse => "expected 'else' after 'if' expression"
  | indented => "unexpected indent"
  | missingKeyColon => "':' expected after dictionary key"
  | missingKeyValue => "expression expected after dictionary key and ':'"
  | starredValue => "cannot use a starred expression in a dictionary value"
  | missingParentheses name =>
    s!"Missing parentheses in call to '{name}'. Did you mean {name}(...)?"
  | assignedArgument => "expression cannot contain assignment, perhaps you meant \"==\"?"
  | assignedKeyword name => s!"cannot assign to {name}"
  | badEscape start stop reason =>
    s!"(unicode error) 'unicodeescape' codec can't decode bytes in position {start}-{stop - 1}: " ++
      reason
  | badByteEscape position => s!"(value error) invalid \\x escape at position {position}"

inductive Fault
  | undefinedName (name : String)
  | noAttribute (owner name : String)
  | classNoAttribute (owner name : String)
  | moduleNoAttribute (owner name : String)
  | missingKey (shown : String)
  | outOfRange (what : String)
  | indexTooLarge
  | badIndex (what given : String)
  | badTextIndex (given : String)
  | notSubscriptable (owner : String)
  | classNotSubscriptable (owner : String)
  | notCallable (owner : String)
  | notIterable (owner : String)
  | noLength (owner : String)
  | unhashable (owner : String)
  | badAttributeName (given : String)
  | notAnInteger (given : String)
  | notText (operation given : String)
  | negativeLength
  | noVariables
  | badOperands (operator left right : String)
  | badOperand (operator given : String)
  | badComparison (operator left right : String)
  | notConcatenable (owner given : String)
  | notBytesConcatenable (given owner : String)
  | badRepeat (given : String)
  | divisionByZero (what : String)
  | argumentCount (shown : String)
  | emptySequence
  | notAnEnvironment (shown : String)
  | notADictionary (isMapping : Bool)
  | badMember (shown : String)
  | notAnExpression (reason : SyntaxReason) (source : String) (line : Nat)
  | malformedLiteral (node : String)
  | tooDeep (during : String)
  | tooManyDigits
  | tooManyDigitsRead (count : Nat)
  | notAMapping (given : String)
  /-- What a value's own special method raises. -/
  | raised (kind : String) (text : Option String)
  deriving Repr, DecidableEq

namespace Fault

def kind : Fault → String
  | undefinedName _ => "NameError"
  | noAttribute _ _ | classNoAttribute _ _ | moduleNoAttribute _ _ => "AttributeError"
  | missingKey _ => "KeyError"
  | outOfRange _ | indexTooLarge => "IndexError"
  | badIndex _ _ | badTextIndex _ | notSubscriptable _ | classNotSubscriptable _ | notCallable _
  | notIterable _ | noLength _ | unhashable _ | badAttributeName _ | notAnInteger _ | notText _ _
  | noVariables | badOperands _ _ _ | badOperand _ _ | badComparison _ _ _ | notConcatenable _ _
  | notBytesConcatenable _ _ | badRepeat _ | argumentCount _ | notAnEnvironment _
  | notADictionary _ | notAMapping _ => "TypeError"
  | negativeLength | emptySequence | malformedLiteral _ | tooManyDigits
  | tooManyDigitsRead _ => "ValueError"
  | divisionByZero _ => "ZeroDivisionError"
  | notAnExpression .indented _ _ => "IndentationError"
  | badMember _ | notAnExpression _ _ _ => "SyntaxError"
  | tooDeep _ => "RecursionError"
  | raised kind _ => kind

def message : Fault → String
  | undefinedName name => s!"name '{name}' is not defined"
  | noAttribute owner name => s!"'{owner}' object has no attribute '{name}'"
  | classNoAttribute owner name => s!"type object '{owner}' has no attribute '{name}'"
  | moduleNoAttribute owner name => s!"module '{owner}' has no attribute '{name}'"
  | missingKey shown => shown
  | outOfRange what => s!"{what} out of range"
  | indexTooLarge => "cannot fit 'int' into an index-sized integer"
  | badIndex what given => s!"{what} indices must be integers or slices, not {given}"
  | badTextIndex given => s!"string indices must be integers, not '{given}'"
  | notSubscriptable owner => s!"'{owner}' object is not subscriptable"
  | classNotSubscriptable owner => s!"type '{owner}' is not subscriptable"
  | notCallable owner => s!"'{owner}' object is not callable"
  | notIterable owner => s!"'{owner}' object is not iterable"
  | noLength owner => s!"object of type '{owner}' has no len()"
  | unhashable owner => s!"unhashable type: '{owner}'"
  | badAttributeName given => s!"attribute name must be string, not '{given}'"
  | notAnInteger given => s!"'{given}' object cannot be interpreted as an integer"
  | notText operation given => s!"{operation} returned non-string (type {given})"
  | negativeLength => "__len__() should return >= 0"
  | noVariables => "vars() argument must have __dict__ attribute"
  | badOperands operator left right =>
    s!"unsupported operand type(s) for {operator}: '{left}' and '{right}'"
  | badOperand operator given => s!"bad operand type for unary {operator}: '{given}'"
  | badComparison operator left right =>
    s!"'{operator}' not supported between instances of '{left}' and '{right}'"
  | notConcatenable owner given => s!"can only concatenate {owner} (not \"{given}\") to {owner}"
  | notBytesConcatenable given owner => s!"can't concat {given} to {owner}"
  | badRepeat given => s!"can't multiply sequence by non-int of type '{given}'"
  | divisionByZero what => what
  | argumentCount shown => shown
  | emptySequence => "max() arg is an empty sequence"
  | notAnEnvironment shown => s!"{shown} is not an environment"
  | notADictionary true => "globals must be a real dict; try eval(code, \x7b\x7d, mapping)"
  | notADictionary false => "globals must be a dict"
  | badMember shown => s!"bad member: {shown}"
  | notAnExpression reason source line => s!"{reason.text} ({source}, line {line})"
  | malformedLiteral node => s!"malformed node or string on line 1: <ast.{node} object at 0x0>"
  | tooDeep during => s!"maximum recursion depth exceeded{during}"
  | tooManyDigits =>
    "Exceeds the limit (4300 digits) for integer string conversion; " ++
      "use sys.set_int_max_str_digits() to increase the limit"
  | tooManyDigitsRead count =>
    s!"Exceeds the limit (4300 digits) for integer string conversion: value has {count} digits; " ++
      "use sys.set_int_max_str_digits() to increase the limit"
  | notAMapping given => s!"'{given}' object is not a mapping"
  | raised kind text =>
    match text with
    | none => ""
    | some t => if kind = "KeyError" then Text.Quoted.quote t else t

/-- The class and the text, as in a report of the failure. -/
def report (f : Fault) : String := s!"{f.kind}: {f.message}"

def lineage (f : Fault) : List String :=
  let k := f.kind
  match (NativeClass.exceptionChain 10 k) with
  | [_] => if k = "BaseException" then [k] else [k, "Exception", "BaseException"]
  | chain => chain

def isA (f : Fault) (kind : String) : Bool := f.lineage.contains kind

/-- Whether handlers of ordinary failures stop it; requests to stop the program pass through. -/
def isOrdinary (f : Fault) : Bool := f.isA "Exception"

end Fault

end VariableExplorer
