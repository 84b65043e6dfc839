/-!
White space: separators, and the controls that move the print position.
-/

namespace VariableExplorer.Text

/-- Tab to carriage return, the four information separators, next line, and every space,
line and paragraph separator. -/
def isBlank (c : Char) : Bool :=
  let n := c.toNat
  (9 ≤ n && n ≤ 13) || (28 ≤ n && n ≤ 32) || n = 0x85 || n = 0xa0 || n = 0x1680 ||
    (0x2000 ≤ n && n ≤ 0x200a) || n = 0x2028 || n = 0x2029 || n = 0x202f || n = 0x205f || n = 0x3000

def strip (s : String) : String :=
  String.ofList (((s.toList.dropWhile isBlank).reverse.dropWhile isBlank).reverse)

def words (s : String) : List String :=
  let step : List Char × List String → Char → List Char × List String := fun (word, done) c ↦
    if isBlank c then ([], if word.isEmpty then done else String.ofList word.reverse :: done)
    else (c :: word, done)
  let (word, done) := s.toList.foldl step ([], [])
  ((if word.isEmpty then done else String.ofList word.reverse :: done)).reverse

end VariableExplorer.Text
