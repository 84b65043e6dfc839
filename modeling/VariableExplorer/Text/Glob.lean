/-!
File name patterns: a star stands for any text, a question mark for any character, and a set in
brackets for one of its characters, or for one of the others after an exclamation mark.
-/

namespace VariableExplorer.Text.Glob

structure CharSet where
  negated : Bool
  ranges : List (Char × Char)
  deriving Repr, DecidableEq

inductive Item
  | star
  | one
  | char (c : Char)
  | set (s : CharSet)
  deriving Repr, DecidableEq

def CharSet.contains (s : CharSet) (c : Char) : Bool :=
  s.ranges.any (fun (lo, hi) ↦ lo ≤ c && c ≤ hi) != s.negated

/-- The content of a set and what follows its closing bracket. A bracket that stands first in the
set belongs to it. -/
def closing? (cs : List Char) : Option (List Char × List Char) :=
  let (start, rest) := match cs with
    | '!' :: ']' :: r => (['!', ']'], r)
    | '!' :: r => (['!'], r)
    | ']' :: r => ([']'], r)
    | r => ([], r)
  match rest.dropWhile (· ≠ ']') with
  | ']' :: after => some (start ++ rest.takeWhile (· ≠ ']'), after)
  | _ => none

/-- Cuts the content of a set at the hyphens that make a range. One that stands first, or closely
after another range, makes none; `skip` characters cannot be such a hyphen. -/
def chunks (skip : Nat) : List Char → List (List Char)
  | [] => [[]]
  | c :: cs =>
    if skip = 0 && c = '-' then [] :: chunks 2 cs
    else match chunks (skip - 1) cs with
      | [] => [[c]]
      | chunk :: more => (c :: chunk) :: more

/-- A hyphen at the end makes no range. -/
def closeLast : List (List Char) → List (List Char)
  | [] => []
  | [chunk, []] => [chunk ++ ['-']]
  | chunk :: more => chunk :: closeLast more

/-- Joins a chunk to those after it where the range between them would be empty. -/
def dropEmpty (chunk : List Char) (more : List (List Char)) : List (List Char) :=
  match more with
  | next :: rest =>
    match chunk.getLast?, next.head? with
    | some hi, some lo => if lo < hi then (chunk.dropLast ++ next.drop 1) :: rest else chunk :: more
    | _, _ => chunk :: more
  | [] => [chunk]

/-- The ranges of chunks: between two of them, and every other character by itself. -/
def rangesOf : (open_ : Option Char) → List (List Char) → List (Char × Char)
  | _, [] => []
  | lo, chunk :: more =>
    let (ranges, single) := match lo, chunk with
      | some lo, c :: cs => ([(lo, c)], cs)
      | _, cs => ([], cs)
    match more with
    | [] => ranges ++ single.map fun c ↦ (c, c)
    | _ => ranges ++ single.dropLast.map (fun c ↦ (c, c)) ++ rangesOf chunk.getLast? more

def ofSet (content : List Char) : Item :=
  let cut := if content.contains '-' then
      let skip := if content.head? = some '!' then 2 else 1
      (closeLast (chunks skip content)).foldr dropEmpty []
    else [content]
  match cut with
  | ['!'] :: [] => .one
  | ('!' :: chunk) :: more => .set ⟨true, rangesOf none (chunk :: more)⟩
  | cut => .set ⟨false, rangesOf none cut⟩

/-- Reads a pattern; a bracket that is never closed stands for itself. -/
def items : (fuel : Nat) → List Char → List Item
  | 0, _ => []
  | _ + 1, [] => []
  | fuel + 1, '*' :: cs => .star :: items fuel cs
  | fuel + 1, '?' :: cs => .one :: items fuel cs
  | fuel + 1, '[' :: cs =>
    match closing? cs with
    | some (content, after) => ofSet content :: items fuel after
    | none => .char '[' :: items fuel cs
  | fuel + 1, c :: cs => .char c :: items fuel cs

def parse (pattern : String) : List Item := items (pattern.length + 1) pattern.toList

def matchItem (i : Item) (c : Char) : Bool :=
  match i with
  | .star | .one => true
  | .char d => c == d
  | .set s => s.contains c

/-- Whether items stand for the whole of a text: after a star the others stand for an end of it. -/
def matchList : List Item → List Char → Bool
  | [], cs => cs.isEmpty
  | .star :: is, cs => (List.range (cs.length + 1)).any fun k ↦ matchList is (cs.drop k)
  | _ :: _, [] => false
  | i :: is, c :: cs => matchItem i c && matchList is cs

end Text.Glob

namespace Text

def globMatches (pattern text : String) : Bool := Glob.matchList (Glob.parse pattern) text.toList

end VariableExplorer.Text
