import VariableExplorer.Suggestion.Provider
import VariableExplorer.Text.Blank

/-!
Listings for a terminal: the variables of a snapshot, one a line, and the members of a path.
-/

namespace VariableExplorer

namespace Listing

def padded (width : Nat) (text : String) : String :=
  text ++ String.ofList (List.replicate (width - text.length) ' ')

def marker : ItemKind → String
  | .function => "ƒ"
  | .data => " "

def row (width : Nat) (d : Descriptor) : String :=
  s!"{marker d.kind} {padded width d.name}  {d.summary}\n"

def allOption : String := "-a"

def overview (s : Snapshot) (options : String) : String :=
  let rows := if (Text.words options).contains allOption then s.entries else s.visible
  if rows.isEmpty then "(empty)\n"
  else
    let width := (rows.map (·.name.length)).foldl max 0
    String.join (rows.map (row width))

def noMembers : String := "(no members)"

def members (found : List Candidate) : String :=
  if found.isEmpty then noMembers ++ "\n"
  else String.join (found.map fun c ↦ c.displayName ++ "\n")

end Listing

end VariableExplorer
