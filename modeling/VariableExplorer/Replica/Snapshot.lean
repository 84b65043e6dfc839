import VariableExplorer.Session.Call

/-!
Snapshots: the variables of a session at one moment, each name once, in the order in which the
names first occurred in the answer that the snapshot was built from.
-/

namespace VariableExplorer

structure Snapshot where
  entries : List Descriptor := []
  deriving Repr, DecidableEq, Inhabited

namespace Snapshot

def names (s : Snapshot) : List String := s.entries.map (·.name)

def size (s : Snapshot) : Nat := s.entries.length

def find? (s : Snapshot) (name : String) : Option Descriptor :=
  s.entries.find? (·.name = name)

/-- Puts a descriptor in the place of the one of its name, or at the end. -/
def insertEntry (d : Descriptor) : List Descriptor → List Descriptor
  | [] => [d]
  | e :: es => if e.name = d.name then d :: es else e :: insertEntry d es

def insert (s : Snapshot) (d : Descriptor) : Snapshot := ⟨insertEntry d s.entries⟩

/-- The snapshot of a list of descriptions: of several under one name the last one counts. -/
def ofInfos (infos : List ValueInfo) : Snapshot :=
  infos.foldl (fun s i ↦ s.insert (Descriptor.ofInfo i)) {}

def ofElements? (es : List (Element ValueInfo)) : Option Snapshot :=
  if es.all (fun e ↦ match e with
      | .given _ => true
      | .foreign _ => false) then
    some (ofInfos (Element.givenOnly es))
  else none

def visible (s : Snapshot) : List Descriptor := s.entries.filter (!·.isHidden)

end Snapshot

end VariableExplorer
