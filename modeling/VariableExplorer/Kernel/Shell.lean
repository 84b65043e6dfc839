import VariableExplorer.Value.Recipe

/-!
The environment of a shell: a dictionary object that holds the shell's variables in the order in
which they were first bound.
-/

namespace VariableExplorer

namespace Shell

def bind (env : Ref) (name : String) (v : Value) : Eval Unit :=
  modify fun s ↦ match s.get? env with
    | some ⟨c, .dict entries, attrs, slots⟩ =>
      s.set env ⟨c, .dict (s.insertEntry (.str name) v entries), attrs, slots⟩
    | _ => s

def unbind (env : Ref) (name : String) : Eval Unit :=
  modify fun s ↦ match s.get? env with
    | some ⟨c, .dict entries, attrs, slots⟩ =>
      s.set env ⟨c, .dict (s.eraseEntry (.str name) entries), attrs, slots⟩
    | _ => s

def bindAll (env : Ref) (vars : List (String × Recipe)) : Eval Unit :=
  vars.forM fun (name, r) ↦ do bind env name (← r)

/-- A new environment in which only some of the universal names are known. -/
def environment (known : List String) (vars : List (String × Recipe)) : Eval Ref := do
  let universal ← Eval.newDict (known.map fun name ↦
    (.str name, (universalNames.lookup name).getD .none))
  let env ← Eval.alloc ⟨.native "dict", .dict [(.str universalKey, universal)], none, []⟩
  bindAll env vars
  return env

def names (s : Store) (env : Ref) : List String :=
  (s.entries env).filterMap fun (k, _) ↦ match k with
    | .str name => some name
    | _ => none

end Shell

end VariableExplorer
