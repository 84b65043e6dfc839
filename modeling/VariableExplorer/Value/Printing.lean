import VariableExplorer.Value.Attribute

/-!
The two texts of a value: the shown text, which for plain data is an expression for it, and the
plain text, which for a text is the text itself. An object inside itself is shown as an ellipsis,
and nesting beyond a fixed depth is refused.
-/

namespace VariableExplorer

def showDepth : Nat := 960

/-- The place of an object; objects have no place in memory to speak of, only one of its width. -/
def addressText (r : Ref) : String :=
  "0x7f" ++ String.ofList (Text.Quoted.hex 10 (0x10000 + 16 * r))

def integerText (i : Int) : Except Fault String :=
  let text := toString i
  if Decimal.digitLimit < (if i < 0 then text.length - 1 else text.length) then
    .error .tooManyDigits
  else .ok text

/-- As for plain numbers, without a final `.0`. -/
def partLayout : Decimal.Layout := ⟨-4, 16, false⟩

def complexText (re im : Float) : String :=
  let imText := partLayout.text im ++ "j"
  if re == 0.0 && re.toBits == (0.0 : Float).toBits then imText
  else
    let sign := if imText.startsWith "-" then "" else "+"
    "(" ++ partLayout.text re ++ sign ++ imText ++ ")"

namespace Store

def classText (s : Store) (c : ClassRef) : String :=
  let m := s.classModule c
  "<class '" ++ (if m = "" then "" else m ++ ".") ++ s.className c ++ "'>"

def bearerText (s : Store) (v : Value) : String :=
  let place := match v with
    | .ref r => addressText r
    | _ => addressText 0
  s.kindName v ++ " object at " ++ place

def descriptorText (owner name : String) : NativeEntry → String
  | .computed => s!"<attribute '{name}' of '{owner}' objects>"
  | .member => s!"<member '{name}' of '{owner}' objects>"
  | .wrapper => s!"<slot wrapper '{name}' of '{owner}' objects>"
  | .method | .classMethod => s!"<method '{name}' of '{owner}' objects>"
  | _ => s!"<built-in method {name} of type object at {addressText 0}>"

def scalarText (s : Store) : Value → Except Fault String
  | .none => .ok "None"
  | .ellipsis => .ok "Ellipsis"
  | .bool b => .ok (if b then "True" else "False")
  | .int i => integerText i
  | .float x => .ok (Decimal.text x)
  | .complex re im => .ok (complexText re im)
  | .str t => .ok (Text.Quoted.quote t)
  | .bytes bs => .ok (Text.Quoted.quoteBytes bs)
  | .native name => .ok (s.classText (.native name))
  | .function name => .ok s!"<built-in function {name}>"
  | .operation v name => .ok s!"<built-in method {name} of {s.bearerText v}>"
  | .wrapper v name => .ok s!"<method-wrapper '{name}' of {s.bearerText v}>"
  | .descriptor owner name e => .ok (descriptorText owner name e)
  | .ref r => .ok (addressText r)

/-- How an object shows the place where it is found inside itself. -/
def insideText (s : Store) (v : Value) : String :=
  match s.body v with
  | .list _ => "[...]"
  | .tuple _ => "(...)"
  | .set _ => s.kindName v ++ "(...)"
  | .dict _ => if s.isKind v ["OrderedDict"] then "..." else "\x7b...\x7d"
  | .plain => if s.isKind v ["SimpleNamespace"] then "namespace(...)" else "..."
  | _ => "..."

end Store

def commas (texts : List String) : String := ", ".intercalate texts

namespace Eval

def givenText (operation : String) (b : Behaviour) : Eval String := do
  let v ← ofExcept b
  let s ← get
  match s.scalar v with
  | .str t => return t
  | _ => throw (.notText operation (s.kindName v))

/-- The shown text; `fuel` bounds the nesting, `inside` lists the objects being shown. -/
def showWithin : (fuel : Nat) → (inside : List Ref) → Value → Eval String
  | 0, _, _ => throw (.tooDeep " while getting the repr of an object")
  | fuel + 1, inside, v => do
    let s ← get
    match v with
    | .ref r =>
      match s.ofMade? (s.classOf v) "__repr__" with
      | some (.special b) => givenText "__repr__" b
      | _ =>
        -- an object that holds itself is shown as dots there
        if inside.contains r then return s.insideText v
        else
          let item := showWithin fuel (r :: inside)
          let pair : Value × Value → Eval String := fun (k, w) ↦
            return (← item k) ++ ": " ++ (← item w)
          match s.body v with
          | .scalar w => ofExcept (s.scalarText w)
          | .list items => return "[" ++ commas (← items.mapM item) ++ "]"
          -- the comma tells a tuple of one from a value in brackets
          | .tuple [w] => return "(" ++ (← item w) ++ ",)"
          | .tuple items => return "(" ++ commas (← items.mapM item) ++ ")"
          | .set items =>
            if items.isEmpty then return s.kindName v ++ "()"
            else
              let text := "\x7b" ++ commas (← items.mapM item) ++ "\x7d"
              return if s.classOf v = .native "set" then text
                else s.kindName v ++ "(" ++ text ++ ")"
          | .dict entries =>
            if s.isKind v ["OrderedDict"] then
              if entries.isEmpty then return s.kindName v ++ "()"
              else
                let texts ← entries.mapM fun (k, w) ↦
                  return "(" ++ (← item k) ++ ", " ++ (← item w) ++ ")"
                return s.kindName v ++ "([" ++ commas texts ++ "])"
            else return "\x7b" ++ commas (← entries.mapM pair) ++ "\x7d"
          | .view target => return s.kindName v ++ "(" ++ (← item target) ++ ")"
          | .bytearray bs => return s.kindName v ++ "(" ++ Text.Quoted.quoteBytes bs ++ ")"
          | .range start stop step =>
            let parts := if step = 1 then [start, stop] else [start, stop, step]
            return "range(" ++ commas (← parts.mapM fun i ↦ ofExcept (integerText i)) ++ ")"
          | .function _ qualified => return s!"<function {qualified} at {addressText r}>"
          | .method bearer func =>
            let name := match s.body func with
              | .function _ qualified => qualified
              | _ => "?"
            return s!"<bound method {name} of {← item bearer}>"
          | .partialCall func args =>
            return "functools.partial(" ++ commas (← (func :: args).mapM item) ++ ")"
          | .exception [w] => return s.kindName v ++ "(" ++ (← item w) ++ ")"
          | .exception args => return s.kindName v ++ "(" ++ commas (← args.mapM item) ++ ")"
          | .module =>
            let name ← match s.lookup? (.str "__name__") (s.attributes v) with
              | some w => item w
              | none => pure "'?'"
            match s.lookup? (.str "__file__") (s.attributes v) with
            | some file => return s!"<module {name} from {← item file}>"
            | none => return s!"<module {name}>"
          | .classDef _ => return s.classText (.made r)
          | .plain =>
            if s.isKind v ["SimpleNamespace"] then
              let texts ← (s.attributes v).mapM fun (k, w) ↦ do
                let name ← match k with
                  | .str t => pure t
                  | k => item k
                return name ++ "=" ++ (← item w)
              let name :=
                if s.classOf v = .native "SimpleNamespace" then "namespace" else s.kindName v
              return name ++ "(" ++ commas texts ++ ")"
            else
              let c := s.classOf v
              let m := s.classModule c
              let owner := if m = "" then "" else m ++ "."
              return s!"<{owner}{s.className c} object at {addressText r}>"
    | v => ofExcept (s.scalarText v)

def shown (v : Value) : Eval String := showWithin showDepth [] v

def plain (v : Value) : Eval String := do
  let s ← get
  match s.ofMade? (s.classOf v) "__str__" with
  | some (.special b) => givenText "__str__" b
  | _ =>
    match s.body v with
    | .scalar (.str t) => return t
    | .scalar (.bytes bs) => return Text.Quoted.quoteBytes bs
    | .exception [] => return ""
    | .exception [w] =>
      if s.isKind v ["KeyError"] then shown w
      else match s.scalar w with
        | .str t => return t
        | _ => shown w
    | .exception args => return "(" ++ commas (← args.mapM shown) ++ ")"
    | .view target => if s.isKind v ["mappingproxy"] then shown target else shown v
    | _ => shown v

end Eval

end VariableExplorer
