import VariableExplorer.Expression.Operation
import VariableExplorer.Expression.Parser
import VariableExplorer.Value.Universal

/-!
Evaluating expressions in an environment, which is a dictionary object. A name means its entry
there, or else the entry of the dictionary of universal names that the environment carries.
-/

namespace VariableExplorer

/-- The entry under which an environment carries the universal names. -/
def universalKey : String := "__builtins__"

namespace Eval

/-- Gives an environment the universal names unless it carries some already. -/
def provideUniversal (env : Ref) : Eval Unit := do
  let s ← get
  match s.get? env with
  | some ⟨c, .dict entries, attrs, slots⟩ =>
    if (s.lookup? (.str universalKey) entries).isSome then return
    else
      let names ← newDict (universalNames.map fun (name, v) ↦ (.str name, v))
      modify fun s ↦ s.set env ⟨c, .dict (entries ++ [(.str universalKey, names)]), attrs, slots⟩
  | _ => return

def nameValue (env : Ref) (name : String) : Eval Value := do
  let s ← get
  match s.lookup? (.str name) (s.entries env) with
  | some v => return v
  | none =>
    match s.lookup? (.str universalKey) (s.entries env) with
    | none => throw (.undefinedName name)
    | some universal =>
      match s.body universal with
      | .module =>
        match s.lookup? (.str name) (s.attributes universal) with
        | some v => return v
        | none => throw (.undefinedName name)
      | _ =>
        tryCatch (getItem universal (.str name)) fun f ↦
          if f.isA "KeyError" then throw (.undefinedName name) else throw f

/-- Sets list their elements in ascending order where these are whole numbers. -/
def arrange (s : Store) (items : List Value) : List Value :=
  let whole := items.filterMap s.asInt?
  if whole.length = items.length then
    items.mergeSort fun v w ↦ (s.asInt? v).getD 0 ≤ (s.asInt? w).getD 0
  else items

def newSet (cls : String) (items : List Value) : Eval Value := do
  items.forM checkKey
  let s ← get
  return .ref (← alloc ⟨.native cls, .set (arrange s (s.distinct items)), none, []⟩)

def greatest : Value → List Value → Eval Value
  | best, [] => return best
  | best, v :: vs => do
    if ← compare .gt v best then greatest v vs else greatest best vs

def callUniversal (env : Ref) (name : String) (args : List Value) (keywords : List String) :
    Eval Value := do
  let takesNone : Eval Unit :=
    if keywords.isEmpty then return
    else throw (.argumentCount s!"{name}() takes no keyword arguments")
  match name with
  | "globals" => do
    takesNone
    if args.isEmpty then return .ref env
    else throw (.argumentCount s!"globals() takes no arguments ({args.length} given)")
  | "len" => do
    takesNone
    match args with
    | [v] => return .int (← length v)
    | _ => throw (.argumentCount s!"len() takes exactly one argument ({args.length} given)")
  | "max" =>
    match args with
    | [] => throw (.argumentCount "max expected at least 1 argument, got 0")
    | [v] =>
      match ← elements v with
      | [] => throw .emptySequence
      | w :: ws => greatest w ws
    | v :: vs => greatest v vs
  | "repr" => do
    match args with
    | [v] => return .str (← shown v)
    | _ => throw (.argumentCount s!"repr() takes exactly one argument ({args.length} given)")
  | "callable" => do
    match args with
    | [v] => return .bool ((← get).isCallable v)
    | _ => throw (.argumentCount s!"callable() takes exactly one argument ({args.length} given)")
  | _ => return .none

def decoded (args : List Value) : Eval Value := do
  let s ← get
  let name (v : Value) : String := match v with
    | .none => "None"
    | v => s.kindFullName v
  let isText (v : Value) : Bool := match s.scalar v with
    | .str _ => true
    | _ => false
  match (["encoding", "errors"].zip (args.drop 1)).find? fun (_, v) ↦ !isText v with
  | some (parameter, v) =>
    throw (.raised "TypeError" (some s!"str() argument '{parameter}' must be str, not {name v}"))
  | none =>
    match s.scalar (args.headD .none) with
    | .str _ => throw (.raised "TypeError" (some "decoding str is not supported"))
    | v => throw (.argumentCount
        s!"decoding to str: need a bytes-like object, {s.kindFullName v} found")

def construct (name : String) (args : List Value) : Eval Value := do
  match name, args with
  | "str", [] => return .str ""
  | "str", [v] => return .str (← plain v)
  | "str", _ =>
    if args.length ≤ 3 then decoded args
    else throw (.argumentCount s!"str() takes at most 3 arguments ({args.length} given)")
  | "bool", [] => return .bool false
  | "bool", [v] => return .bool (← isTrue v)
  | "list", [] => newList []
  | "list", [v] => newList (← elements v)
  | "tuple", [] => newTuple []
  | "tuple", [v] => newTuple (← elements v)
  | "set", [] => newSet "set" []
  | "set", [v] => newSet "set" (← elements v)
  | "frozenset", [] => newSet "frozenset" []
  | "frozenset", [v] => newSet "frozenset" (← elements v)
  | "dict", [] => newDict []
  | "type", [v] => return ((← get).classOf v).toValue
  | "int", [] => return .int 0
  | "int", [v] => do
    let s ← get
    match s.scalar v with
    | .bool b => return .int (if b then 1 else 0)
    | .int i => return .int i
    | .float x =>
      match Decimal.truncate? x with
      | some i => return .int i
      | none => throw (.raised "ValueError" (some "cannot convert float NaN to integer"))
    | .str t =>
      match Decimal.readInteger t with
      | .ok i => return .int i
      | .error .malformed => throw (.raised "ValueError"
          (some s!"invalid literal for int() with base 10: {Text.Quoted.quote t}"))
      | .error (.tooManyDigits n) => throw (.tooManyDigitsRead n)
    | _ => throw (.raised "TypeError" (some ("int() argument must be a string, a bytes-like " ++
      s!"object or a real number, not '{s.kindFullName v}'")))
  | _, _ => do
    if (NativeClass.exceptionParents.lookup name).isSome || name = "BaseException" then
      return .ref (← alloc ⟨.native name, .exception args, none, []⟩)
    else return .none

/-- Calls a value; `fuel` bounds how many values stand between it and what is called in the end. -/
def call (env : Ref) : (fuel : Nat) → Value → List Value → List String → Eval Value
  | 0, v, _, _ => do throw (.notCallable ((← get).kindFullName v))
  | fuel + 1, v, args, keywords => do
    let s ← get
    match v with
    | .function name => callUniversal env name args keywords
    | .native name => construct name args
    | .operation _ _ | .wrapper _ _ | .descriptor _ _ .method | .descriptor _ _ .wrapper
    | .descriptor _ _ .classMethod | .descriptor _ _ .function => return .none
    | v =>
      match s.body v with
      | .function _ _ => return .none
      | .method bearer func => call env fuel func (bearer :: args) keywords
      | .partialCall func more => call env fuel func (more ++ args) keywords
      | .classDef d =>
        match v with
        | .ref r =>
          let attrs ← alloc ⟨.native "dict", .dict [], none, []⟩
          if args.isEmpty then return .ref (← alloc ⟨.made r, .plain, some attrs, []⟩)
          else throw (.argumentCount s!"{d.name}() takes no arguments")
        | _ => return .none
      | _ =>
        match s.ofMade? (s.classOf v) "__call__" with
        | some (.special b) => ofExcept b
        | _ => throw (.notCallable (s.kindFullName v))

def inPairs (keys values : List (Eval Value)) : Eval (List (Value × Value)) :=
  (keys.zip values).mapM fun (k, v) ↦ do
    let key ← k
    return (key, ← v)

def callDepth : Nat := 100

mutual

def expr (env : Ref) : Expr → Eval Value
  | .constant v => return v
  | .name n => nameValue env n
  | .member e n => do getAttr (← expr env e) n
  | .subscript e (.part start stop step) => do
    let v ← expr env e
    let a ← option env start
    let b ← option env stop
    let c ← option env step
    subscript v (.part a b c)
  | .subscript e i => do
    let v ← expr env e
    getItem v (← expr env i)
  | .part _ _ _ => return .none
  | .call f args keywords => do
    let f ← expr env f
    call env callDepth f (← exprs env args) keywords
  | .tuple items => do newTuple (← exprs env items)
  | .list items => do newList (← exprs env items)
  | .set items => do newSet "set" (← exprs env items)
  | .dict keys values => do
    newDict (← dictEntries (← inPairs (attempts env keys) (attempts env values)))
  | .unary op e => do operateUnary op (← expr env e)
  | .binary op l r => do
    let v ← expr env l
    operate op v (← expr env r)
  | .compare first ops rest => do
    comparison env (← expr env first) ops rest
  | .and items => conjunction env items
  | .or items => disjunction env items
  | .choose condition yes no => do
    if ← isTrue (← expr env condition) then expr env yes else expr env no
  | .lambda => newFunction "<lambda>"

def exprs (env : Ref) : List Expr → Eval (List Value)
  | [] => return []
  | e :: es => do
    let v ← expr env e
    return v :: (← exprs env es)

def attempts (env : Ref) : List Expr → List (Eval Value)
  | [] => []
  | e :: es => expr env e :: attempts env es

def option (env : Ref) : Option Expr → Eval (Option Value)
  | none => return none
  | some e => do return some (← expr env e)

def comparison (env : Ref) (left : Value) (ops : List CompareOp) : List Expr → Eval Value
  | [] => return .bool true
  | e :: es => do
    match ops with
    | [] => return .bool true
    | op :: more =>
      let right ← expr env e
      if ← compare op left right then
        if es.isEmpty then return .bool true else comparison env right more es
      else return .bool false

def conjunction (env : Ref) : List Expr → Eval Value
  | [] => return .bool true
  | e :: es => do
    let v ← expr env e
    if es.isEmpty then return v
    else if ← isTrue v then conjunction env es else return v

def disjunction (env : Ref) : List Expr → Eval Value
  | [] => return .bool false
  | e :: es => do
    let v ← expr env e
    if es.isEmpty then return v
    else if ← isTrue v then return v else disjunction env es

end

end Eval

def withoutIndent (text : String) : String :=
  String.ofList (text.toList.dropWhile fun c ↦ c = ' ' || c = '\t')

/-- The value of a text read as an expression; the environment is given the universal names
first, whether or not the text is an expression. -/
def evaluate (env : Ref) (text : String) : Eval Value := do
  Eval.provideUniversal env
  Eval.expr env (← ofExcept (Expr.parse "<string>" (withoutIndent text)))

end VariableExplorer
