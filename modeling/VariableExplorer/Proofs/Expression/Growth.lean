import VariableExplorer.Navigation.Chain
import VariableExplorer.Proofs.Navigation.Chain
import VariableExplorer.Proofs.Value.Growth

/-!
Evaluating an expression that calls nothing only adds to the store, and so does selecting the
members of a chain. Nothing is asked of the values, which may stop the program.
-/

namespace VariableExplorer

namespace Eval.Grows

variable {α β : Type}

@[grind ←]
theorem forM {f : α → Eval PUnit} (hf : ∀ a, Grows (f a)) (as : List α) : Grows (as.forM f) :=
  Composed.forM (m := Eval) (P := Grows) ⟨.pure, .bind⟩ fun a _ ↦ hf a

@[grind ←]
theorem foldlM {f : β → α → Eval β} (hf : ∀ b a, Grows (f b a)) (as : List α) (b : β) :
    Grows (as.foldlM f b) := by
  induction as generalizing b with
  | nil => exact .pure _
  | cons a as ih =>
    rw [List.foldlM_cons]
    exact (hf b a).bind fun b ↦ ih b

variable (env : Ref) (v w : Value)

theorem nameValue (name : String) : Grows (Eval.nameValue env name) := by
  refine .get fun s ↦ ?_
  split
  · exact .pure _
  split
  · exact .throw _
  split
  · split <;> grind
  · exact (getItem _ _).tryCatch fun f ↦ by split <;> grind

@[grind ←]
theorem newSet (cls : String) (items : List Value) : Grows (Eval.newSet cls items) := by
  refine (forM checkKey items).bind fun _ ↦ .get fun s ↦ ?_
  grind

@[grind ←]
theorem dictEntries (pairs : List (Value × Value)) : Grows (Eval.dictEntries pairs) := by
  unfold Eval.dictEntries
  grind

@[grind ←]
theorem contains : Grows (Eval.contains v w) := by
  refine .get fun s ↦ ?_
  split
  · exact .pure _
  · exact .throw _
  split
  · grind
  · grind
  · split <;> grind

@[grind ←]
theorem compare (op : CompareOp) : Grows (Eval.compare op v w) := by
  refine .get fun s ↦ ?_
  cases op <;> grind

@[grind ←]
theorem takeValue (p : Filling.Place) (s : Filling.Supply) : Grows (Eval.takeValue p s) := by
  unfold Eval.takeValue
  split
  · split <;> grind
  · split <;> grind

@[grind ←]
theorem inPlace (p : Filling.Place) (form : Char) (index : Nat) :
    Grows (Eval.inPlace p form index v) := by
  refine .get fun s ↦ ?_
  grind

@[grind ←]
theorem fillFrom (length fuel : Nat) (s : Filling.Supply) (cs : List Char) :
    Grows (Eval.fillFrom length fuel s cs) := by
  induction fuel generalizing s cs with
  | zero => exact .pure _
  | succ fuel ih =>
    unfold Eval.fillFrom
    split <;> grind

@[grind ←]
theorem fillText (text : String) : Grows (Eval.fillText text v) := by
  refine .get fun s ↦ ?_
  grind

@[grind ←]
theorem operateSequences (op : BinaryOp) : Grows (Eval.operateSequences op v w) := by
  refine .get fun s ↦ ?_
  cases op with
  | add => dsimp only; split <;> grind
  | mul => dsimp only; grind
  | mod => dsimp only; split <;> grind
  | _ => exact .throw _

@[grind ←]
theorem operate (op : BinaryOp) : Grows (Eval.operate op v w) := by
  refine .get fun s ↦ ?_
  split
  · split <;> grind
  · exact operateSequences v w op

@[grind ←]
theorem operateUnary (op : UnaryOp) : Grows (Eval.operateUnary op v) := by
  refine .get fun s ↦ ?_
  dsimp only
  split <;> grind

theorem inPairs {keys values : List (Eval Value)} (hkeys : ∀ x ∈ keys, Grows x)
    (hvalues : ∀ x ∈ values, Grows x) : Grows (Eval.inPairs keys values) := by
  unfold Eval.inPairs
  induction keys generalizing values with
  | nil => exact .pure _
  | cons k ks ih =>
    cases values with
    | nil => exact .pure _
    | cons v vs =>
      obtain ⟨hk, hks⟩ := List.forall_mem_cons.mp hkeys
      obtain ⟨hv, hvs⟩ := List.forall_mem_cons.mp hvalues
      rw [List.zip_cons_cons, List.mapM_cons]
      exact (hk.bind fun _ ↦ hv.bind fun _ ↦ .pure _).bind fun _ ↦
        (ih hks hvs).bind fun _ ↦ .pure _

mutual

theorem expr (e : Expr) (h : e.isCallFree = true) : Grows (Eval.expr env e) := by
  -- By the syntax: an expression is free of calls just if its parts are.
  cases e with
  | constant v => exact .pure _
  | name n => exact nameValue env n
  | member e n => exact (expr e h).bind fun _ ↦ getAttr _ n
  | subscript e i =>
    obtain ⟨he, hi⟩ := Bool.and_eq_true_iff.mp h
    cases i with
    | part start stop step =>
      obtain ⟨hbounds, hstep⟩ := Bool.and_eq_true_iff.mp hi
      obtain ⟨hstart, hstop⟩ := Bool.and_eq_true_iff.mp hbounds
      exact (expr _ he).bind fun _ ↦ (option hstart).bind fun _ ↦
        (option hstop).bind fun _ ↦ (option hstep).bind fun _ ↦ subscript _ _
    | _ => exact (expr _ he).bind fun _ ↦ (expr _ hi).bind fun _ ↦ getItem _ _
  | part start stop step => exact .pure _
  | call f args keywords => cases h
  | tuple items => exact (exprs h).bind fun _ ↦ newTuple _
  | list items => exact (exprs h).bind fun _ ↦ newList _
  | set items => exact (exprs h).bind fun _ ↦ newSet _ _
  | dict keys values =>
    obtain ⟨hkeys, hvalues⟩ := Bool.and_eq_true_iff.mp h
    exact (inPairs (attempts hkeys) (attempts hvalues)).bind fun _ ↦
      (dictEntries _).bind fun _ ↦ newDict _
  | unary op e => exact (expr e h).bind fun _ ↦ operateUnary _ op
  | binary op l r =>
    obtain ⟨hl, hr⟩ := Bool.and_eq_true_iff.mp h
    exact (expr _ hl).bind fun _ ↦ (expr _ hr).bind fun _ ↦ operate _ _ op
  | compare first ops rest =>
    obtain ⟨hfirst, hrest⟩ := Bool.and_eq_true_iff.mp h
    exact (expr _ hfirst).bind fun _ ↦ comparison _ ops hrest
  | and items => exact conjunction h
  | or items => exact disjunction h
  | choose condition yes no =>
    obtain ⟨h, hno⟩ := Bool.and_eq_true_iff.mp h
    obtain ⟨hcondition, hyes⟩ := Bool.and_eq_true_iff.mp h
    refine (expr _ hcondition).bind fun v ↦ (isTrue v).bind fun b ↦ ?_
    split
    · exact expr _ hyes
    · exact expr _ hno
  | lambda => exact newFunction _

theorem exprs {es : List Expr} (h : Expr.allCallFree es = true) : Grows (Eval.exprs env es) := by
  cases es with
  | nil => exact .pure _
  | cons e es =>
    obtain ⟨he, hes⟩ := Bool.and_eq_true_iff.mp h
    exact (expr _ he).bind fun _ ↦ (exprs hes).bind fun _ ↦ .pure _

theorem attempts {es : List Expr} (h : Expr.allCallFree es = true) :
    ∀ x ∈ Eval.attempts env es, Grows x := by
  cases es with
  | nil => exact fun x hx ↦ by cases hx
  | cons e es =>
    obtain ⟨he, hes⟩ := Bool.and_eq_true_iff.mp h
    exact List.forall_mem_cons.mpr ⟨expr _ he, attempts hes⟩

theorem option {e : Option Expr} (h : Expr.optionCallFree e = true) : Grows (Eval.option env e) := by
  cases e with
  | none => exact .pure _
  | some e => exact (expr _ h).bind fun _ ↦ .pure _

theorem comparison (left : Value) (ops : List CompareOp) {es : List Expr}
    (h : Expr.allCallFree es = true) : Grows (Eval.comparison env left ops es) := by
  cases es with
  | nil => exact .pure _
  | cons e es =>
    obtain ⟨he, hes⟩ := Bool.and_eq_true_iff.mp h
    cases ops with
    | nil => exact .pure _
    | cons op more =>
      have hrest (right : Value) := comparison right more hes
      refine (expr _ he).bind fun right ↦ (compare left right op).bind fun b ↦ ?_
      grind

theorem conjunction {es : List Expr} (h : Expr.allCallFree es = true) :
    Grows (Eval.conjunction env es) := by
  cases es with
  | nil => exact .pure _
  | cons e es =>
    obtain ⟨he, hes⟩ := Bool.and_eq_true_iff.mp h
    have hrest := conjunction hes
    refine (expr _ he).bind fun v ↦ ?_
    grind

theorem disjunction {es : List Expr} (h : Expr.allCallFree es = true) :
    Grows (Eval.disjunction env es) := by
  cases es with
  | nil => exact .pure _
  | cons e es =>
    obtain ⟨he, hes⟩ := Bool.and_eq_true_iff.mp h
    have hrest := disjunction hes
    refine (expr _ he).bind fun v ↦ ?_
    grind

end

end Eval.Grows

open Eval

namespace Literal

mutual

theorem value_grows (e : Expr) : Grows (value e) := by
  unfold value
  split
  · exact .pure _
  · exact (values_grows _).bind fun _ ↦ Grows.newTuple _
  · exact (values_grows _).bind fun _ ↦ Grows.newList _
  · exact (values_grows _).bind fun _ ↦ Grows.newSet _ _
  · exact Grows.newSet _ _
  · exact (Grows.inPairs (attempts_grows _) (attempts_grows _)).bind fun _ ↦
      (Grows.dictEntries _).bind fun _ ↦ Grows.newDict _
  · grind
  · grind

theorem values_grows (es : List Expr) : Grows (values es) := by
  cases es with
  | nil => exact .pure _
  | cons e es =>
    exact (value_grows e).bind fun _ ↦ (values_grows es).bind fun _ ↦ .pure _

theorem attempts_grows (es : List Expr) : ∀ x ∈ attempts es, Grows x := by
  cases es with
  | nil => exact fun x hx ↦ by cases hx
  | cons e es => exact List.forall_mem_cons.mpr ⟨value_grows e, attempts_grows es⟩

end

@[grind ←]
theorem read_grows (text : String) : Grows (read text) :=
  (Grows.ofExcept _).bind value_grows

end Literal

namespace Chain

@[grind ←]
theorem named_grows (v : Value) (selector : Selector) (name : String) :
    Grows (named v selector name) := by
  unfold named entryOrAttribute
  cases selector <;> grind

theorem select_grows (v : Value) (link : Link) : Grows (select v link) := by
  have hindexed (v : Value) (literal : String) : Grows (indexed v literal) := by
    unfold indexed
    grind
  unfold select
  split <;> grind

/-- Whether evaluating the head of a chain calls no function, if the head can be evaluated. -/
def IsCallFree (c : Chain) : Prop :=
  ∀ e, Expr.parse "<string>" (withoutIndent c.head) = .ok e → e.isCallFree = true

end Chain

theorem chainValue_grows (env : Ref) {expression : String}
    (h : (Chain.ofText expression).IsCallFree) : Grows (chainValue env expression) := by
  intro s
  unfold chainValue
  cases hparse : Expr.parse "<string>" (withoutIndent (Chain.ofText expression).head) with
  | error f => exact .refl s
  | ok e => exact ((Grows.expr env e (h e hparse)).bind fun v ↦ .foldlM Chain.select_grows _ v) s

end VariableExplorer
