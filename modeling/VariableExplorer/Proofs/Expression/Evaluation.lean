import VariableExplorer.Navigation.Chain
import VariableExplorer.Proofs.Expression.Calling

/-!
Evaluating an expression is tame, once its environment has the universal names.
-/

namespace VariableExplorer

open Eval Fault

def FailsOwn {α : Type} (r : Except Fault α) : Prop := ∀ f, r = .error f → f.IsOwn

namespace FailsOwn

variable {α β : Type}

theorem ok (a : α) : FailsOwn (.ok a) := fun f hf ↦ by cases hf

theorem error {f : Fault} (h : f.IsOwn) : FailsOwn (.error f : Except Fault α) :=
  fun g hg ↦ by cases hg; exact h

theorem raise {kind : String} {text : Option String} (h : kind ∈ ownKinds) :
    FailsOwn (.error (.raised kind text) : Except Fault α) := error (f := .raised kind text) h

theorem bind {x : Except Fault α} {f : α → Except Fault β} (hx : FailsOwn x)
    (hf : ∀ a, FailsOwn (f a)) : FailsOwn (x >>= f) := by
  cases x with
  | ok a => exact hf a
  | error e => exact error (hx e rfl)

theorem ite {c : Prop} [Decidable c] {x y : Except Fault α} (hx : FailsOwn x) (hy : FailsOwn y) :
    FailsOwn (if c then x else y) := by
  split
  · exact hx
  · exact hy

theorem tame {r : Except Fault α} (h : FailsOwn r) : Tame (MonadExcept.ofExcept r : Eval α) :=
  .ofOwn h

end FailsOwn

theorem Expr.parse_failsOwn (source text : String) : FailsOwn (Expr.parse source text) := by
  have hgeneral (ts consumed rest : List Token) (line : Nat) : FailsOwn (Expr.parse.general
      (fun reason line ↦ .error (.notAnExpression reason source line)) ts consumed rest line) := by
    unfold Expr.parse.general
    split <;> exact .error trivial
  unfold Expr.parse
  split
  · exact .raise (by decide)
  dsimp only
  split
  · exact .error trivial
  split
  · exact .ok _
  split
  · exact .error trivial
  · exact .error trivial
  · split <;> exact .error trivial
  split
  · exact .error trivial
  split
  · exact .error trivial
  · exact .error trivial
  · split
    · exact .error trivial
    · exact hgeneral _ _ _ _
  · exact hgeneral _ _ _ _

namespace Number

theorem toFloat_failsOwn (n : Number) : FailsOwn n.toFloat := by
  cases n with
  | int i =>
    dsimp only [toFloat]
    split
    · exact .ok _
    · exact .raise (by decide)
  | float x => exact .ok x
  | complex re im => exact .ok re

theorem parts_failsOwn (n : Number) : FailsOwn n.parts := by
  have hreal (n : Number) : FailsOwn (do return (← n.toFloat, (0.0 : Float)) :
      Except Fault (Float × Float)) := (toFloat_failsOwn n).bind fun x ↦ .ok _
  cases n with
  | complex re im => exact .ok _
  | int i => exact hreal _
  | float x => exact hreal _

theorem quotient_failsOwn (i j : Int) : FailsOwn (quotient i j) :=
  .ite (.raise (by decide)) (.ok _)

theorem ofInts_failsOwn (op : BinaryOp) (i j : Int) : FailsOwn (ofInts op i j) := by
  cases op with
  | div => exact .ite (.error trivial) (quotient_failsOwn i j)
  | floorDiv | mod => exact .ite (.error trivial) (.ok _)
  | pow =>
    exact .ite (.ok _) (.ite (.error trivial)
      ((toFloat_failsOwn _).bind fun _ ↦ (toFloat_failsOwn _).bind fun _ ↦ .ok _))
  | shiftLeft | shiftRight => exact .ite (.raise (by decide)) (.ok _)
  | matMul => exact .error trivial
  | _ => exact .ok _

theorem ofFloats_failsOwn {op : BinaryOp} {x y : Float} {r : Except Fault Value}
    (h : ofFloats op x y = some r) : FailsOwn r := by
  cases op with
  | add | sub | mul | pow => cases h; exact .ok _
  | div | floorDiv | mod => cases h; exact .ite (.error trivial) (.ok _)
  | _ => cases h

theorem ofComplex_failsOwn {op : BinaryOp} {a b c d : Float} {r : Except Fault Value}
    (h : ofComplex op a b c d = some r) : FailsOwn r := by
  cases op with
  | add | sub | mul => cases h; exact .ok _
  | div => cases h; exact .ite (.error trivial) (.ok _)
  | _ => cases h

theorem operate_failsOwn {op : BinaryOp} {a b : Number} {r : Except Fault Value}
    (h : operate op a b = some r) : FailsOwn r := by
  have hparts {n : Number} {f : Fault} (hn : n.parts = .error f) : FailsOwn (.error f :
      Except Fault Value) := .error (parts_failsOwn n f hn)
  have hfloat {n : Number} {f : Fault} (hn : n.toFloat = .error f) : FailsOwn (.error f :
      Except Fault Value) := .error (toFloat_failsOwn n f hn)
  unfold operate at h
  split at h
  · split at h
    · cases h
    · cases h; exact ofInts_failsOwn _ _ _
  · split at h
    · exact ofComplex_failsOwn h
    · cases h; exact hparts (by assumption)
    · cases h; exact hparts (by assumption)
  · split at h
    · exact ofComplex_failsOwn h
    · cases h; exact hparts (by assumption)
    · cases h; exact hparts (by assumption)
  · split at h
    · exact ofFloats_failsOwn h
    · cases h; exact hfloat (by assumption)
    · cases h; exact hfloat (by assumption)

end Number

namespace Eval.Tame

theorem takeValue (p : Filling.Place) (s : Filling.Supply) : Tame (Eval.takeValue p s) := by
  unfold Eval.takeValue
  split
  · split
    · exact (getItem _ _).bind fun _ _ ↦ .pure trivial
    · exact .raise (by decide)
  · split
    · exact .pure trivial
    · exact .fail trivial

theorem inPlace (p : Filling.Place) (form : Char) (index : Nat) (v : Value) :
    Tame (Eval.inPlace p form index v) := by
  -- A form is taken up by the kind of the value; what no kind takes up is refused.
  refine .get fun s _ ↦ ?_
  dsimp only
  split
  · exact (plain v).bind fun _ _ ↦ .pure trivial
  split
  · exact (shown v).bind fun _ _ ↦ .pure trivial
  split
  · split
    · split
      · exact .pure trivial
      · split <;> exact .raise (by decide)
    · split
      · exact .pure trivial
      · exact .raise (by decide)
  iterate 3
    split
    · split
      · exact .pure trivial
      · exact .raise (by decide)
  split
  · split
    · exact .pure trivial
    · split
      · exact .pure trivial
      · exact .raise (by decide)
    · exact .raise (by decide)
  split
  · split
    · split
      · exact .pure trivial
      · exact .raise (by decide)
    · split
      · exact .pure trivial
      · exact .raise (by decide)
    · exact .raise (by decide)
  · exact .raise (by decide)

theorem takePlace_failsOwn (cs : List Char) : FailsOwn (Filling.takePlace cs) := by
  unfold Filling.takePlace
  simp only [pure_bind]
  split
  · split
    · split <;> exact .ok _
    · exact .raise (by decide)
  · split <;> exact .ok _

theorem fillFrom (length fuel : Nat) (s : Filling.Supply) (cs : List Char) :
    Tame (Eval.fillFrom length fuel s cs) := by
  induction fuel generalizing s cs with
  | zero => exact .pure trivial
  | succ fuel ih =>
    unfold Eval.fillFrom
    split
    · exact .pure trivial
    · split
      · exact .pure trivial
      · exact .fail trivial
    next heq =>
      cases heq
      refine (takePlace_failsOwn _).tame.bind fun ⟨p, cs⟩ _ ↦ ?_
      dsimp only
      split
      · exact .raise (by decide)
      · exact (ih _ _).bind fun _ _ ↦ .pure trivial
      · exact (takeValue _ _).bind fun _ _ ↦ (inPlace _ _ _ _).bind fun _ _ ↦
          (ih _ _).bind fun _ _ ↦ .pure trivial
    next heq =>
      cases heq
      exact (ih _ _).bind fun _ _ ↦ .pure trivial

theorem fillText (text : String) (v : Value) : Tame (Eval.fillText text v) :=
  .get fun _ _ ↦ (fillFrom _ _ _ _).bind fun _ _ ↦ .pure trivial

theorem operateSequences (op : BinaryOp) (l r : Value) : Tame (Eval.operateSequences op l r) := by
  refine .get fun s _ ↦ ?_
  dsimp only
  cases op with
  | add =>
    dsimp only
    split
    · exact newList _
    · exact newTuple _
    · exact .pure trivial
    · exact .pure trivial
    all_goals exact .fail trivial
  | mul =>
    dsimp only
    split
    · split
      · exact newList _
      · exact newTuple _
      · exact .pure trivial
      · exact .pure trivial
      · exact .fail trivial
    · split
      · exact newList _
      · exact newTuple _
      · exact .pure trivial
      · exact .pure trivial
      · exact .fail trivial
    · exact .ite (.fail trivial) (.ite (.fail trivial) (.fail trivial))
  | mod =>
    dsimp only
    split
    · exact fillText _ r
    · exact .fail trivial
  | _ => exact .fail trivial

theorem operate (op : BinaryOp) (l r : Value) : Tame (Eval.operate op l r) := by
  refine .get fun s _ ↦ ?_
  split
  · split
    next hr => exact (Number.operate_failsOwn hr).tame
    · exact .fail trivial
  · exact operateSequences op l r

theorem operateUnary (op : UnaryOp) (v : Value) : Tame (Eval.operateUnary op v) := by
  refine .get fun s _ ↦ ?_
  dsimp only
  split
  case h_1 => exact (isTrue v).bind fun _ _ ↦ .pure trivial
  case h_9 => exact .fail trivial
  all_goals exact .pure trivial

theorem inPairs {keys values : List (Eval Value)} (hkeys : ∀ x ∈ keys, Tame x)
    (hvalues : ∀ x ∈ values, Tame x) : Tame (Eval.inPairs keys values) := by
  unfold Eval.inPairs
  induction keys generalizing values with
  | nil => exact .pure trivial
  | cons k ks ih =>
    cases values with
    | nil => exact .pure trivial
    | cons v vs =>
      obtain ⟨hk, hks⟩ := List.forall_mem_cons.mp hkeys
      obtain ⟨hv, hvs⟩ := List.forall_mem_cons.mp hvalues
      rw [List.zip_cons_cons, List.mapM_cons]
      refine .bind (P := fun _ ↦ True) (hk.bind fun _ _ ↦ hv.bind fun _ _ ↦ .pure trivial)
        fun _ _ ↦ (ih hks hvs).bind fun _ _ ↦ .pure trivial

mutual

theorem expr (env : Ref) (e : Expr) : Tame (Eval.expr env e) := by
  cases e with
  | constant v => exact .pure trivial
  | name n => exact nameValue env n
  | member e n => exact (expr env e).bind fun _ _ ↦ getAttr _ n
  | subscript e i =>
    cases i with
    | part start stop step =>
      exact (expr env e).bind fun _ _ ↦ (option env start).bind fun _ _ ↦
        (option env stop).bind fun _ _ ↦ (option env step).bind fun _ _ ↦ subscript _ _
    | _ => exact (expr env e).bind fun _ _ ↦ (expr env _).bind fun _ _ ↦ getItem _ _
  | part start stop step => exact .pure trivial
  | call f args keywords =>
    exact (expr env f).bind fun _ _ ↦ (exprs env args).bind fun _ _ ↦ call _ _ _ _ _
  | tuple items => exact (exprs env items).bind fun _ _ ↦ newTuple _
  | list items => exact (exprs env items).bind fun _ _ ↦ newList _
  | set items => exact (exprs env items).bind fun _ _ ↦ newSet _ _
  | dict keys values =>
    exact (inPairs (attempts env keys) (attempts env values)).bind fun _ _ ↦
      (dictEntries _).bind fun _ _ ↦ newDict _
  | unary op e => exact (expr env e).bind fun _ _ ↦ operateUnary _ _
  | binary op l r => exact (expr env l).bind fun _ _ ↦ (expr env r).bind fun _ _ ↦ operate _ _ _
  | compare first ops rest =>
    exact (expr env first).bind fun _ _ ↦ comparison env _ ops rest
  | and items => exact conjunction env items
  | or items => exact disjunction env items
  | choose condition yes no =>
    exact (expr env condition).bind fun _ _ ↦ (isTrue _).bind fun _ _ ↦
      .ite (expr env yes) (expr env no)
  | lambda => exact newFunction _

theorem exprs (env : Ref) (es : List Expr) : Tame (Eval.exprs env es) := by
  cases es with
  | nil => exact .pure trivial
  | cons e es => exact (expr env e).bind fun _ _ ↦ (exprs env es).bind fun _ _ ↦ .pure trivial

theorem attempts (env : Ref) (es : List Expr) : ∀ x ∈ Eval.attempts env es, Tame x := by
  cases es with
  | nil => exact fun x hx ↦ by cases hx
  | cons e es => exact List.forall_mem_cons.mpr ⟨expr env e, attempts env es⟩

theorem option (env : Ref) (e : Option Expr) : Tame (Eval.option env e) := by
  cases e with
  | none => exact .pure trivial
  | some e => exact (expr env e).bind fun _ _ ↦ .pure trivial

theorem comparison (env : Ref) (left : Value) (ops : List CompareOp) (es : List Expr) :
    Tame (Eval.comparison env left ops es) := by
  cases es with
  | nil => exact .pure trivial
  | cons e es =>
    cases ops with
    | nil => exact .pure trivial
    | cons op more =>
      exact (expr env e).bind fun _ _ ↦ (compare op left _).bind fun _ _ ↦
        .ite (.ite (.pure trivial) (comparison env _ more es)) (.pure trivial)

theorem conjunction (env : Ref) (es : List Expr) : Tame (Eval.conjunction env es) := by
  cases es with
  | nil => exact .pure trivial
  | cons e es =>
    exact (expr env e).bind fun _ _ ↦ .ite (.pure trivial) ((isTrue _).bind fun _ _ ↦
      .ite (conjunction env es) (.pure trivial))

theorem disjunction (env : Ref) (es : List Expr) : Tame (Eval.disjunction env es) := by
  cases es with
  | nil => exact .pure trivial
  | cons e es =>
    exact (expr env e).bind fun _ _ ↦ .ite (.pure trivial) ((isTrue _).bind fun _ _ ↦
      .ite (.pure trivial) (disjunction env es))

end

end Eval.Tame

end VariableExplorer
