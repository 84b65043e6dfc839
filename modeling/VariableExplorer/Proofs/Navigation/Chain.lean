import VariableExplorer.Proofs.Expression.Evaluation

/-!
Reading a literal and selecting the members of a chain are tame. The value of a chain is found by a
tame computation in an environment that has been given the universal names.
-/

namespace VariableExplorer

open Eval

namespace Literal

theorem number_failsOwn (e : Expr) : FailsOwn (number e) := by
  unfold number
  split
  case h_4 => exact .error trivial
  all_goals exact .ok _

theorem signedNumber_failsOwn (e : Expr) : FailsOwn (signedNumber e) := by
  unfold signedNumber
  split
  · exact number_failsOwn _
  · refine (number_failsOwn _).bind fun n ↦ ?_
    split <;> exact .ok _
  · exact number_failsOwn _

theorem sum?_failsOwn (op : BinaryOp) (l r : Expr) : FailsOwn (sum? op l r) := by
  refine (signedNumber_failsOwn l).bind fun a ↦ (number_failsOwn r).bind fun b ↦ ?_
  split
  · exact .ok _
  · split
    next hr => exact (Number.operate_failsOwn hr).bind fun _ ↦ .ok _
    · exact .ok _
  · exact .ok _

mutual

theorem value_tame (e : Expr) : Tame (value e) := by
  unfold value
  split
  · exact .pure trivial
  · exact (values_tame _).bind fun _ _ ↦ Tame.newTuple _
  · exact (values_tame _).bind fun _ _ ↦ Tame.newList _
  · exact (values_tame _).bind fun _ _ ↦ Tame.newSet _ _
  · exact Tame.newSet _ _
  · exact (Tame.inPairs (attempts_tame _) (attempts_tame _)).bind fun _ _ ↦
      (Tame.dictEntries _).bind fun _ _ ↦ Tame.newDict _
  · refine .ite ((sum?_failsOwn _ _ _).tame.bind fun v _ ↦ ?_) (.fail trivial)
    split
    · exact .pure trivial
    · exact .fail trivial
  · exact (signedNumber_failsOwn _).tame.bind fun _ _ ↦ .pure trivial

theorem values_tame (es : List Expr) : Tame (values es) := by
  cases es with
  | nil => exact .pure trivial
  | cons e es =>
    exact (value_tame e).bind fun _ _ ↦ (values_tame es).bind fun _ _ ↦ .pure trivial

theorem attempts_tame (es : List Expr) : ∀ x ∈ attempts es, Tame x := by
  cases es with
  | nil => exact fun x hx ↦ by cases hx
  | cons e es => exact List.forall_mem_cons.mpr ⟨value_tame e, attempts_tame es⟩

end

theorem read_tame (text : String) : Tame (read text) :=
  (Expr.parse_failsOwn _ _).tame.bind fun e _ ↦ value_tame e

end Literal

namespace Chain

theorem entryOrAttribute_tame (v : Value) (name : String) : Tame (entryOrAttribute v name) := by
  refine .tryCatch (Tame.getItem v _) fun f hf ↦ .ite ((Tame.getAttr? v name).bind fun w _ ↦ ?_)
    (.throw hf)
  split
  · exact .pure trivial
  · exact .throw hf

theorem select_tame (v : Value) (link : Link) : Tame (select v link) := by
  have hnamed (name : String) : Tame (named v link.selector name) := by
    unfold named
    split
    · exact .getAttr v name
    · exact entryOrAttribute_tame v name
  unfold select
  split
  · exact .fail trivial
  · exact (hnamed _).bind fun w _ ↦ Tame.foldlM (fun w literal ↦ (Literal.read_tame literal).bind
      fun _ _ ↦ Tame.getItem w _) _ w

end Chain

/-- The value of a chain once the environment has the universal names. -/
def chainValue (env : Ref) (expression : String) : Eval Value := do
  let e ← ofExcept (Expr.parse "<string>" (withoutIndent (Chain.ofText expression).head))
  (Chain.ofText expression).links.foldlM Chain.select (← Eval.expr env e)

theorem evaluateChain_eq (env : Ref) (expression : String) :
    evaluateChain env expression = Eval.provideUniversal env >>= fun _ ↦
      chainValue env expression := by
  simp only [evaluateChain, Chain.value, evaluate, chainValue, bind_assoc]

theorem chainValue_tame (env : Ref) (expression : String) : Tame (chainValue env expression) :=
  (Expr.parse_failsOwn _ _).tame.bind fun e _ ↦ (Tame.expr env e).bind fun v _ ↦
    Tame.foldlM Chain.select_tame _ v

end VariableExplorer
