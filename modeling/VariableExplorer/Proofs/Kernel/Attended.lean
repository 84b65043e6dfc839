import Mathlib.Order.Defs.Unbundled
import VariableExplorer.Kernel.Basic
import VariableExplorer.Proofs.Value.Tame

/-!
Kernels among those who attend to them. What a host does when it is shown something, and what a
subscriber does when it is told of a change, is theirs: they act on a world of their own and on the
kernel itself, and a host may raise what it likes.
-/

namespace VariableExplorer

/-- A kernel, and the world of its hosts and subscribers. -/
structure Attended (κ W : Type) where
  kernel : Kernel κ
  world : W

namespace Attended

variable {κ W α β : Type}

abbrev Acting (κ W : Type) := StateM (Attended κ W)

instance : MonadStateOf (Kernel κ) (Acting κ W) where
  get := fun d ↦ (d.kernel, d)
  set := fun k d ↦ ((), { d with kernel := k })
  modifyGet := fun f d ↦ let (a, k) := f d.kernel; (a, { d with kernel := k })

variable {d d' : Attended κ W}

theorem run_kernel_bind (f : Kernel κ → Acting κ W α) (d : Attended κ W) :
    (getThe (Kernel κ) >>= f).run d = (f d.kernel).run d := rfl

theorem evaluating_run {x : Eval α} {r : Except Fault α} {t : Store}
    (h : x.run d.kernel.store = (r, t)) :
    (Kernel.evaluating (κ := κ) (m := Acting κ W) x).run d =
      (r, { d with kernel.store := t }) := by
  show ((x.run d.kernel.store).1, { d with kernel.store := (x.run d.kernel.store).2 }) = _
  rw [h]

/-- What a name is bound to, with the values it is called with. -/
def found (env : Ref) (name : String) (args : List Recipe) : Eval (Value × List Value) := do
  let v ← Eval.nameValue env name
  return (v, ← args.mapM id)

def call (display : Ref → Showing → Acting κ W (Except Fault Unit)) (name : String)
    (args : List Recipe) : Acting κ W (Except Fault Unit) := do
  let k : Kernel κ ← getThe (Kernel κ)
  match ← Kernel.evaluating (κ := κ) (found k.env name args) with
  | .error f => return .error f
  | .ok (v, args) =>
    let k : Kernel κ ← getThe (Kernel κ)
    match k.showing? v args with
    | some (h, toShowing, arg) =>
      match ← Kernel.evaluating (κ := κ) (Eval.plain arg) with
      | .error f => return .error f
      | .ok text => display h (toShowing text)
    | none =>
      let done ← Kernel.evaluating (κ := κ) (Eval.call k.env Eval.callDepth v args [])
      return done.map fun _ ↦ ()

theorem runCalls_cons_run (display : Ref → Showing → Acting κ W (Except Fault Unit))
    (e : String × List Recipe) (rest : List (String × List Recipe)) (d : Attended κ W) :
    (Kernel.runCalls (κ := κ) display (e :: rest)).run d =
      match (call display e.1 e.2).run d with
      | (.error f, d') => (.error f, d')
      | (.ok (), d') => (Kernel.runCalls (κ := κ) display rest).run d' := by
  rw [Kernel.runCalls, call, run_kernel_bind, run_kernel_bind]
  rcases hr : (found d.kernel.env e.1 e.2).run d.kernel.store with ⟨f | ⟨v, args⟩, t⟩ <;>
    refine (run_bind (evaluating_run hr)).trans ?_ <;> rw [run_bind (evaluating_run hr)]
  · rfl
  rw [run_kernel_bind, run_kernel_bind]
  dsimp only
  cases Kernel.showing? { d.kernel with store := t } v args with
  | none =>
    rcases hr' : (Eval.call d.kernel.env Eval.callDepth v args []).run t with ⟨f | v, t'⟩ <;>
      rw [run_bind (evaluating_run hr'), run_bind (evaluating_run hr')] <;> rfl
  | some shown =>
    obtain ⟨h, toShowing, arg⟩ := shown
    rcases hr' : (Eval.plain arg).run t with ⟨f | text, t'⟩ <;>
      rw [run_bind (evaluating_run hr'), run_bind (evaluating_run hr')]
    · rfl
    · rcases hd : (display h (toShowing text)).run
        { d with kernel.store := t' } with ⟨f | u, d'⟩ <;> exact (run_bind hd).trans rfl

/-- Does what a cell does to the shell, with these calls. -/
def performWith (calls : Acting κ W (Except Fault Unit)) (cell : Cell) :
    Acting κ W (Except Fault (Except Fault Value)) := do
  let k : Kernel κ ← getThe (Kernel κ)
  let bound ← Kernel.evaluating (κ := κ) (do
    Shell.bindAll k.env cell.bound
    cell.unbound.forM (Shell.unbind k.env))
  let ran ← match bound with
    | .error f => pure (.error f)
    | .ok () => calls
  match ran with
  | .error f => return .error f
  | .ok () => return .ok (← Kernel.evaluating (κ := κ) cell.result)

def runCellWith (tell : κ → Acting κ W Unit) (calls : Acting κ W (Except Fault Unit))
    (cell : Cell) : Acting κ W (Except Fault (Except Fault Value)) := do
  let k : Kernel κ ← getThe (Kernel κ)
  match ← performWith calls cell with
  | .error f => return .error f
  | .ok result =>
    if k.reporting then Kernel.notify tell
    return .ok result

def runCell (tell : κ → Acting κ W Unit) (display : Ref → Showing → Acting κ W (Except Fault Unit))
    (cell : Cell) : Acting κ W (Except Fault (Except Fault Value)) :=
  runCellWith tell (Kernel.runCalls (κ := κ) display cell.calls) cell

/-- How what there is after a computation stands to what there was before it. -/
def Along (R : Attended κ W → Attended κ W → Prop) (x : Acting κ W α) : Prop :=
  ∀ d, R d (x.run d).2

namespace Along

variable {R : Attended κ W → Attended κ W → Prop}

theorem get {f : Kernel κ → Acting κ W α} (hf : ∀ k, Along R (f k)) :
    Along R (getThe (Kernel κ) >>= f) := fun d ↦ hf d.kernel d

variable [IsPreorder (Attended κ W) R]

theorem pure (a : α) : Along R (Pure.pure a) := fun d ↦ Std.Refl.refl d

theorem bind {x : Acting κ W α} {f : α → Acting κ W β} (hx : Along R x) (hf : ∀ a, Along R (f a)) :
    Along R (x >>= f) := fun d ↦ IsTrans.trans _ _ _ (hx d) (hf _ _)

theorem forM {f : α → Acting κ W PUnit} (hf : ∀ a, Along R (f a)) (as : List α) :
    Along R (as.forM f) :=
  Composed.forM (m := Acting κ W) (P := Along R) ⟨pure, bind⟩ fun a _ ↦ hf a

theorem notify {tell : κ → Acting κ W Unit} (htell : ∀ c, Along R (tell c)) :
    Along R (Kernel.notify tell) := get fun _ ↦ forM htell _

theorem call {P : {α : Type} → Eval α → Prop}
    (hmade : ∀ {α : Type} {x : Eval α}, P x → Along R (Kernel.evaluating (κ := κ) x))
    (hplain : ∀ v, P (Eval.plain v))
    (hcall : ∀ env v args, P (Eval.call env Eval.callDepth v args []))
    {display : Ref → Showing → Acting κ W (Except Fault Unit)}
    (hdisplay : ∀ h s, Along R (display h s)) {name : String} {args : List Recipe}
    (hargs : ∀ env, P (found env name args)) : Along R (call display name args) := by
  refine get fun k ↦ bind (hmade (hargs k.env)) fun found ↦ ?_
  cases found with
  | error f => exact pure _
  | ok found =>
    refine get fun k ↦ ?_
    split
    · refine bind (hmade (hplain _)) fun text ↦ ?_
      cases text with
      | error f => exact pure _
      | ok text => exact hdisplay _ _
    · exact bind (hmade (hcall _ _ _)) fun _ ↦ pure _

theorem runCalls {display : Ref → Showing → Acting κ W (Except Fault Unit)}
    {calls : List (String × List Recipe)}
    (hcall : ∀ e ∈ calls, Along R (Attended.call display e.1 e.2)) :
    Along R (Kernel.runCalls (κ := κ) display calls) := by
  induction calls with
  | nil => exact pure _
  | cons e rest ih =>
    obtain ⟨hfirst, hrest⟩ := List.forall_mem_cons.mp hcall
    intro d
    have hd := hfirst d
    rw [runCalls_cons_run]
    rcases hr : (Attended.call display e.1 e.2).run d with ⟨f | u, d'⟩ <;> rw [hr] at hd
    · exact hd
    · exact IsTrans.trans _ _ _ hd (ih hrest d')

theorem performWith {calls : Acting κ W (Except Fault Unit)} {cell : Cell}
    (hbound : ∀ env, Along R (Kernel.evaluating (κ := κ) (do
      Shell.bindAll env cell.bound
      cell.unbound.forM (Shell.unbind env))))
    (hcalls : Along R calls) (hresult : Along R (Kernel.evaluating (κ := κ) cell.result)) :
    Along R (Attended.performWith calls cell) := by
  refine get fun k ↦ bind (hbound _) fun bound ↦ ?_
  extract_lets goOn
  have hgoOn (ran : Except Fault Unit) : Along R (goOn ran) := by
    cases ran with
    | error f => exact pure _
    | ok u => exact bind hresult fun _ ↦ pure _
  cases bound with
  | error f => exact bind (pure _) hgoOn
  | ok u => exact bind hcalls hgoOn

theorem runCellWith {tell : κ → Acting κ W Unit} (htell : ∀ c, Along R (tell c))
    {calls : Acting κ W (Except Fault Unit)} {cell : Cell}
    (hperformed : Along R (Attended.performWith calls cell)) :
    Along R (Attended.runCellWith tell calls cell) := by
  refine get fun k ↦ bind hperformed fun performed ↦ ?_
  cases performed with
  | error f => exact pure _
  | ok result =>
    dsimp only
    split
    · exact bind (notify htell) fun _ ↦ pure _
    · exact pure _

end Along

variable {tell : κ → Acting κ W Unit} {display : Ref → Showing → Acting κ W (Except Fault Unit)}

theorem execute_run (code : String) (tag : Option String) (cell : Cell) (d : Attended κ W) :
    (Kernel.execute tell display code tag cell).run d =
      match (runCell tell display cell).run d with
      | (.error f, d') => (.error f, d')
      | (.ok result, d') => (Kernel.conclude (κ := κ) display code tag cell result).run d' := by
  rw [Kernel.execute, runCell, runCellWith, run_kernel_bind, run_kernel_bind]
  rcases hr : (Kernel.perform (κ := κ) display cell).run d with ⟨f | result, d'⟩ <;>
    rw [run_bind hr, run_bind (x := performWith _ _) hr]
  · rfl
  · dsimp only
    split <;> rfl

end Attended

end VariableExplorer
