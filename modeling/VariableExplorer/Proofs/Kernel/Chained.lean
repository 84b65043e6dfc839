import VariableExplorer.Kernel.Basic
import VariableExplorer.Proofs.Expression.Calling

/-!
What is done at a kernel one step after the other, up to the first that fails. The calls of a cell
have whatever each such step has and passes on to what follows it, and so has the record of a cell.
-/

namespace VariableExplorer.Kernel

open Eval

/-- A property of what is done at a kernel that goes on from each step to what follows it. A step
that fails is the last one. -/
structure Chained (κ : Type) (m : Type → Type) [Monad m] [MonadStateOf (Kernel κ) m]
    (P : {α : Type} → m (Except Fault α) → Prop) : Prop where
  done : ∀ {α : Type} (a : α), P (pure (.ok a))
  bind : ∀ {α β : Type} {x : m (Except Fault α)} {f : Except Fault α → m (Except Fault β)}, P x →
    (∀ e, f (.error e) = pure (.error e)) → (∀ a, P (f (.ok a))) → P (x >>= f)
  get : ∀ {α : Type} {f : Kernel κ → m (Except Fault α)}, (∀ k, P (f k)) →
    P (getThe (Kernel κ) >>= f)
  evaluate : ∀ {α : Type} {x : Eval α}, x.Tame → P (evaluating (κ := κ) x)
  record : ∀ e : HistoryEntry,
    P (modifyThe (Kernel κ) (fun k ↦ { k with history := k.history ++ [e] }) >>= fun _ ↦
      pure (.ok e))

namespace Chained

variable {κ : Type} {m : Type → Type} [Monad m] [LawfulMonad m] [MonadStateOf (Kernel κ) m]
  {P : {α : Type} → m (Except Fault α) → Prop}
  {display : Ref → Showing → m (Except Fault Unit)}

theorem runCalls (h : Chained κ m P) (hdisplay : ∀ host s, P (display host s))
    {calls : List (String × List Recipe)} (hargs : ∀ e ∈ calls, ∀ r ∈ e.2, Tame r) :
    P (Kernel.runCalls (κ := κ) display calls) := by
  induction calls with
  | nil => exact h.done ()
  | cons e rest ih =>
    obtain ⟨hfirst, hrest⟩ := List.forall_mem_cons.mp hargs
    refine h.get fun k ↦ h.bind (h.evaluate ?_) (fun _ ↦ rfl) fun found ↦ h.get fun k ↦ ?_
    · exact (Tame.nameValue _ _).bind fun v _ ↦ (Yields.mapM hfirst).bind fun _ _ ↦ .pure trivial
    extract_lets goOn
    have hgoOn : P (goOn (.ok ())) := ih hrest
    split
    · refine h.bind (h.evaluate (Tame.plain _)) (fun _ ↦ pure_bind ..) fun text ↦ ?_
      exact h.bind (hdisplay _ _) (fun _ ↦ rfl) fun _ ↦ hgoOn
    · refine h.bind (h.evaluate (Tame.call _ _ _ _ _)) (fun _ ↦ pure_bind ..) fun v ↦ ?_
      exact (pure_bind (Except.ok ()) goOn).symm ▸ hgoOn

theorem conclude (h : Chained κ m P) (hdisplay : ∀ host s, P (display host s)) (code : String)
    (tag : Option String) (cell : Cell) {result : Except Fault Value}
    (hresult : ∀ f, result = .error f → P (pure (.error f) : m (Except Fault HistoryEntry))) :
    P (Kernel.conclude (κ := κ) display code tag cell result) := by
  unfold Kernel.conclude
  extract_lets goOn
  have hgoOn (shown : Option String) : P (goOn (.ok shown)) := by
    refine h.get fun k ↦ ?_
    extract_lets finish
    have hfinish : P (finish (.ok ())) := h.record _
    split
    · exact h.bind (hdisplay _ _) (fun _ ↦ rfl) fun _ ↦ hfinish
    · exact (pure_bind (Except.ok ()) finish).symm ▸ hfinish
  split
  next f => exact (pure_bind (Except.error f) goOn).symm ▸ hresult f rfl
  next => exact (pure_bind (Except.ok none) goOn).symm ▸ hgoOn none
  next v _ =>
    have hshown : Tame (some <$> Eval.shown v) := (Tame.shown v).map fun _ _ ↦ trivial
    exact h.bind (h.evaluate hshown) (fun _ ↦ rfl) hgoOn

end Chained

end VariableExplorer.Kernel
