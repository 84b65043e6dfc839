import VariableExplorer.Kernel.Desk
import VariableExplorer.Proofs.Kernel.Chained
import VariableExplorer.Proofs.Kernel.Namespace

/-!
Work on a desk before everyone is told of it and after. It may bind and unbind names, and it does
not touch the replica; once everyone has been told it only adds to the store.
-/

namespace VariableExplorer

open Eval

/-- What a cell binds, gives to calls and results in only adds to the store. -/
structure Cell.Tame (c : Cell) : Prop where
  bound : ∀ e ∈ c.bound, Eval.Tame e.2
  args : ∀ e ∈ c.calls, ∀ r ∈ e.2, Eval.Tame r
  result : Eval.Tame c.result

namespace Desk

/-- What a desk keeps while it is worked at. The shell may have changed, but it still is one. -/
structure Worked (d d' : Desk) : Prop where
  env : d'.kernel.env = d.kernel.env
  closed : d'.kernel.closed = d.kernel.closed
  reporting : d'.kernel.reporting = d.kernel.reporting
  subscribers : d'.kernel.subscribers = d.kernel.subscribers
  workspace : d'.workspace = d.workspace
  sound : Shell.Sound d.kernel.env d.kernel.store → Shell.Sound d.kernel.env d'.kernel.store

/-- What a desk keeps besides while the store is only added to. -/
structure Added (d d' : Desk) : Prop extends Worked d d' where
  adds : d.kernel.store.Civil → d.kernel.store.Keeps d'.kernel.store ∧ d'.kernel.store.Civil

variable {α β : Type} {d d' d'' : Desk}

theorem run_desk_bind (f : Desk → Acting α) (d : Desk) :
    (getThe Desk >>= f).run d = (f d).run d := rfl

theorem run_kernel_bind (f : Kernel Watcher → Acting α) (d : Desk) :
    (getThe (Kernel Watcher) >>= f).run d = (f d.kernel).run d := rfl

theorem evaluating_run {x : Eval α} {r : Except Fault α} {t : Store}
    (h : x.run d.kernel.store = (r, t)) :
    (Kernel.evaluating (κ := Watcher) (m := Acting) x).run d =
      (r, { d with kernel.store := t }) := by
  show ((x.run d.kernel.store).1, { d with kernel.store := (x.run d.kernel.store).2 }) = _
  rw [h]

theorem Worked.trans (h : Worked d d') (h' : Worked d' d'') : Worked d d'' where
  env := h'.env.trans h.env
  closed := h'.closed.trans h.closed
  reporting := h'.reporting.trans h.reporting
  subscribers := h'.subscribers.trans h.subscribers
  workspace := h'.workspace.trans h.workspace
  sound hs := h.env ▸ h'.sound (h.env.symm ▸ h.sound hs)

theorem Added.refl (d : Desk) : Added d d where
  env := rfl
  closed := rfl
  reporting := rfl
  subscribers := rfl
  workspace := rfl
  sound := id
  adds hs := ⟨.refl _, hs⟩

theorem Added.trans (h : Added d d') (h' : Added d' d'') : Added d d'' where
  toWorked := h.toWorked.trans h'.toWorked
  adds hs :=
    have ⟨hkeeps, hcivil⟩ := h.adds hs
    have ⟨hkeeps', hcivil'⟩ := h'.adds hcivil
    ⟨hkeeps.trans hkeeps', hcivil'⟩

theorem evaluating_worked {x : Eval α} (h : Upholds d.kernel.env x) :
    Worked d ((Kernel.evaluating (κ := Watcher) (m := Acting) x).run d).2 where
  env := rfl
  closed := rfl
  reporting := rfl
  subscribers := rfl
  workspace := rfl
  sound := h d.kernel.store

def Adds (x : Acting α) : Prop := ∀ d, Added d (x.run d).2

namespace Adds

theorem pure (a : α) : Adds (Pure.pure a) := .refl

theorem bind {x : Acting α} {f : α → Acting β} (hx : Adds x) (hf : ∀ a, Adds (f a)) :
    Adds (x >>= f) := fun d ↦ (hx d).trans (hf _ _)

theorem get {f : Kernel Watcher → Acting α} (hf : ∀ k, Adds (f k)) :
    Adds (getThe (Kernel Watcher) >>= f) := fun d ↦ hf d.kernel d

theorem evaluating {x : Eval α} (h : Eval.Tame x) :
    Adds (Kernel.evaluating (κ := Watcher) x) := fun _ ↦
  { evaluating_worked h.upholds with
    adds := fun hs ↦ ⟨(h _ hs).keeps, (h _ hs).civil⟩ }

theorem record (e : Event) : Adds (record e) := fun d ↦ { Added.refl d with }

theorem display (h : Ref) (s : Showing) : Adds (display h s) := (record _).bind fun _ ↦ pure _

theorem chained : Kernel.Chained Watcher Acting fun x ↦ Adds x where
  done _ := pure _
  bind {_ _ _ f} hx hfails hf := bind hx fun r ↦ by
    cases r with
    | error e => exact (hfails e).symm ▸ pure _
    | ok a => exact hf a
  get := get
  evaluate := evaluating
  record _ d := { Added.refl d with }

end Adds

theorem Worked.bind {x : Acting α} {f : α → Acting β} (hx : Worked d (x.run d).2)
    (hf : ∀ a, Adds (f a)) : Worked d ((x >>= f).run d).2 := hx.trans (hf _ _).toWorked

theorem Worked.get {f : Kernel Watcher → Acting α} (h : Worked d ((f d.kernel).run d).2) :
    Worked d ((getThe (Kernel Watcher) >>= f).run d).2 := h

theorem perform_worked {cell : Cell} (h : cell.Tame) (d : Desk) :
    Worked d ((Kernel.perform (κ := Watcher) display cell).run d).2 := by
  refine .get (.bind (evaluating_worked ?_) fun bound ↦ ?_)
  · exact .bind (Shell.bindAll_upholds h.bound) fun _ ↦ .forM (Shell.unbind_upholds ·) _
  extract_lets goOn
  have hgoOn (ran : Except Fault Unit) : Adds (goOn ran) := by
    cases ran with
    | error f => exact .pure _
    | ok u => exact (Adds.evaluating h.result).bind fun _ ↦ .pure _
  cases bound with
  | error f => exact (Adds.pure _).bind hgoOn
  | ok u => exact (Adds.chained.runCalls Adds.display h.args).bind hgoOn

end Desk

end VariableExplorer
