import Mathlib.Logic.Function.Basic
import VariableExplorer.Value.Fault

/-!
Computations with a state, of which some may fail: what a run of several steps comes to, given how
the first of them ends; and what there is of several threads' work when one of them has gone on.
-/

namespace VariableExplorer

/-- A property that whatever is composed of computations has as soon as these have it. -/
structure Composed (m : Type → Type) [Monad m] (P : {α : Type} → m α → Prop) : Prop where
  pure : ∀ {α : Type} (a : α), P (Pure.pure a)
  bind : ∀ {α β : Type} {x : m α} {f : α → m β}, P x → (∀ a, P (f a)) → P (x >>= f)

theorem Composed.forM {m : Type → Type} [Monad m] {P : {α : Type} → m α → Prop}
    (h : Composed m P) {α : Type} {f : α → m PUnit} {as : List α} (hf : ∀ a ∈ as, P (f a)) :
    P (as.forM f) := by
  induction as with
  | nil => exact h.pure _
  | cons a as ih =>
    obtain ⟨ha, has⟩ := List.forall_mem_cons.mp hf
    exact h.bind ha fun _ ↦ ih has

variable {σ ε α β : Type}

theorem run_bind {x : StateM σ α} {f : α → StateM σ β} {a : α} {s t : σ}
    (h : x.run s = (a, t)) : (x >>= f).run s = (f a).run t := by
  show (f (x.run s).1).run (x.run s).2 = _
  rw [h]

theorem run_mapM_cons (f : α → StateM σ β) (a : α) (as : List α) (s : σ) :
    ((a :: as).mapM f).run s = (((f a).run s).1 :: ((as.mapM f).run ((f a).run s).2).1,
      ((as.mapM f).run ((f a).run s).2).2) := by
  rw [List.mapM_cons]
  rfl

/-- A computation leaves a part of the state as it is. -/
def Leaves {τ : Type} (view : σ → τ) (x : StateM σ α) : Prop := ∀ s, view (x.run s).2 = view s

namespace Leaves

variable {τ : Type} {view : σ → τ}

theorem pure (a : α) : Leaves view (Pure.pure a : StateM σ α) := fun _ ↦ rfl

theorem bind {x : StateM σ α} {f : α → StateM σ β} (hx : Leaves view x)
    (hf : ∀ a, Leaves view (f a)) : Leaves view (x >>= f) :=
  fun s ↦ (hf (x.run s).1 (x.run s).2).trans (hx s)

theorem composed : Composed (StateM σ) (Leaves view) := ⟨pure, bind⟩

theorem forM {f : α → StateM σ PUnit} (hf : ∀ a, Leaves view (f a)) (as : List α) :
    Leaves view (as.forM f) := composed.forM fun a _ ↦ hf a

end Leaves

section

variable {x : ExceptT ε (StateM σ) α} {s t : σ} {a : α} {e : ε}

theorem run_bind_of_ok {f : α → ExceptT ε (StateM σ) β} (h : x.run s = (.ok a, t)) :
    (x >>= f).run s = (f a).run t := by
  show (ExceptT.bindCont f (x.run s).1).run (x.run s).2 = _
  rw [h]
  rfl

theorem run_bind_of_error {f : α → ExceptT ε (StateM σ) β} (h : x.run s = (.error e, t)) :
    (x >>= f).run s = (.error e, t) := by
  show (ExceptT.bindCont f (x.run s).1).run (x.run s).2 = _
  rw [h]
  rfl

theorem run_bind_eq_ok {f : α → ExceptT ε (StateM σ) β} {u : σ} {b : β}
    (h : (x >>= f).run s = (.ok b, u)) :
    ∃ a t, x.run s = (.ok a, t) ∧ (f a).run t = (.ok b, u) := by
  rcases hr : x.run s with ⟨r, t⟩
  cases r with
  | error e =>
    rw [run_bind_of_error hr] at h
    cases h
  | ok a =>
    rw [run_bind_of_ok hr] at h
    exact ⟨a, t, rfl, h⟩

theorem run_map_of_ok {f : α → β} (h : x.run s = (.ok a, t)) :
    (f <$> x).run s = (.ok (f a), t) := by
  rw [← bind_pure_comp, run_bind_of_ok h]
  rfl

theorem run_map_of_error {f : α → β} (h : x.run s = (.error e, t)) :
    (f <$> x).run s = (.error e, t) := by
  rw [← bind_pure_comp, run_bind_of_error h]

theorem run_tryCatch_of_ok {h : ε → ExceptT ε (StateM σ) α} (hx : x.run s = (.ok a, t)) :
    (tryCatch x h).run s = (.ok a, t) := by
  rw [ExceptT.run_tryCatch]
  show (StateT.bind x.run _) s = _
  simp only [StateT.bind, hx]
  rfl

theorem run_tryCatch_of_error {h : ε → ExceptT ε (StateM σ) α} (hx : x.run s = (.error e, t)) :
    (tryCatch x h).run s = (h e).run t := by
  rw [ExceptT.run_tryCatch]
  show (StateT.bind x.run _) s = _
  simp only [StateT.bind, hx]
  rfl

theorem run_attempt {r : Except ε α} (hx : x.run s = (r, t)) :
    (tryCatch (Except.ok <$> x) fun e ↦ pure (.error e)).run s = (.ok r, t) := by
  cases r with
  | error e =>
    rw [run_tryCatch_of_error (run_map_of_error hx)]
    rfl
  | ok a => exact run_tryCatch_of_ok (run_map_of_ok hx)

theorem run_tryFinally {f : ExceptT ε (StateM σ) β} {r : Except ε α} {b : β} {u : σ}
    (hx : x.run s = (r, t)) (hf : f.run t = (.ok b, u)) : (tryFinally x f).run s = (r, u) := by
  have hx : x s = (r, t) := hx
  have hf : f t = (.ok b, u) := hf
  simp only [tryFinally, tryFinally', ExceptT.run, bind, ExceptT.mk, StateT.bind, Functor.map,
    ExceptT.map, hx]
  cases r <;> simp only [hf] <;> rfl

end

/-- What holds of a state goes on to hold, whether or not the computation fails. -/
def Maintains (I : σ → Prop) (x : ExceptT ε (StateM σ) α) : Prop := ∀ s, I s → I (x.run s).2

namespace Maintains

variable {I : σ → Prop}

theorem of_run {x : ExceptT ε (StateM σ) α} (h : Maintains I x) {s t : σ} {r : Except ε α}
    (hs : I s) (hrun : x.run s = (r, t)) : I t := by
  have ht := h s hs
  rwa [hrun] at ht

theorem pure (a : α) : Maintains I (Pure.pure a : ExceptT ε (StateM σ) α) := fun _ hs ↦ hs

theorem bind {x : ExceptT ε (StateM σ) α} {f : α → ExceptT ε (StateM σ) β} (hx : Maintains I x)
    (hf : ∀ a, Maintains I (f a)) : Maintains I (x >>= f) := by
  intro s hs
  rcases hr : x.run s with ⟨r, t⟩
  have ht : I t := hx.of_run hs hr
  cases r with
  | error e => rwa [run_bind_of_error hr]
  | ok a =>
    rw [run_bind_of_ok hr]
    exact hf a t ht

theorem composed : Composed (ExceptT ε (StateM σ)) (Maintains I) := ⟨pure, bind⟩

theorem forM {f : α → ExceptT ε (StateM σ) PUnit} {as : List α}
    (hf : ∀ a ∈ as, Maintains I (f a)) : Maintains I (as.forM f) := composed.forM hf

end Maintains

theorem run_guarded {x : ExceptT Fault (StateM σ) Unit} {s t : σ} {r : Except Fault Unit}
    (hx : x.run s = (r, t)) (hr : ∀ f, r = .error f → f.isOrdinary = true) :
    (tryCatch x fun f ↦ if f.isOrdinary then return () else throw f).run s = (.ok (), t) := by
  cases r with
  | ok => exact run_tryCatch_of_ok hx
  | error f =>
    rw [run_tryCatch_of_error hx, if_pos (hr f rfl)]
    rfl

theorem run_forM_guarded {f : α → ExceptT Fault (StateM σ) Unit}
    (hf : ∀ a s e, ((f a).run s).1 = .error e → e.isOrdinary = true) (as : List α) (s : σ) :
    (as.forM fun a ↦ tryCatch (f a) fun e ↦ if e.isOrdinary then return () else throw e).run s =
      (.ok (), as.foldl (fun s a ↦ ((f a).run s).2) s) := by
  induction as generalizing s with
  | nil => rfl
  | cons a as ih =>
    have hcall := run_guarded (x := f a) (s := s) rfl (hf a s)
    exact (run_bind_of_ok hcall).trans (ih _)

section

open Function

variable {f : Nat → List α} {t : Nat} {as : List α}

theorem mem_of_mem_update {u : Nat} {a : α} (h : a ∈ update f t as u) : a ∈ as ∨ a ∈ f u := by
  by_cases hu : u = t
  · subst hu; exact .inl (by simpa only [update_self] using h)
  · exact .inr (by simpa only [update_of_ne hu] using h)

theorem forall_update {p : α → Prop} (hf : ∀ u, ∀ a ∈ f u, p a) (has : ∀ a ∈ as, p a) (u : Nat) :
    ∀ a ∈ update f t as u, p a :=
  fun a ha ↦ (mem_of_mem_update ha).elim (has a) (hf u a)

end

end VariableExplorer
