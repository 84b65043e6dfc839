import Mathlib.Data.List.Basic
import VariableExplorer.Proofs.Value.Tame

/-!
Values that are settled: their object and their classes are there. What is found of such a value
along its classes is found in every store that has grown from this one, and a computation that
reads no more than that gives the same result in all of them.
-/

namespace VariableExplorer

open Eval

namespace Store

variable {s t : Store} {v : Value}

/-- The object of a value is there, and so are all classes that it derives from. -/
structure Settled (s : Store) (v : Value) : Prop where
  object : ∀ r, v = .ref r → (s.get? r).isSome = true
  classes : ∀ r, .made r ∈ s.lineage (s.classOf v) → (s.classDef? (.made r)).isSome = true

theorem Keeps.classDef? (ht : s.Keeps t) {c : ClassRef} {d : ClassDef}
    (h : s.classDef? c = some d) : t.classDef? c = some d := by
  cases c with
  | native => cases h
  | made r =>
    simp only [Store.classDef?] at h ⊢
    split at h
    next hr => rw [ht r _ hr]; exact h
    · cases h

namespace Settled

section

variable (h : s.Settled v) (ht : s.Keeps t)

include h ht

theorem get?_eq {r : Ref} (hr : v = .ref r) : t.get? r = s.get? r := by
  obtain ⟨o, ho⟩ := Option.isSome_iff_exists.mp (h.object r hr)
  rw [ho, ht r o ho]

theorem object?_eq : t.object? v = s.object? v := by
  cases v with
  | ref r => simp only [object?, h.get?_eq ht rfl]
  | _ => rfl

theorem body_eq : t.body v = s.body v := by
  cases v with
  | ref r => simp only [body, h.get?_eq ht rfl]
  | _ => rfl

theorem classOf_eq : t.classOf v = s.classOf v := by
  cases v with
  | ref r => simp only [classOf, h.get?_eq ht rfl]
  | descriptor owner name entry => cases entry <;> rfl
  | _ => rfl

theorem asClass?_eq : t.asClass? v = s.asClass? v := by
  cases v with
  | ref r =>
    have hdef : t.classDef? (.made r) = s.classDef? (.made r) := by
      simp only [classDef?, h.get?_eq ht rfl]
    simp only [asClass?, hdef]
  | _ => rfl

theorem classDef?_eq {c : ClassRef} (hc : c ∈ s.lineage (s.classOf v)) :
    t.classDef? c = s.classDef? c := by
  cases c with
  | native => rfl
  | made r =>
    obtain ⟨d, hd⟩ := Option.isSome_iff_exists.mp (h.classes r hc)
    rw [hd, ht.classDef? hd]

theorem lineage_eq : t.lineage (t.classOf v) = s.lineage (s.classOf v) := by
  rw [h.classOf_eq ht]
  have hself := h.classDef?_eq ht (c := s.classOf v)
  cases hc : s.classOf v with
  | native => rfl
  | made r =>
    rw [hc] at hself
    simp only [lineage, hself (by simp [lineage])]

theorem findSome?_eq {α : Type} {f g : ClassRef → Option α}
    (hfg : ∀ c, t.classDef? c = s.classDef? c → f c = g c) :
    (t.lineage (t.classOf v)).findSome? f = (s.lineage (s.classOf v)).findSome? g := by
  rw [h.lineage_eq ht, ← List.head?_filterMap, ← List.head?_filterMap,
    List.filterMap_congr fun c hc ↦ hfg c (h.classDef?_eq ht hc)]

theorem found?_eq (name : String) :
    t.found? (t.classOf v) name = s.found? (s.classOf v) name :=
  h.findSome?_eq ht fun c hc ↦ by cases c <;> simp only [hc]

theorem ofMade?_eq (name : String) :
    t.ofMade? (t.classOf v) name = s.ofMade? (s.classOf v) name :=
  h.findSome?_eq ht fun c hc ↦ by simp only [hc]

theorem isKind_eq (names : List String) : t.isKind v names = s.isKind v names := by
  simp only [isKind, derives, h.lineage_eq ht]

theorem keeps : t.Settled v := by
  refine ⟨fun r hr ↦ ?_, fun r hr ↦ ?_⟩
  · rw [h.get?_eq ht hr]
    exact h.object r hr
  · rw [h.lineage_eq ht] at hr
    rw [h.classDef?_eq ht hr]
    exact h.classes r hr

end

end Settled

end Store

namespace Eval

variable {α β : Type} {s t u : Store} {x : Eval α} {a : α}

/-- In every store that has grown from this one, the computation gives this result and only adds
to the store. -/
def Gives (s : Store) (x : Eval α) (a : α) : Prop :=
  ∀ t, s.Keeps t → ∃ u, x.run t = (.ok a, u) ∧ t.Keeps u

namespace Gives

theorem pure (s : Store) (a : α) : Gives s (Pure.pure a) a := fun t _ ↦ ⟨t, rfl, .refl t⟩

theorem keeps (h : Gives s x a) (hk : s.Keeps t) : Gives t x a :=
  fun u hu ↦ h u (hk.trans hu)

theorem of_run (h : ∀ t, s.Keeps t → x.run t = (.ok a, t)) : Gives s x a :=
  fun t ht ↦ ⟨t, h t ht, .refl t⟩

theorem bind {f : α → Eval β} {b : β} (hx : Gives s x a) (hf : Gives s (f a) b) :
    Gives s (x >>= f) b := by
  intro t ht
  obtain ⟨u, hu, hk⟩ := hx t ht
  obtain ⟨w, hw, hk'⟩ := hf u (ht.trans hk)
  exact ⟨w, by rw [run_bind_of_ok hu, hw], hk.trans hk'⟩

theorem get {f : Store → Eval α} (h : ∀ t, s.Keeps t → Gives t (f t) a) :
    Gives s (MonadState.get >>= f) a := fun t ht ↦ h t ht t (.refl t)

theorem tryCatch {h : Fault → Eval α} (hx : Gives s x a) : Gives s (MonadExcept.tryCatch x h) a := by
  intro t ht
  obtain ⟨u, hu, hk⟩ := hx t ht
  exact ⟨u, run_tryCatch_of_ok hu, hk⟩

theorem rest {f : α → Eval β} {r : Except Fault β × Store} (h : Gives s x a) (hk : s.Keeps t)
    (hrun : (x >>= f).run t = r) : ∃ u, s.Keeps u ∧ (f a).run u = r := by
  obtain ⟨u, hu, hk'⟩ := h t hk
  rw [run_bind_of_ok hu] at hrun
  exact ⟨u, hk.trans hk', hrun⟩

theorem eq {b : α} (h : Gives s x a) (hk : s.Keeps t) (hrun : x.run t = (.ok b, u)) : b = a := by
  obtain ⟨w, hw, -⟩ := h t hk
  rw [hrun] at hw
  cases hw
  rfl

end Gives

end Eval

end VariableExplorer
