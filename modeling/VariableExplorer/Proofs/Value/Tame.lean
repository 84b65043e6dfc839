import VariableExplorer.Proofs.Running
import VariableExplorer.Value.Attribute

/-!
Computations that only add to the store. Whatever is read of a value, its special methods included,
leaves the objects there as they are and fails ordinarily, as long as the special methods do.
-/

namespace VariableExplorer

namespace Fault

/-- The classes of the failures of evaluation itself. -/
def ownKinds : List String := [
  "NameError", "AttributeError", "KeyError", "IndexError", "TypeError", "ValueError",
  "ZeroDivisionError", "IndentationError", "SyntaxError", "RecursionError", "OverflowError"]

/-- A failure that no special method has raised. -/
def IsOwn : Fault → Prop
  | raised kind _ => kind ∈ ownKinds
  | _ => True

theorem kind_mem_of_isOwn {f : Fault} (h : f.IsOwn) : f.kind ∈ ownKinds := by
  cases f with
  | notAnExpression reason _ _ => cases reason <;> simp [kind, ownKinds]
  | raised kind text => exact h
  | _ => simp [kind, ownKinds]

theorem isOrdinary_eq (f : Fault) : f.isOrdinary = (raised f.kind none).isOrdinary := rfl

theorem isOrdinary_of_isOwn {f : Fault} (h : f.IsOwn) : f.isOrdinary = true := by
  have hall : ∀ k ∈ ownKinds, (raised k none).isOrdinary = true := by decide +kernel
  rw [isOrdinary_eq]
  exact hall f.kind (kind_mem_of_isOwn h)

end Fault

def ClassEntry.Civil (e : ClassEntry) : Prop :=
  ∀ f, e = .special (.error f) ∨ e = .property (.error f) → f.isOrdinary = true

namespace Store

/-- Every object is there as it was. -/
def Keeps (s t : Store) : Prop := ∀ r o, s.get? r = some o → t.get? r = some o

theorem Keeps.refl (s : Store) : s.Keeps s := fun _ _ h ↦ h

theorem Keeps.trans {s t u : Store} (h : s.Keeps t) (h' : t.Keeps u) : s.Keeps u :=
  fun r o hr ↦ h' r o (h r o hr)

/-- No special method raises a request to stop the program. -/
def Civil (s : Store) : Prop :=
  ∀ r o d, s.get? r = some o → o.body = .classDef d → ∀ e ∈ d.entries, e.2.Civil

theorem get?_alloc {s : Store} {o : Object} {r : Ref} :
    (s.alloc o).1.get? r = if r = s.objects.size then some o else s.get? r := by
  simp only [alloc, get?, Array.getElem?_push]

theorem get?_eq_some_lt {s : Store} {r : Ref} {o : Object} (h : s.get? r = some o) :
    r < s.objects.size := (Array.getElem?_eq_some_iff.mp h).1

theorem keeps_alloc (s : Store) (o : Object) : s.Keeps (s.alloc o).1 := by
  intro r o' h
  rw [get?_alloc, if_neg (Nat.ne_of_lt (get?_eq_some_lt h))]
  exact h

theorem Civil.alloc {s : Store} (hs : s.Civil) {o : Object}
    (ho : ∀ d, o.body = .classDef d → ∀ e ∈ d.entries, e.2.Civil) : (s.alloc o).1.Civil := by
  intro r o' d h
  rw [get?_alloc] at h
  split at h
  · cases h; exact ho d
  · exact hs r o' d h

theorem get?_set {s : Store} {r r' : Ref} {o : Object} :
    (s.set r o).get? r' = if r = r' ∧ r < s.objects.size then some o else s.get? r' := by
  simp only [set, get?, Array.getElem?_setIfInBounds]
  by_cases h : r = r'
  · subst h
    by_cases hr : r < s.objects.size
    · simp [hr]
    · simp [hr]
  · simp [h]

theorem Civil.set {s : Store} (hs : s.Civil) {r : Ref} {o : Object}
    (ho : ∀ d, o.body = .classDef d → ∀ e ∈ d.entries, e.2.Civil) : (s.set r o).Civil := by
  intro r' o' d hr' hd
  rw [get?_set] at hr'
  split at hr'
  · cases hr'
    exact ho d hd
  · exact hs r' o' d hr' hd

theorem Civil.classDef? {s : Store} (hs : s.Civil) {c : ClassRef} {d : ClassDef}
    (h : s.classDef? c = some d) {name : String} {e : ClassEntry}
    (he : d.entries.lookup name = some e) : e.Civil := by
  cases c with
  | native => cases h
  | made r =>
    simp only [Store.classDef?] at h
    split at h
    next hr =>
      cases h
      obtain ⟨l₁, l₂, hl, -⟩ := List.lookup_eq_some_iff.mp he
      exact hs r _ _ hr rfl (name, e) (by simp [hl])
    · cases h

theorem Civil.ofMade? {s : Store} (hs : s.Civil) {c : ClassRef} {name : String} {e : ClassEntry}
    (h : s.ofMade? c name = some e) : e.Civil := by
  obtain ⟨a, -, ha⟩ := List.exists_of_findSome?_eq_some h
  obtain ⟨d, hd, he⟩ := Option.bind_eq_some_iff.mp ha
  exact hs.classDef? hd he

end Store

namespace Eval

variable {α β : Type} {P : α → Prop} {Q : β → Prop}

theorem run_transient (x : Eval α) (s : Store) : (transient x).run s = ((x.run s).1, s) := rfl

theorem run_transient_eq_ok {x : Eval α} {s t : Store} {a : α}
    (h : (transient x).run s = (.ok a, t)) : t = s ∧ ∃ u, x.run s = (.ok a, u) := by
  rw [run_transient] at h
  obtain ⟨hresult, rfl⟩ := Prod.mk.inj h
  exact ⟨rfl, _, Prod.ext hresult rfl⟩

theorem run_get_bind (f : Store → Eval α) (s : Store) : (get >>= f).run s = (f s).run s := rfl

theorem run_handle_of_ok {x : Eval α} {h : Fault → Eval α} {s t : Store} {a : α}
    (hx : x.run s = (.ok a, t)) : (handle x h).run s = (.ok a, t) := run_tryCatch_of_ok hx

/-- How a computation ends that starts in a store: it has kept what was there, and it has a result
of some kind or an ordinary failure. -/
structure Ends (P : α → Prop) (s : Store) (r : Except Fault α × Store) : Prop where
  keeps : s.Keeps r.2
  civil : r.2.Civil
  result : ∀ a, r.1 = .ok a → P a
  failure : ∀ f, r.1 = .error f → f.isOrdinary = true

/-- Wherever nothing raises but ordinary failures, a computation ends well and its results are of
some kind. -/
def Yields (P : α → Prop) (x : Eval α) : Prop := ∀ s, s.Civil → Ends P s (x.run s)

/-- A computation that only adds to the store and fails ordinarily. -/
abbrev Tame (x : Eval α) : Prop := Yields (fun _ ↦ True) x

namespace Yields

theorem ends {x : Eval α} (h : Yields P x) {s t : Store} {r : Except Fault α} (hs : s.Civil)
    (hr : x.run s = (r, t)) : Ends P s (r, t) := hr ▸ h s hs

theorem mono {x : Eval α} {P' : α → Prop} (h : Yields P x) (hP : ∀ a, P a → P' a) :
    Yields P' x := by
  intro s hs
  obtain ⟨hkeeps, hcivil, hresult, hfailure⟩ := h s hs
  exact ⟨hkeeps, hcivil, fun a ha ↦ hP a (hresult a ha), hfailure⟩

theorem tame {x : Eval α} (h : Yields P x) : Tame x := h.mono fun _ _ ↦ trivial

theorem pure {a : α} (h : P a) : Yields P (Pure.pure a : Eval α) := by
  intro s hs
  refine ⟨.refl s, hs, fun b hb ↦ ?_, fun f hf ↦ ?_⟩
  · cases hb; exact h
  · cases hf

theorem throw {f : Fault} (h : f.isOrdinary = true) : Yields P (MonadExcept.throw f : Eval α) := by
  intro s hs
  refine ⟨.refl s, hs, fun b hb ↦ ?_, fun g hg ↦ ?_⟩
  · cases hb
  · cases hg; exact h

theorem fail {f : Fault} (h : f.IsOwn) : Yields P (MonadExcept.throw f : Eval α) :=
  throw (Fault.isOrdinary_of_isOwn h)

theorem raise {kind : String} {text : Option String} (h : kind ∈ Fault.ownKinds) :
    Yields P (MonadExcept.throw (.raised kind text) : Eval α) :=
  fail (f := .raised kind text) h

theorem bind {x : Eval α} {f : α → Eval β} (hx : Yields P x) (hf : ∀ a, P a → Yields Q (f a)) :
    Yields Q (x >>= f) := by
  intro s hs
  obtain ⟨hkeeps, hcivil, hresult, hfailure⟩ := hx s hs
  rcases hr : x.run s with ⟨r, t⟩
  rw [hr] at hkeeps hcivil hresult hfailure
  cases r with
  | error e =>
    rw [run_bind_of_error hr]
    refine ⟨hkeeps, hcivil, fun b hb ↦ ?_, fun g hg ↦ ?_⟩
    · cases hb
    · cases hg; exact hfailure e rfl
  | ok a =>
    rw [run_bind_of_ok hr]
    obtain ⟨hkeeps', hcivil', hresult', hfailure'⟩ := hf a (hresult a rfl) t hcivil
    exact ⟨hkeeps.trans hkeeps', hcivil', hresult', hfailure'⟩

theorem ite {c : Prop} [Decidable c] {x y : Eval α} (hx : Yields P x) (hy : Yields P y) :
    Yields P (if c then x else y) := by
  split
  · exact hx
  · exact hy

theorem get {f : Store → Eval α} (h : ∀ s, s.Civil → Yields P (f s)) :
    Yields P (MonadState.get >>= f) := by
  intro s hs
  rw [run_get_bind]
  exact h s hs s hs

theorem map {x : Eval α} {f : α → β} (hx : Yields P x) (hf : ∀ a, P a → Q (f a)) :
    Yields Q (f <$> x) := by
  rw [← bind_pure_comp]
  exact hx.bind fun a ha ↦ .pure (hf a ha)

theorem tryCatch {x : Eval α} {h : Fault → Eval α} (hx : Yields P x)
    (hh : ∀ f : Fault, f.isOrdinary = true → Yields P (h f)) :
    Yields P (MonadExcept.tryCatch x h) := by
  intro s hs
  obtain ⟨hkeeps, hcivil, hresult, hfailure⟩ := hx s hs
  rcases hr : x.run s with ⟨r, t⟩
  rw [hr] at hkeeps hcivil hresult hfailure
  cases r with
  | ok a =>
    rw [run_tryCatch_of_ok hr]
    exact ⟨hkeeps, hcivil, hresult, fun f hf ↦ by cases hf⟩
  | error e =>
    rw [run_tryCatch_of_error hr]
    obtain ⟨hkeeps', hcivil', hresult', hfailure'⟩ := hh e (hfailure e rfl) t hcivil
    exact ⟨hkeeps.trans hkeeps', hcivil', hresult', hfailure'⟩

theorem handle {x : Eval α} {h : Fault → Eval α} (hx : Yields P x)
    (hh : ∀ f, Yields P (h f)) : Yields P (Eval.handle x h) := by
  refine hx.tryCatch fun f hf ↦ ?_
  rw [if_pos hf]
  exact hh f

theorem transient {x : Eval α} (hx : Yields P x) : Yields P (Eval.transient x) := fun s hs ↦
  ⟨.refl s, hs, (hx s hs).result, (hx s hs).failure⟩

theorem ofExcept {r : Except Fault α} (hok : ∀ a, r = .ok a → P a)
    (herror : ∀ f, r = .error f → f.isOrdinary = true) :
    Yields P (MonadExcept.ofExcept r : Eval α) := by
  cases r with
  | ok a => exact .pure (hok a rfl)
  | error f => exact .throw (herror f rfl)

theorem mapM {f : α → Eval β} {as : List α} (hf : ∀ a ∈ as, Yields Q (f a)) :
    Yields (fun bs ↦ ∀ b ∈ bs, Q b) (as.mapM f) := by
  induction as with
  | nil => exact .pure (by simp)
  | cons a as ih =>
    obtain ⟨ha, has⟩ := List.forall_mem_cons.mp hf
    rw [List.mapM_cons]
    refine ha.bind fun b hb ↦ (ih has).bind fun bs hbs ↦ .pure ?_
    simpa using ⟨hb, hbs⟩

end Yields

namespace Tame

theorem alloc {o : Object} (h : ∀ d, o.body ≠ .classDef d) : Tame (Eval.alloc o) := by
  intro s hs
  exact ⟨s.keeps_alloc o, hs.alloc fun d hd ↦ (h d hd).elim, fun _ _ ↦ trivial, fun f hf ↦ by cases hf⟩

theorem mapM {f : α → Eval β} (hf : ∀ a, Tame (f a)) (as : List α) : Tame (as.mapM f) :=
  (Yields.mapM fun a _ ↦ hf a).tame

theorem composed : Composed Eval Tame :=
  ⟨fun _ ↦ .pure trivial, fun hx hf ↦ hx.bind fun a _ ↦ hf a⟩

theorem forM {f : α → Eval PUnit} (hf : ∀ a, Tame (f a)) (as : List α) : Tame (as.forM f) :=
  composed.forM fun a _ ↦ hf a

theorem foldlM {f : β → α → Eval β} (hf : ∀ b a, Tame (f b a)) (as : List α) (b : β) :
    Tame (as.foldlM f b) := by
  induction as generalizing b with
  | nil => exact .pure trivial
  | cons a as ih => exact (hf b a).bind fun b _ ↦ ih b

theorem allM {f : α → Eval Bool} (hf : ∀ a, Tame (f a)) (as : List α) : Tame (as.allM f) := by
  induction as with
  | nil => exact .pure trivial
  | cons a as ih =>
    refine (hf a).bind fun b _ ↦ ?_
    cases b with
    | true => exact ih
    | false => exact .pure trivial

end Tame

end Eval

end VariableExplorer
