import VariableExplorer.Proofs.Kernel.Session

/-!
The helpers of a shell: the names under which a host can be asked for help and plots. The first host
binds them, and they stay its own as long as nobody else binds or unbinds these names.
-/

namespace VariableExplorer

open Eval

inductive Helper
  | help
  | plot
  deriving DecidableEq

namespace Helper

def name : Helper → String
  | help => "show_help"
  | plot => "show_plot"

def function : Helper → String
  | help => "show_help"
  | plot => "plot"

def toShowing : Helper → String → Showing
  | help => .help
  | plot => .plot

theorem name_injective {x y : Helper} (h : x.name = y.name) : x = y := by
  cases x <;> cases y <;> first | rfl | exact absurd h (by decide)

def ofName? (name : String) : Option Helper :=
  if name = help.name then some help else if name = plot.name then some plot else none

theorem ofName?_eq_some {name : String} {x : Helper} : ofName? name = some x ↔ name = x.name := by
  unfold ofName?
  constructor
  · intro h
    split at h
    next hname =>
      cases h
      exact hname
    next =>
      split at h
      next hname =>
        cases h
        exact hname
      next => cases h
  · rintro rfl
    cases x <;> decide

/-- An object that is this function of the host, as a method bound to it. -/
def IsMethod (x : Helper) (h : Ref) (s : Store) (m : Ref) : Prop :=
  ∃ f o o' q, s.get? m = some o ∧ o.body = .method (.ref h) (.ref f) ∧
    s.get? f = some o' ∧ o'.body = .function x.function q

/-- Among these variables the helper is the function of the first host, and free without a host. -/
def Answers (x : Helper) (first : Option Ref) (s : Store) (vars : List (String × Value)) : Prop :=
  match first with
  | none => vars.lookup x.name = none
  | some h => ∃ m, vars.lookup x.name = some (.ref m) ∧ x.IsMethod h s m

structure Serves (x : Helper) (env : Ref) (first : Option Ref) (s : Store) : Prop where
  civil : s.Civil
  bound : ∃ vars, s.Binds env vars ∧ x.Answers first s vars

variable {x : Helper} {env r h m : Ref} {first : Option Ref} {s t : Store}

theorem IsMethod.keeps (hm : x.IsMethod h s m) (hk : s.Keeps t) : x.IsMethod h t m := by
  obtain ⟨f, o, o', q, hm, hbody, hf, hbody'⟩ := hm
  exact ⟨f, o, o', q, hk _ _ hm, hbody, hk _ _ hf, hbody'⟩

theorem IsMethod.set (hm : x.IsMethod h s m) {o : Object} {es : List (Value × Value)}
    (hr : s.get? r = some o) (ho : o.body = .dict es) (o' : Object) :
    x.IsMethod h (s.set r o') m := by
  obtain ⟨f, om, of, q, hm, hbody, hf, hbody'⟩ := hm
  refine ⟨f, om, of, q, ?_, hbody, ?_, hbody'⟩
  · rw [Store.get?_set, if_neg]
    · exact hm
    · rintro ⟨rfl, -⟩
      cases hr.symm.trans hm
      cases ho.symm.trans hbody
  · rw [Store.get?_set, if_neg]
    · exact hf
    · rintro ⟨rfl, -⟩
      cases hr.symm.trans hf
      cases ho.symm.trans hbody'

theorem Answers.keeps {vars : List (String × Value)} (hx : x.Answers first s vars)
    (hk : s.Keeps t) : x.Answers first t vars := by
  cases first with
  | none => exact hx
  | some h => exact hx.imp fun m ⟨hm, hmethod⟩ ↦ ⟨hm, hmethod.keeps hk⟩

theorem Serves.keeps (hx : x.Serves env first s) (hk : s.Keeps t) (hcivil : s.Civil → t.Civil) :
    x.Serves env first t := by
  obtain ⟨hs, vars, hvars, hx⟩ := hx
  exact ⟨hcivil hs, vars, hvars.keeps hk, hx.keeps hk⟩

theorem Answers.set {vars vars' : List (String × Value)} (hx : x.Answers first s vars)
    (hlookup : vars'.lookup x.name = vars.lookup x.name) {o : Object} {es : List (Value × Value)}
    (hr : s.get? r = some o) (ho : o.body = .dict es) (o' : Object) :
    x.Answers first (s.set r o') vars' := by
  cases first with
  | none => exact hlookup.trans hx
  | some h => exact hx.imp fun m ⟨hm, hmethod⟩ ↦ ⟨hlookup.trans hm, hmethod.set hr ho o'⟩

/-- The helper goes on answering as it does, whether or not the computation fails. -/
def Steady (x : Helper) (env : Ref) (first : Option Ref) {α : Type} (y : Eval α) : Prop :=
  ∀ s, x.Serves env first s → x.Serves env first (y.run s).2

namespace Steady

variable {α β : Type}

theorem serves {y : Eval α} (h : x.Steady env first y) {r : Except Fault α}
    (hs : x.Serves env first s) (hrun : y.run s = (r, t)) : x.Serves env first t :=
  Maintains.of_run h hs hrun

theorem tame {y : Eval α} (h : Tame y) : x.Steady env first y := by
  intro s ⟨hcivil, vars, hvars, hx⟩
  obtain ⟨hkeeps, hcivil', -, -⟩ := h s hcivil
  exact ⟨hcivil', vars, hvars.keeps hkeeps, hx.keeps hkeeps⟩

theorem pure (a : α) : x.Steady env first (Pure.pure a) := fun _ hs ↦ hs

theorem bind {y : Eval α} {f : α → Eval β} (hy : x.Steady env first y)
    (hf : ∀ a, x.Steady env first (f a)) : x.Steady env first (y >>= f) := Maintains.bind hy hf

theorem forM {f : α → Eval PUnit} {as : List α} (hf : ∀ a ∈ as, x.Steady env first (f a)) :
    x.Steady env first (as.forM f) := Maintains.forM hf

/-- The entries of one dictionary are edited in a way that spares the name of the helper. -/
theorem edit (r : Ref) {g : Store → List (Value × Value) → List (Value × Value)}
    (hg : ∀ (s : Store) (vars : List (String × Value)), ∃ vars' : List (String × Value),
      g s (vars.map asEntry) = vars'.map asEntry ∧
      ((vars.map (·.1)).Nodup → (vars'.map (·.1)).Nodup) ∧
      vars'.lookup x.name = vars.lookup x.name) :
    x.Steady env first (modify fun s ↦ match s.get? r with
      | some ⟨c, .dict entries, attrs, slots⟩ => s.set r ⟨c, .dict (g s entries), attrs, slots⟩
      | _ => s) := by
  intro s hs
  show x.Serves env first (Prod.snd (_, _))
  dsimp only
  obtain ⟨hcivil, vars, hvars, hx⟩ := hs
  by_cases hr : r = env
  · subst hr
    obtain ⟨vars', hentries, hnodup, hlookup⟩ := hg s vars
    simp only [hvars.dict.get?, hentries]
    exact ⟨hcivil.set (by simp), vars', hvars.set (hnodup hvars.nodup),
      hx.set hlookup hvars.dict.get? rfl _⟩
  split
  next hget =>
    exact ⟨hcivil.set (by simp), vars, ⟨hvars.dict.set_of_ne hr, hvars.nodup⟩,
      hx.set rfl hget rfl _⟩
  next => exact ⟨hcivil, vars, hvars, hx⟩

theorem shellBind {name : String} (hne : name ≠ x.name) (r : Ref) (v : Value) :
    x.Steady env first (Shell.bind r name v) :=
  edit r fun s vars ↦ ⟨_, Shell.insertEntry_asEntry s name v vars, Shell.nodup_assign,
    Shell.lookup_assign_of_ne hne v vars⟩

theorem shellUnbind {name : String} (hne : name ≠ x.name) (r : Ref) :
    x.Steady env first (Shell.unbind r name) :=
  edit r fun s vars ↦ ⟨_, Shell.eraseEntry_asEntry s name vars,
    fun hnodup ↦ hnodup.sublist (List.filter_sublist.map _), Shell.lookup_filter_of_ne hne vars⟩

theorem bindAll {vars : List (String × Recipe)} (htame : ∀ e ∈ vars, Tame e.2)
    (hspared : ∀ e ∈ vars, e.1 ≠ x.name) (r : Ref) :
    x.Steady env first (Shell.bindAll r vars) :=
  forM fun e he ↦ (tame (htame e he)).bind fun v ↦ shellBind (hspared e he) r v

theorem nameHost (self : Value) (host : Ref) : x.Steady env first (Kernel.nameHost self host) := by
  intro s hs
  rw [Kernel.nameHost, run_get_bind]
  split
  · exact shellBind (by cases x <;> decide) _ _ s hs
  · exact hs

theorem bindNew {name : String} (hne : name ≠ x.name) (r : Ref) {v : Eval Value} (hv : Tame v) :
    x.Steady env first (Kernel.bindNew r name v) := by
  intro s hs
  rw [Kernel.bindNew, run_get_bind]
  split
  · exact hs
  · exact (tame hv).bind (fun v ↦ shellBind hne r v) s hs

end Steady

/-- The helper passes from one host to another in the course of a computation that succeeds. -/
def Passes (x : Helper) (env : Ref) (first first' : Option Ref) {α : Type} (y : Eval α) : Prop :=
  ∀ s, x.Serves env first s → ∃ a t, y.run s = (.ok a, t) ∧ x.Serves env first' t

def newMethod (x : Helper) (h : Ref) : Eval Value := do
  Eval.newMethod (.ref h) (← Eval.newFunction x.function)

theorem newMethod_run (x : Helper) (h : Ref) (s : Store) : ∃ m t,
    (x.newMethod h).run s = (.ok (.ref m), t) ∧ x.IsMethod h t m ∧ s.Keeps t ∧
      (s.Civil → t.Civil) := by
  have htame : Tame (x.newMethod h) := (Tame.newFunction _).bind fun _ _ ↦ Tame.newMethod _ _
  let dict := s.alloc ⟨.native "dict", .dict [], none, []⟩
  let func := dict.1.alloc ⟨.native "function", .function x.function x.function, some dict.2, []⟩
  let method := func.1.alloc ⟨.native "method", .method (.ref h) (.ref func.2), none, []⟩
  have hmethod : x.IsMethod h method.1 method.2 :=
    ⟨func.2, _, _, x.function, Store.get?_alloc.trans (if_pos rfl), rfl,
      Store.keeps_alloc _ _ _ _ (Store.get?_alloc.trans (if_pos rfl)), rfl⟩
  refine ⟨method.2, method.1, rfl, hmethod, ?_, fun hs ↦ (htame s hs).civil⟩
  exact (s.keeps_alloc _).trans ((Store.keeps_alloc _ _).trans (Store.keeps_alloc _ _))

namespace Passes

variable {α β : Type} {first' first'' : Option Ref}

theorem bind {y : Eval α} {f : α → Eval β} (hy : x.Passes env first first' y)
    (hf : ∀ a, x.Passes env first' first'' (f a)) : x.Passes env first first'' (y >>= f) := by
  intro s hs
  obtain ⟨a, t, hrun, ht⟩ := hy s hs
  rw [run_bind_of_ok hrun]
  exact hf a t ht

theorem shellBind {name : String} (hne : name ≠ x.name) (r : Ref) (v : Value) :
    x.Passes env first first (Shell.bind r name v) :=
  fun s hs ↦ ⟨(), _, rfl, Steady.shellBind hne r v s hs⟩

theorem alloc {o : Object} (ho : ∀ d, o.body ≠ .classDef d) :
    x.Passes env first first (Eval.alloc o) :=
  fun s hs ↦ ⟨_, _, rfl, Steady.tame (Tame.alloc ho) s hs⟩

theorem nameHost (self : Value) (host : Ref) :
    x.Passes env first first (Kernel.nameHost self host) := by
  intro s hs
  rw [Kernel.nameHost, run_get_bind]
  split
  · exact shellBind (by cases x <;> decide) _ _ s hs
  · exact ⟨(), s, rfl, hs⟩

theorem bindNew_of_ne {y : Helper} (hne : y ≠ x) (h : Ref) :
    x.Passes env first first (Kernel.bindNew env y.name (y.newMethod h)) := by
  intro s hs
  obtain ⟨m, t, hrun, -, hkeeps, hcivil⟩ := y.newMethod_run h s
  rw [Kernel.bindNew, run_get_bind]
  split
  · exact ⟨(), s, rfl, hs⟩
  · rw [run_bind_of_ok hrun]
    exact shellBind (fun h ↦ hne (name_injective h)) env (.ref m) t (hs.keeps hkeeps hcivil)

theorem bindNew_self (x : Helper) (h : Ref) :
    x.Passes env first (some (first.getD h)) (Kernel.bindNew env x.name (x.newMethod h)) := by
  intro s hs
  obtain ⟨m, t, hrun, hmethod, hkeeps, hcivil⟩ := x.newMethod_run h s
  obtain ⟨hs', vars, hvars, hx⟩ := hs
  rw [Kernel.bindNew, run_get_bind, hvars.names, Shell.contains_names]
  cases first with
  | none =>
    rw [if_neg (by rw [hx]; decide), run_bind_of_ok hrun, Shell.bind_run (hvars.keeps hkeeps)]
    refine ⟨(), _, rfl, (hcivil hs').set (by simp), Shell.assign x.name (.ref m) vars,
      (hvars.keeps hkeeps).set (Shell.nodup_assign hvars.nodup), m,
      Shell.lookup_assign_self _ _ _, hmethod.set (hvars.keeps hkeeps).dict.get? rfl _⟩
  | some h₀ =>
    obtain ⟨m₀, hm₀, -⟩ := id hx
    rw [if_pos (by rw [hm₀]; rfl)]
    exact ⟨(), s, rfl, hs', vars, hvars, hx⟩

theorem provide (self : Value) (host : Option Ref) :
    x.Passes env first (first.or host) (Kernel.provide env self host) := by
  have hself (first : Option Ref) : x.Passes env first first (Shell.bind env "_kernel" self) :=
    shellBind (by cases x <;> decide) _ _
  cases host with
  | none =>
    rw [Option.or_none]
    exact hself first
  | some h =>
    rw [Option.or_some]
    refine (nameHost self h).bind fun _ ↦ ?_
    cases x with
    | help =>
      exact (bindNew_self help h).bind fun _ ↦
        (bindNew_of_ne (y := plot) (by decide) h).bind fun _ ↦ hself _
    | plot =>
      exact (bindNew_of_ne (y := help) (by decide) h).bind fun _ ↦
        (bindNew_self plot h).bind fun _ ↦ hself _

end Passes

end Helper

end VariableExplorer
