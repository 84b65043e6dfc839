import VariableExplorer.Proofs.Kernel.Helper
import VariableExplorer.Proofs.Kernel.Recording

/-!
Where a kernel's hosts are called. Failures go to the host attached last. Help and plots go to the
host attached first, whoever is attached after it.
-/

namespace VariableExplorer

open Eval

/-- It neither binds nor unbinds the name of a helper. -/
structure Cell.Spares (c : Cell) : Prop where
  bound : ∀ e ∈ c.bound, ∀ x : Helper, e.1 ≠ x.name
  unbound : ∀ name ∈ c.unbound, ∀ x : Helper, name ≠ x.name

/-- A kernel with these hosts, the latest first, whose helpers are those of the first host. -/
structure Kernel.Routed {κ : Type} (hosts : List Ref) (k : Kernel κ) : Prop where
  helpers : ∀ x : Helper, x.Serves k.env hosts.getLast? k.store
  hosts : k.hosts = hosts

namespace Attended

variable {κ W α : Type} {d d' : Attended κ W} {hosts : List Ref}
variable {tell : κ → Acting κ W Unit} {display : Ref → Showing → Acting κ W (Except Fault Unit)}

/-- The hosts stay as they are, and the helpers stay with them. -/
def Steadily (d d' : Attended κ W) : Prop :=
  ∀ hosts, d.kernel.Routed hosts → d'.kernel.Routed hosts

instance : IsPreorder (Attended κ W) Steadily where
  refl _ _ := id
  trans _ _ _ h h' hosts hd := h' hosts (h hosts hd)

theorem evaluating_steadily {y : Eval α} (h : ∀ (x : Helper) env first, x.Steady env first y) :
    Along Steadily (Kernel.evaluating (κ := κ) (m := Acting κ W) y) :=
  fun d _ ⟨hhelpers, hhosts⟩ ↦ ⟨fun x ↦ h x _ _ d.kernel.store (hhelpers x), hhosts⟩

theorem found_tame {args : List Recipe} (h : ∀ r ∈ args, Tame r) (env : Ref) (name : String) :
    Tame (found env name args) :=
  (Tame.nameValue _ _).bind fun _ _ ↦ (Yields.mapM h).bind fun _ _ ↦ .pure trivial

theorem call_steadily (hdisplay : ∀ h s, Along Steadily (display h s)) (name : String)
    {args : List Recipe} (hargs : ∀ r ∈ args, Tame r) :
    Along Steadily (call display name args) :=
  .call (P := Tame) (fun h ↦ evaluating_steadily fun _ _ _ ↦ .tame h) Tame.plain
    (fun _ _ _ ↦ Tame.call _ _ _ _ _) hdisplay fun _ ↦ found_tame hargs _ _

theorem binding_steadily {cell : Cell} (htame : cell.Tame) (hspares : cell.Spares) (env : Ref) :
    Along Steadily (Kernel.evaluating (κ := κ) (m := Acting κ W) (do
      Shell.bindAll env cell.bound
      cell.unbound.forM (Shell.unbind env))) :=
  evaluating_steadily fun x _ _ ↦
    (Helper.Steady.bindAll htame.bound (fun e he ↦ hspares.bound e he x) env).bind fun _ ↦
      .forM fun name hname ↦ .shellUnbind (hspares.unbound name hname x) env

theorem runCell_steadily (htell : ∀ c, Along Steadily (tell c))
    (hdisplay : ∀ h s, Along Steadily (display h s)) {cell : Cell} (htame : cell.Tame)
    (hspares : cell.Spares) : Along Steadily (runCell tell display cell) :=
  .runCellWith htell (.performWith (binding_steadily htame hspares)
    (.runCalls fun e he ↦ call_steadily hdisplay e.1 (htame.args e he))
    (evaluating_steadily fun _ _ _ ↦ .tame htame.result))

theorem written_steadily (result : Except Fault Value) :
    Along Steadily (Kernel.evaluating (κ := κ) (m := Acting κ W) (Cell.written result)) := by
  refine evaluating_steadily fun x env first ↦ ?_
  unfold Cell.written
  split
  · exact fun _ hs ↦ hs
  · exact .pure _
  · exact .tame ((Tame.shown _).map fun _ _ ↦ trivial)

theorem alert_steadily (hdisplay : ∀ h s, Along Steadily (display h s)) (host : Option Ref)
    (error : Option String) : Along Steadily (alert display host error) := by
  unfold alert
  split
  · exact hdisplay _ _
  · exact .pure _

theorem execute_steadily (htell : ∀ c, Along Steadily (tell c))
    (hdisplay : ∀ h s, Along Steadily (display h s)) (code : String) (tag : Option String)
    {cell : Cell} (htame : cell.Tame) (hspares : cell.Spares) :
    Along Steadily (Kernel.execute tell display code tag cell) := by
  intro d hosts hd
  have hran := runCell_steadily htell hdisplay htame hspares d hosts hd
  rw [execute_run]
  rcases hr : (runCell tell display cell).run d with ⟨f | result, d₁⟩ <;> rw [hr] at hran
  · exact hran
  have hwritten := written_steadily result d₁ hosts hran
  dsimp only
  rw [conclude_run]
  rcases hw : (Cell.written result).run d₁.kernel.store with ⟨f | text, t⟩ <;>
    rw [evaluating_run hw] at hwritten
  · exact hwritten
  have halerted := alert_steadily hdisplay d₁.kernel.hosts.head?
    (HistoryEntry.ofCell code tag cell text).error { d₁ with kernel.store := t } hosts hwritten
  dsimp only
  rcases ha : (alert display d₁.kernel.hosts.head?
    (HistoryEntry.ofCell code tag cell text).error).run { d₁ with kernel.store := t } with
    ⟨f | u, d₂⟩ <;> rw [ha] at halerted
  · exact halerted
  · exact ⟨halerted.helpers, halerted.hosts⟩

def showOn (display : Ref → Showing → Acting κ W (Except Fault Unit)) (h : Ref)
    (toShowing : String → Showing) (args : List Recipe) : Acting κ W (Except Fault Unit) := do
  match ← Kernel.evaluating (κ := κ) (args.mapM id) with
  | .error f => return .error f
  | .ok vs =>
    match ← Kernel.evaluating (κ := κ) (Eval.plain (vs.headD .none)) with
    | .error f => return .error f
    | .ok text => display h (toShowing text)

theorem showing?_helper {k : Kernel κ} {x : Helper} {h m : Ref} (hh : h ∈ k.hosts)
    (hm : x.IsMethod h k.store m) (v : Value) (vs : List Value) :
    k.showing? (.ref m) (v :: vs) = some (h, x.toShowing, v) := by
  obtain ⟨f, o, o', q, hm, hbody, hf, hbody'⟩ := hm
  have hmethod : k.store.body (.ref m) = .method (.ref h) (.ref f) := by
    rw [Store.body, hm]
    exact hbody
  have hfunc : k.store.body (.ref f) = .function x.function q := by
    rw [Store.body, hf]
    exact hbody'
  simp only [Kernel.showing?, hmethod, hfunc, List.contains_iff_mem.mpr hh, if_true]
  cases x <;> rfl

theorem call_helper (hd : d.kernel.Routed hosts) {h : Ref} (hfirst : hosts.getLast? = some h)
    (x : Helper) {arg : Recipe} {args : List Recipe} (hargs : ∀ r ∈ arg :: args, Tame r) :
    (call display x.name (arg :: args)).run d =
      (showOn display h x.toShowing (arg :: args)).run d := by
  obtain ⟨hcivil, vars, hvars, hx⟩ := hd.helpers x
  rw [hfirst] at hx
  obtain ⟨m, hm, hmethod⟩ := hx
  have hname := Shell.nameValue_of_bound hvars hm
  have hh : h ∈ d.kernel.hosts := hd.hosts ▸ List.mem_of_getLast? hfirst
  rw [call, run_kernel_bind, showOn]
  rcases hvs : ((arg :: args).mapM id).run d.kernel.store with ⟨f | vs, t⟩
  · have hfound : (found d.kernel.env x.name (arg :: args)).run d.kernel.store = (.error f, t) :=
      (run_bind_of_ok hname).trans (run_bind_of_error hvs)
    rw [run_bind (evaluating_run hfound), run_bind (evaluating_run hvs)]
  · have hfound : (found d.kernel.env x.name (arg :: args)).run d.kernel.store =
        (.ok (.ref m, vs), t) := (run_bind_of_ok hname).trans (run_bind_of_ok hvs)
    have hkeeps := ((Yields.mapM hargs).ends hcivil hvs).keeps
    obtain ⟨v, vs, rfl⟩ : ∃ v vs', vs = v :: vs' := by
      rw [List.mapM_cons] at hvs
      obtain ⟨v, _, -, hvs⟩ := run_bind_eq_ok hvs
      obtain ⟨vs', _, -, hvs⟩ := run_bind_eq_ok hvs
      cases hvs
      exact ⟨v, vs', rfl⟩
    rw [run_bind (evaluating_run hfound), run_bind (evaluating_run hvs)]
    dsimp only
    rw [run_kernel_bind, showing?_helper (k := { d.kernel with store := t }) hh
      (hmethod.keeps hkeeps)]
    rfl

/-- A call, which is sent to this host if it is one of a helper. -/
def callOn (display : Ref → Showing → Acting κ W (Except Fault Unit)) (host : Option Ref)
    (name : String) (args : List Recipe) : Acting κ W (Except Fault Unit) :=
  match Helper.ofName? name, host, args with
  | some x, some h, arg :: args => showOn display h x.toShowing (arg :: args)
  | _, _, _ => call display name args

theorem call_run (hd : d.kernel.Routed hosts) {name : String} {args : List Recipe}
    (hargs : ∀ r ∈ args, Tame r) :
    (call display name args).run d = (callOn display hosts.getLast? name args).run d := by
  unfold callOn
  split
  next x h arg args hname hfirst =>
    rw [Helper.ofName?_eq_some.mp hname]
    exact call_helper hd hfirst x hargs
  next => rfl

def runCallsOn (display : Ref → Showing → Acting κ W (Except Fault Unit)) (host : Option Ref) :
    List (String × List Recipe) → Acting κ W (Except Fault Unit)
  | [] => return .ok ()
  | (name, args) :: rest => do
    match ← callOn display host name args with
    | .error f => return .error f
    | .ok () => runCallsOn display host rest

theorem runCalls_run (hdisplay : ∀ h s, Along Steadily (display h s))
    {calls : List (String × List Recipe)} (hargs : ∀ e ∈ calls, ∀ r ∈ e.2, Tame r)
    (hd : d.kernel.Routed hosts) : (Kernel.runCalls (κ := κ) display calls).run d =
      (runCallsOn display hosts.getLast? calls).run d := by
  induction calls generalizing d with
  | nil => rfl
  | cons e rest ih =>
    obtain ⟨hfirst, hrest⟩ := List.forall_mem_cons.mp hargs
    have hd' := call_steadily hdisplay e.1 hfirst d hosts hd
    rw [call_run hd hfirst] at hd'
    rw [runCalls_cons_run, runCallsOn, call_run hd hfirst]
    rcases hr : (callOn display hosts.getLast? e.1 e.2).run d with ⟨f | u, d'⟩ <;>
      rw [hr] at hd' <;> rw [run_bind hr]
    · rfl
    · exact ih hrest hd'

end Attended

namespace Kernel

variable {κ : Type} {k : Kernel κ} {hosts : List Ref}

theorem Routed.attach (h : k.Routed hosts) : ∃ host, k.attach.Routed (host :: hosts) := by
  let o : Object := ⟨.native "object", .plain, none, []⟩
  obtain ⟨host, s, halloc⟩ : ∃ host s, (Eval.alloc o).run k.store = (.ok host, s) := ⟨_, _, rfl⟩
  have hfirst : (host :: hosts).getLast? = some (hosts.getLast?.getD host) := List.getLast?_cons
  have hpasses (x : Helper) : ∃ t, (provide k.env k.self (some host)).run s = (.ok (), t) ∧
      x.Serves k.env (some (hosts.getLast?.getD host)) t := by
    have hs := (Helper.Steady.tame (Tame.alloc (o := o) (by simp [o]))).serves (h.helpers x) halloc
    obtain ⟨u, t, ht, hserves⟩ := Helper.Passes.provide k.self (some host) s hs
    rw [Option.or_some] at hserves
    exact ⟨t, ht, hserves⟩
  obtain ⟨t, ht, -⟩ := hpasses .help
  have hattach : k.attach = { k with store := t, hosts := host :: k.hosts } := by
    rw [Kernel.attach, eval, run_bind_of_ok halloc, run_bind_of_ok ht]
    rfl
  rw [hattach]
  refine ⟨host, fun x ↦ ?_, congrArg (host :: ·) h.hosts⟩
  obtain ⟨t', ht', hserves⟩ := hpasses x
  cases ht.symm.trans ht'
  rw [hfirst]
  exact hserves

theorem environment_serves {known : List String} {vars : List (String × Recipe)}
    (htame : ∀ e ∈ vars, Tame e.2) {x : Helper} (hspared : ∀ e ∈ vars, e.1 ≠ x.name) {env : Ref}
    {s t : Store} (hs : s.Civil) (h : (Shell.environment known vars).run s = (.ok env, t)) :
    x.Serves env none t := by
  obtain ⟨universal, u, hbinds, hcivil, hrun⟩ := Shell.environment_eq_ok h
  have hfree : x.Answers none u [(universalKey, universal)] := by cases x <;> rfl
  exact (Helper.Steady.bindAll htame hspared _).serves ⟨hcivil hs, _, hbinds, hfree⟩ hrun

theorem new_routed {known : List String} {vars : List (String × Recipe)} {hasHost : Bool}
    (htame : ∀ e ∈ vars, Tame e.2) (hspared : ∀ e ∈ vars, ∀ x : Helper, e.1 ≠ x.name)
    (h : Kernel.new known vars hasHost = .ok k) : ∃ hosts, k.Routed hosts := by
  obtain ⟨s₁, s₂, s₃, host, h₁, h₂, hkeeps, hcivil, h₃, -, hk⟩ := new_eq_ok h
  refine ⟨host.toList, fun x ↦ ?_, congrArg Kernel.hosts hk⟩
  have hserves₁ := environment_serves htame (fun e he ↦ hspared e he x)
    (fun r o d hr ↦ by cases hr) h₁
  have hserves₂ := (Helper.Steady.tame newSelf_tame).serves hserves₁ h₂
  obtain ⟨u, t, ht, hserves₃⟩ := Helper.Passes.provide k.self host s₃ (hserves₂.keeps hkeeps hcivil)
  cases h₃.symm.trans ht
  have hfirst : host.toList.getLast? = none.or host := by cases host <;> rfl
  rw [hfirst]
  exact hserves₃

end Kernel

namespace Attended

variable {κ W : Type} {d d' : Attended κ W} {hosts : List Ref}
variable {tell : κ → Acting κ W Unit} {display : Ref → Showing → Acting κ W (Except Fault Unit)}

/-- Runs a cell whose calls of helpers go to one host, and records it when it has alerted another
to its failure. -/
def executeOn (tell : κ → Acting κ W Unit)
    (display : Ref → Showing → Acting κ W (Except Fault Unit)) (helping alerted : Option Ref)
    (code : String) (tag : Option String) (cell : Cell) :
    Acting κ W (Except Fault HistoryEntry) := do
  match ← runCellWith tell (runCallsOn display helping cell.calls) cell with
  | .error f => return .error f
  | .ok result =>
    match ← Kernel.evaluating (κ := κ) (Cell.written result) with
    | .error f => return .error f
    | .ok text =>
      let entry := HistoryEntry.ofCell code tag cell text
      match ← alert display alerted entry.error with
      | .error f => return .error f
      | .ok () =>
        modifyThe (Kernel κ) fun k ↦ { k with history := k.history ++ [entry] }
        return .ok entry

/-- Whatever a cell binds, its helpers are those of the first host. -/
theorem runCell_run (hdisplay : ∀ h s, Along Steadily (display h s)) {cell : Cell}
    (htame : cell.Tame) (hspares : cell.Spares) (hd : d.kernel.Routed hosts) :
    (runCell tell display cell).run d =
      (runCellWith tell (runCallsOn display hosts.getLast? cell.calls) cell).run d := by
  have hperformed : (performWith (Kernel.runCalls (κ := κ) display cell.calls) cell).run d =
      (performWith (runCallsOn display hosts.getLast? cell.calls) cell).run d := by
    have hbound := binding_steadily (κ := κ) (W := W) htame hspares d.kernel.env d hosts hd
    rw [performWith, performWith, run_kernel_bind, run_kernel_bind]
    rcases hr : (Kernel.evaluating (κ := κ) (m := Acting κ W) (do
      Shell.bindAll d.kernel.env cell.bound
      cell.unbound.forM (Shell.unbind d.kernel.env))).run d with ⟨f | u, d₀⟩ <;>
      rw [run_bind hr, run_bind hr]
    rw [hr] at hbound
    have hcalls := runCalls_run hdisplay htame.args hbound
    rcases hc : (runCallsOn display hosts.getLast? cell.calls).run d₀ with ⟨r, d₁⟩
    dsimp only
    rw [run_bind (hcalls.trans hc), run_bind hc]
  rw [runCell, runCellWith, runCellWith, run_kernel_bind, run_kernel_bind]
  rcases hr : (performWith (runCallsOn display hosts.getLast? cell.calls) cell).run d with ⟨r, d₁⟩
  rw [run_bind (hperformed.trans hr), run_bind hr]

theorem push_steadily (htell : ∀ c, Along Steadily (tell c)) {vars : List (String × Recipe)}
    (htame : ∀ e ∈ vars, Tame e.2) (hspared : ∀ e ∈ vars, ∀ x : Helper, e.1 ≠ x.name) :
    Along Steadily (Kernel.push tell vars) := by
  refine .get fun k ↦ .bind (evaluating_steadily fun x _ _ ↦
    .bindAll htame (fun e he ↦ hspared e he x) _) fun bound ↦ ?_
  cases bound with
  | error f => exact .pure _
  | ok u => exact .bind (.notify htell) fun _ ↦ .pure _

/-- The kernels of a session to which hosts are attached, and whose variables and cells leave the
names of the helpers alone. -/
inductive Session (tell : κ → Acting κ W Unit)
    (display : Ref → Showing → Acting κ W (Except Fault Unit)) : Attended κ W → Prop
  | new {known : List String} {vars : List (String × Recipe)} {hasHost : Bool} {k : Kernel κ}
      (w : W) : (∀ e ∈ vars, Tame e.2) → (∀ e ∈ vars, ∀ x : Helper, e.1 ≠ x.name) →
      Kernel.new known vars hasHost = .ok k → Session tell display ⟨k, w⟩
  | attach {d : Attended κ W} : Session tell display d →
      Session tell display { d with kernel := d.kernel.attach }
  | push {d : Attended κ W} {vars : List (String × Recipe)} : Session tell display d →
      (∀ e ∈ vars, Tame e.2) → (∀ e ∈ vars, ∀ x : Helper, e.1 ≠ x.name) →
      Session tell display ((Kernel.push tell vars).run d).2
  | execute {d : Attended κ W} {cell : Cell} (code : String) (tag : Option String) :
      Session tell display d → cell.Tame → cell.Spares →
      Session tell display ((Kernel.execute tell display code tag cell).run d).2

theorem Session.routed (htell : ∀ c, Along Steadily (tell c))
    (hdisplay : ∀ h s, Along Steadily (display h s)) (h : Session tell display d) :
    ∃ hosts, d.kernel.Routed hosts := by
  induction h with
  | new w htame hspared hk => exact Kernel.new_routed htame hspared hk
  | attach _ ih =>
    obtain ⟨hosts, ih⟩ := ih
    obtain ⟨host, h⟩ := ih.attach
    exact ⟨host :: hosts, h⟩
  | push _ htame hspared ih => exact ih.imp fun hosts ↦ push_steadily htell htame hspared _ hosts
  | execute code tag _ htame hspares ih =>
    exact ih.imp fun hosts ↦ execute_steadily htell hdisplay code tag htame hspares _ hosts

/-- In every such session a cell's failure goes to the host that was attached last before the cell,
and what it shows by the helpers goes to the host that was attached first. -/
theorem Session.execute_routed (htell : ∀ c, Along Steadily (tell c))
    (hdisplay : ∀ h s, Along Steadily (display h s)) (h : Session tell display d) (code : String)
    (tag : Option String) {cell : Cell} (htame : cell.Tame) (hspares : cell.Spares) :
    (Kernel.execute tell display code tag cell).run d =
      (executeOn tell display d.kernel.hosts.getLast? d.kernel.hosts.head? code tag cell).run d := by
  obtain ⟨hosts, hd⟩ := h.routed htell hdisplay
  have hd' := runCell_steadily htell hdisplay htame hspares d hosts hd
  rw [runCell_run hdisplay htame hspares hd] at hd'
  rw [Attended.execute_run, executeOn, runCell_run hdisplay htame hspares hd, hd.hosts]
  rcases hr : (runCellWith tell (runCallsOn display hosts.getLast? cell.calls) cell).run d with
    ⟨f | result, d₁⟩ <;> rw [hr] at hd' <;> rw [run_bind hr]
  · rfl
  dsimp only
  rw [conclude_run, hd'.hosts]
  rcases hw : (Cell.written result).run d₁.kernel.store with ⟨f | text, t⟩ <;>
    rw [run_bind (evaluating_run hw)]
  · rfl
  dsimp only
  rcases ha : (alert display hosts.head? (HistoryEntry.ofCell code tag cell text).error).run
    { d₁ with kernel.store := t } with ⟨f | u, d₂⟩ <;> rw [run_bind ha]
  · rfl
  · rfl

def listed (h : Ref) (s : Showing) : Acting κ (List (Ref × Showing)) (Except Fault Unit) :=
  fun d ↦ (.ok (), { d with world := d.world ++ [(h, s)] })

def asking : Cell where
  calls := [("show_help", [pure (.str "help://x")])]
  failure := some ⟨"ValueError", some "no"⟩

/-- With a second host attached, it is the first that shows help and the second that is told of the
failure. -/
theorem Session.execute_routed_two_hosts : ∃ k : Kernel Unit, Kernel.new [] [] true = .ok k ∧
    ∃ first latest, k.attach.hosts = [latest, first] ∧ latest ≠ first ∧
      ((Kernel.execute pure listed "c" none asking).run ⟨k.attach, []⟩).2.world =
        [(first, .help "help://x"), (latest, .error "ValueError: no")] := by
  have htell (c : Unit) : Along Steadily (pure c : Acting Unit (List (Ref × Showing)) Unit) :=
    .pure c
  have hlisted (h : Ref) (s : Showing) : Along Steadily
      (listed h s : Acting Unit (List (Ref × Showing)) _) := fun d hosts hd ↦ hd
  have htame : asking.Tame :=
    ⟨by simp [asking], by simpa [asking] using Yields.pure trivial, .pure trivial⟩
  have hspares : asking.Spares := ⟨by simp [asking], by simp [asking]⟩
  obtain ⟨k, hnew, hhosts, hworld⟩ : ∃ k : Kernel Unit, Kernel.new [] [] true = .ok k ∧
      k.attach.hosts = [13, 6] ∧ ((executeOn pure listed (some 6) (some 13) "c" none asking).run
        ⟨k.attach, []⟩).2.world = [(6, .help "help://x"), (13, .error "ValueError: no")] :=
    ⟨_, rfl, rfl, by decide +kernel⟩
  have hsession : Session pure listed (⟨k.attach, []⟩ : Attended Unit (List (Ref × Showing))) :=
    .attach (.new [] (by simp) (by simp) hnew)
  refine ⟨k, hnew, 6, 13, hhosts, by decide, ?_⟩
  rw [hsession.execute_routed htell hlisted "c" none htame hspares, hhosts]
  exact hworld

end Attended

end VariableExplorer
