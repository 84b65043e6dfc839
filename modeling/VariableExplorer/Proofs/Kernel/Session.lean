import VariableExplorer.Proofs.Kernel.Desk
import VariableExplorer.Proofs.Kernel.Work
import VariableExplorer.Proofs.Value.Notation

/-!
Sessions at a desk. Between one act and the next a desk is live: its shell is one still, its kernel
is open and reports, and no refresh is under way.
-/

namespace VariableExplorer

open Eval

theorem Workspace.setUp_free {κ ι : Type} {settings : Settings} {vars : Variables}
    {subscribers subscribers' : Subscribers κ} {replica : κ} {w : Workspace ι}
    (h : setUp settings vars subscribers replica = (subscribers', .ok w)) :
    w.replica.busy = false := by
  unfold setUp at h
  split at h
  · cases h
  · obtain ⟨-, h⟩ := Prod.mk.inj h
    cases hwait : settings.waitTimeout vars with
    | error f =>
      rw [hwait] at h
      cases h
    | ok wait =>
      cases hmax : settings.maxResults vars with
      | error f =>
        rw [hwait, hmax] at h
        cases h
      | ok max =>
        rw [hwait, hmax] at h
        cases h
        rfl

theorem Shell.environment_eq_ok {known : List String} {vars : List (String × Recipe)} {env : Ref}
    {s t : Store} (h : (environment known vars).run s = (.ok env, t)) : ∃ universal u,
      u.Binds env [(universalKey, universal)] ∧ (s.Civil → u.Civil) ∧
        (bindAll env vars).run u = (.ok (), t) := by
  obtain ⟨universal, s₁, h₁, h⟩ := run_bind_eq_ok h
  obtain ⟨r, u, h₂, h⟩ := run_bind_eq_ok h
  obtain ⟨⟨⟩, s₃, h₃, h⟩ := run_bind_eq_ok h
  cases h
  cases h₂
  refine ⟨universal, _, ⟨?_, by simp⟩, fun hs ↦ ?_, h₃⟩
  · exact Store.get?_alloc.trans (if_pos rfl)
  · exact ((Tame.newDict _).ends hs h₁).civil.alloc (by simp)

namespace Kernel

variable {κ : Type} {env : Ref}

/-- A new kernel has come to be by these steps. -/
theorem new_eq_ok {known : List String} {vars : List (String × Recipe)} {hasHost : Bool}
    {k : Kernel κ} (h : Kernel.new known vars hasHost = .ok k) : ∃ s₁ s₂ s₃ host,
      (Shell.environment known vars).run {} = (.ok k.env, s₁) ∧
      newSelf.run s₁ = (.ok k.self, s₂) ∧ s₂.Keeps s₃ ∧ (s₂.Civil → s₃.Civil) ∧
      (provide k.env k.self host).run s₃ = (.ok (), k.store) ∧ (host : Option Ref).isSome = hasHost ∧
      k = { store := k.store, env := k.env, self := k.self, hosts := host.toList } := by
  unfold Kernel.new at h
  extract_lets made at h
  split at h
  next env self hosts store hrun =>
    cases h
    obtain ⟨env', s₁, h₁, hrun⟩ := run_bind_eq_ok hrun
    obtain ⟨self', s₂, h₂, hrun⟩ := run_bind_eq_ok hrun
    extract_lets finish at hrun
    cases hasHost with
    | true =>
      obtain ⟨host, s₃, h₃, hrun⟩ := run_bind_eq_ok hrun
      rw [pure_bind] at hrun
      obtain ⟨⟨⟩, s₄, h₄, hrun⟩ := run_bind_eq_ok hrun
      cases hrun
      cases h₃
      exact ⟨s₁, s₂, _, some _, h₁, h₂, s₂.keeps_alloc _, fun hs ↦ hs.alloc (by simp), h₄, rfl, rfl⟩
    | false =>
      rw [if_neg Bool.false_ne_true, pure_bind] at hrun
      obtain ⟨⟨⟩, s₄, h₄, hrun⟩ := run_bind_eq_ok hrun
      cases hrun
      exact ⟨s₁, s₂, s₂, none, h₁, h₂, .refl s₂, id, h₄, rfl, rfl⟩
  · cases h

theorem newSelf_tame : Tame newSelf :=
  (Recipe.newClass_tame (Recipe.classTail_civil _ _ _)).bind fun _ _ ↦ (Tame.newList _).bind
    fun _ _ ↦ (Recipe.newAttrs_tame _).bind fun _ _ ↦ Tame.new (by simp)

theorem bindNew_upholds (name : String) {v : Eval Value} (h : Tame v) :
    Upholds env (bindNew env name v) :=
  .get fun _ ↦ .ite (.pure _) (h.upholds.bind fun _ ↦ Shell.bind_upholds _ _)

theorem nameHost_upholds (self : Value) (host : Ref) : Upholds env (nameHost self host) := by
  refine .get fun s ↦ ?_
  split
  · exact Shell.bind_upholds_of_any _ _ _
  · exact .pure _

theorem provide_upholds (self : Value) (host : Option Ref) :
    Upholds env (provide env self host) := by
  have hshown (h : Ref) (name : String) :
      Tame (do Eval.newMethod (.ref h) (← Eval.newFunction name)) :=
    (Tame.newFunction name).bind fun _ _ ↦ Tame.newMethod _ _
  unfold provide
  cases host with
  | none => exact Shell.bind_upholds _ _
  | some h =>
    exact .bind (nameHost_upholds _ _) fun _ ↦ .bind (bindNew_upholds _ (hshown h _)) fun _ ↦
      .bind (bindNew_upholds _ (hshown h _)) fun _ ↦ Shell.bind_upholds _ _

theorem environment_sound {known : List String} {vars : List (String × Recipe)}
    (hvars : ∀ e ∈ vars, Tame e.2) {s t : Store} (hs : s.Civil)
    (h : (Shell.environment known vars).run s = (.ok env, t)) : Shell.Sound env t := by
  obtain ⟨universal, u, hbinds, hcivil, hrun⟩ := Shell.environment_eq_ok h
  exact (Shell.bindAll_upholds hvars).sound ⟨hcivil hs, _, hbinds⟩ hrun

theorem new_sound {known : List String} {vars : List (String × Recipe)} {hasHost : Bool}
    {k : Kernel κ} (hvars : ∀ e ∈ vars, Tame e.2) (h : Kernel.new known vars hasHost = .ok k) :
    Shell.Sound k.env k.store ∧ k.closed = false ∧ k.reporting = true := by
  obtain ⟨s₁, s₂, s₃, host, h₁, h₂, hkeeps, hcivil, h₃, -, hk⟩ := new_eq_ok h
  have hsound₁ := environment_sound hvars (fun r o d hr ↦ by cases hr) h₁
  have hsound₂ := newSelf_tame.upholds.sound hsound₁ h₂
  have hsound₃ : Shell.Sound k.env s₃ :=
    ⟨hcivil hsound₂.civil, hsound₂.binds.imp fun _ hbinds ↦ hbinds.keeps hkeeps⟩
  exact ⟨(provide_upholds _ _).sound hsound₃ h₃, congrArg closed hk, congrArg reporting hk⟩

theorem attach_eq (k : Kernel κ) : ∃ t hosts, k.attach = { k with store := t, hosts := hosts } ∧
    (Shell.Sound k.env k.store → Shell.Sound k.env t) := by
  have hsound : Upholds k.env (do
      let h ← Eval.alloc ⟨.native "object", .plain, none, []⟩
      provide k.env k.self (some h)
      return h) :=
    .bind (Tame.alloc (by simp)).upholds fun h ↦ .bind (provide_upholds _ _) fun _ ↦ .pure _
  unfold attach
  dsimp only [eval]
  split
  · exact ⟨_, _, rfl, hsound k.store⟩
  · exact ⟨_, k.hosts, rfl, hsound k.store⟩

end Kernel

namespace Desk

variable {α β : Type} {d d' : Desk}

/-- A desk at which a refresh can begin. -/
structure Live (d : Desk) : Prop where
  sound : Shell.Sound d.kernel.env d.kernel.store
  isOpen : d.kernel.closed = false
  reporting : d.kernel.reporting = true
  free : d.workspace.replica.busy = false

theorem Live.worked (h : Live d) (hw : Worked d d') : Live d' where
  sound := hw.env ▸ hw.sound h.sound
  isOpen := hw.closed.trans h.isOpen
  reporting := hw.reporting.trans h.reporting
  free := hw.workspace ▸ h.free

theorem refresh_eq_of_free (hfree : d.workspace.replica.busy = false) :
    ∃ found t, (refresh.run d).2 =
      { d with kernel.store := t, workspace.replica := d.workspace.replica.settle found } ∧
      (Shell.Sound d.kernel.env d.kernel.store → Shell.Sound d.kernel.env t) := by
  obtain ⟨found, t, hb, hsound⟩ :=
    build_run { d with workspace.replica.busy := true } d.workspace.replica.timeout
  exact ⟨found, t, by rw [refresh_run hfree hb], hsound⟩

theorem Live.refresh (h : Live d) : Live (refresh.run d).2 := by
  obtain ⟨found, t, hrun, hsound⟩ := refresh_eq_of_free h.free
  rw [hrun]
  exact ⟨hsound h.sound, h.isOpen, h.reporting, rfl⟩

theorem tell_observer (n : Nat) (d : Desk) :
    ∃ es, ((tell (.observer n)).run d).2 = { d with events := es } := by
  rw [tell, run_desk_bind]
  split
  · exact ⟨_, rfl⟩
  · exact ⟨d.events, rfl⟩

theorem forM_tell {P : Desk → Prop} (hrecord : ∀ d es, P d → P { d with events := es })
    (hrefresh : ∀ d, P d → P (refresh.run d).2) (cs : List Watcher) (h : P d) :
    P ((cs.forM tell).run d).2 := by
  induction cs generalizing d with
  | nil => exact h
  | cons c cs ih =>
    refine ih (d := ((tell c).run d).2) ?_
    cases c with
    | replica => exact hrefresh d h
    | observer n =>
      obtain ⟨es, hes⟩ := tell_observer n d
      rw [hes]
      exact hrecord d es h

theorem forM_tell_of_mem {P Q : Desk → Prop} (hrecord : ∀ d es, P d → P { d with events := es })
    (hestablish : ∀ d, P d → Q (refresh.run d).2) (hrecord' : ∀ d es, Q d → Q { d with events := es })
    (hrefresh : ∀ d, Q d → Q (refresh.run d).2)
    {cs : List Watcher} (hmem : .replica ∈ cs) (h : P d) : Q ((cs.forM tell).run d).2 := by
  induction cs generalizing d with
  | nil => cases hmem
  | cons c cs ih =>
    cases c with
    | replica => exact forM_tell hrecord' hrefresh cs (hestablish d h)
    | observer n =>
      obtain ⟨es, hes⟩ := tell_observer n d
      refine ih (d := ((tell (.observer n)).run d).2) (by simpa using hmem) ?_
      rw [hes]
      exact hrecord d es h

theorem Live.notify (h : Live d) : Live ((Kernel.notify tell).run d).2 ∧
    ((Kernel.notify tell).run d).2.kernel.env = d.kernel.env ∧
    ((Kernel.notify tell).run d).2.kernel.subscribers = d.kernel.subscribers := by
  refine forM_tell (P := fun d' ↦ Live d' ∧ d'.kernel.env = d.kernel.env ∧
    d'.kernel.subscribers = d.kernel.subscribers) ?_ ?_ _ ⟨h, rfl, rfl⟩
  · exact fun _ _ ⟨h, hsame⟩ ↦ ⟨⟨h.sound, h.isOpen, h.reporting, h.free⟩, hsame⟩
  · intro d' ⟨h, hsame⟩
    obtain ⟨found, t, hrun, hsound⟩ := refresh_eq_of_free h.free
    refine ⟨h.refresh, ?_⟩
    rw [hrun]
    exact hsame

inductive Act
  | push (vars : List (String × Recipe))
  | execute (code : String) (tag : Option String) (cell : Cell)

namespace Act

def Tame : Act → Prop
  | push vars => ∀ e ∈ vars, Eval.Tame e.2
  | execute _ _ cell => cell.Tame

def prepare : Act → Acting (Except Fault Unit)
  | push vars => do
    let k : Kernel Watcher ← getThe (Kernel Watcher)
    Kernel.evaluating (κ := Watcher) (Shell.bindAll k.env vars)
  | execute _ _ cell => do return (← Kernel.perform (κ := Watcher) display cell).map fun _ ↦ ()

def run : Act → Acting (Except Fault Unit)
  | push vars => Desk.push vars
  | execute code tag cell => do return (← Desk.execute code tag cell).map fun _ ↦ ()

theorem prepare_worked {a : Act} (h : a.Tame) (d : Desk) : Worked d (a.prepare.run d).2 := by
  cases a with
  | push vars => exact .get (evaluating_worked (Shell.bindAll_upholds h))
  | execute code tag cell => exact (perform_worked h d).bind fun _ ↦ .pure _

/-- Unless an act fails while it is prepared everyone is told of it, and what it does then only adds
to the store. -/
theorem run_cases (hreporting : d.kernel.reporting = true) (a : Act) :
    (∃ f, (a.prepare.run d).1 = .error f ∧ a.run.run d = (.error f, (a.prepare.run d).2)) ∨
    ((a.prepare.run d).1 = .ok () ∧
      Added ((Kernel.notify tell).run (a.prepare.run d).2).2 (a.run.run d).2) := by
  cases a with
  | push vars =>
    rcases hr : (Kernel.evaluating (κ := Watcher) (m := Acting)
      (Shell.bindAll d.kernel.env vars)).run d with ⟨r, t⟩
    have hprepare : (prepare (.push vars)).run d = (r, t) := hr
    rw [hprepare, run, Desk.push, Kernel.push, run_kernel_bind, run_bind hr]
    cases r with
    | error f => exact .inl ⟨f, rfl, rfl⟩
    | ok u => exact .inr ⟨rfl, .refl _⟩
  | execute code tag cell =>
    rcases hr : (Kernel.perform (κ := Watcher) display cell).run d with ⟨r, t⟩
    have hprepare : (prepare (.execute code tag cell)).run d = (r.map fun _ ↦ (), t) := run_bind hr
    rw [hprepare, run, Desk.execute, Kernel.execute, bind_assoc, run_kernel_bind, bind_assoc,
      run_bind hr]
    cases r with
    | error f => exact .inl ⟨f, rfl, rfl⟩
    | ok result =>
      refine .inr ⟨rfl, ?_⟩
      dsimp only
      rw [if_pos hreporting]
      have hconcluded : Adds (Kernel.conclude (κ := Watcher) display code tag cell result) :=
        Adds.chained.conclude Adds.display code tag cell fun _ _ ↦ .pure _
      exact Adds.bind hconcluded (fun _ ↦ .pure _) _

theorem push_ofJson_tame (o : Origin) {j : Json} (hj : j.Civil) :
    Tame (.push (Recipe.namedOfJson o j)) := Recipe.namedOfJson_tame o hj

theorem push_value_tame (name : String) (v : Value) : Tame (.push [(name, pure v)]) :=
  List.forall_mem_singleton.mpr (.pure trivial)

theorem push_value {vars : List (String × Value)}
    (h : d.kernel.store.Binds d.kernel.env vars) (name : String) (v : Value) :
    (prepare (.push [(name, pure v)])).run d = (.ok (), { d with
      kernel.store := d.kernel.store.set d.kernel.env
        ⟨.native "dict", .dict ((Shell.assign name v vars).map asEntry), none, []⟩ }) ∧
    ∃ d', (run (.push [(name, pure v)])).run d = (.ok (), d') := by
  have hprepare := evaluating_run (d := d)
    (x := Shell.bindAll d.kernel.env [(name, pure v)]) (run_bind_of_ok (Shell.bind_run h name v))
  refine ⟨hprepare, ?_⟩
  rw [run, Desk.push, Kernel.push, run_kernel_bind, run_bind hprepare]
  exact ⟨_, rfl⟩

end Act

theorem Live.act (h : Live d) {a : Act} (ha : a.Tame) : Live (a.run.run d).2 ∧
    (a.run.run d).2.kernel.env = d.kernel.env ∧
    (a.run.run d).2.kernel.subscribers = d.kernel.subscribers := by
  have hworked := Act.prepare_worked ha d
  have hprepared := h.worked hworked
  obtain ⟨f, -, hrun⟩ | ⟨-, hadded⟩ := Act.run_cases h.reporting a
  · rw [hrun]
    exact ⟨hprepared, hworked.env, hworked.subscribers⟩
  · obtain ⟨hlive, henv, hsame⟩ := hprepared.notify
    exact ⟨hlive.worked hadded.toWorked, hadded.env.trans (henv.trans hworked.env),
      hadded.subscribers.trans (hsame.trans hworked.subscribers)⟩

/-- The desks of a session: of a new kernel that is attached to, asked and watched, over which
workspaces are opened and closed, and whose variables are changed. -/
inductive Session : Desk → Prop
  | new {known : List String} {vars : List (String × Recipe)} {hasHost : Bool}
      {k : Kernel Watcher} : (∀ e ∈ vars, Eval.Tame e.2) →
      Kernel.new known vars hasHost = .ok k → Session { kernel := k }
  | attach {d : Desk} : Session d → Session { d with kernel := d.kernel.attach }
  | ask {d : Desk} (c : Call) : Session d → Session ((ask c).run d).2
  | evaluate {d : Desk} (expression : String) : Session d → Session
      ((Kernel.evaluating (κ := Watcher) (m := Acting)
        (evaluateChain d.kernel.env expression)).run d).2
  | observe {d : Desk} (label : String) : Session d → Session ((observe label).run d).2
  | unobserve {d : Desk} (label : String) : Session d → Session ((unobserve label).run d).2
  | openWorkspace {d : Desk} (settings : Settings) (vars : Variables) :
      Session d → Session ((openWorkspace settings vars).run d).2
  | closeWorkspace {d : Desk} : Session d → Session (closeWorkspace.run d).2
  | act {d : Desk} {a : Act} : Session d → a.Tame → Session (a.run.run d).2

section

variable {settings : Settings} {vars : Variables} {subscribers : Subscribers Watcher}

theorem openWorkspace_of_error {f : Settings.Fault}
    (h : Workspace.setUp (ι := Empty) settings vars d.kernel.subscribers .replica =
      (subscribers, .error f)) :
    (openWorkspace settings vars).run d =
      (.error f, { d with kernel.subscribers := subscribers }) := by
  rw [openWorkspace, run_desk_bind, h]
  rfl

theorem openWorkspace_of_ok {w : Workspace Empty}
    (h : Workspace.setUp settings vars d.kernel.subscribers .replica = (subscribers, .ok w)) :
    (openWorkspace settings vars).run d = (.ok (),
      (refresh.run { d with kernel.subscribers := subscribers, workspace := w }).2) := by
  rw [openWorkspace, run_desk_bind, h]
  rfl

end

theorem unobserve_run (label : String) (d : Desk) : ∃ subscribers,
    ((unobserve label).run d).2 = { d with kernel.subscribers := subscribers } := by
  simp only [unobserve, StateT.run]
  split
  · exact ⟨_, rfl⟩
  · exact ⟨_, rfl⟩

theorem Session.live {d : Desk} (h : Session d) : Live d := by
  -- What is asked and what is evaluated may add to the store, and keep its variables sound.
  induction h with
  | new hvars hk =>
    obtain ⟨hsound, hopen, hreporting⟩ := Kernel.new_sound hvars hk
    exact ⟨hsound, hopen, hreporting, rfl⟩
  | @attach d _ ih =>
    obtain ⟨t, hosts, hattach, hsound⟩ := d.kernel.attach_eq
    rw [hattach]
    exact ⟨hsound ih.sound, ih.isOpen, ih.reporting, ih.free⟩
  | @ask d c _ ih =>
    obtain ⟨t, ht, hsound⟩ := d.kernel.answer_store c
    show Live { d with kernel := (d.kernel.answer c).2 }
    rw [ht]
    exact ⟨hsound ih.sound, ih.isOpen, ih.reporting, ih.free⟩
  | evaluate expression _ ih => exact ih.worked (evaluating_worked (evaluateChain_upholds _ _))
  | observe label _ ih => exact ⟨ih.sound, ih.isOpen, ih.reporting, ih.free⟩
  | @unobserve d label _ ih =>
    obtain ⟨subscribers, h⟩ := unobserve_run label d
    rw [h]
    exact ⟨ih.sound, ih.isOpen, ih.reporting, ih.free⟩
  | @openWorkspace d settings vars _ ih =>
    rcases hset : Workspace.setUp (ι := Empty) settings vars d.kernel.subscribers Watcher.replica
      with ⟨subscribers, made⟩
    cases made with
    | error f =>
      rw [openWorkspace_of_error hset]
      exact ⟨ih.sound, ih.isOpen, ih.reporting, ih.free⟩
    | ok w =>
      rw [openWorkspace_of_ok hset]
      exact Live.refresh ⟨ih.sound, ih.isOpen, ih.reporting, Workspace.setUp_free hset⟩
  | closeWorkspace _ ih => exact ⟨ih.sound, ih.isOpen, ih.reporting, ih.free⟩
  | act _ ha ih => exact (ih.act ha).1

end Desk

end VariableExplorer
