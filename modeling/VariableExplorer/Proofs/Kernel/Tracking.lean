import VariableExplorer.Proofs.Kernel.Session

/-!
How a replica keeps in step with the namespace. After every push and every cell its snapshot holds
the variables, as long as the expression for the global environment gives the namespace; where this
expression fails the snapshot stays as it was.
-/

namespace VariableExplorer.Desk

open Replica

variable {d : Desk} {since : Store} {env : Ref} {x : Snapshot}

/-- A live desk whose global environment is known, with all the objects there were. -/
structure Knows (since : Store) (env : Ref) (d : Desk) : Prop extends Live d where
  env_eq : d.kernel.env = env
  known : Shell.Known env d.kernel.store
  keeps : since.Keeps (Shell.provided env d.kernel.store)

/-- A desk at which the replica has caught up with the namespace. -/
structure Tracks (since : Store) (env : Ref) (d : Desk) : Prop extends Knows since env d where
  mirrors : Mirrors since d.kernel.store env d.workspace.replica.snapshot

theorem Knows.refresh (h : Knows since env d) : Tracks since env (refresh.run d).2 := by
  obtain ⟨hlive, rfl, hknown, hsince⟩ := h
  obtain ⟨x, t, hb, hcivil, hmirrors⟩ :=
    build_of_known (d := { d with workspace.replica.busy := true }) hlive.isOpen hlive.sound hknown
      d.workspace.replica.timeout
  have hlive' := hlive.refresh
  rw [refresh_run hlive.free hb] at hlive' ⊢
  refine ⟨⟨hlive', rfl, hknown.keeps hlive.sound hmirrors.keeps, ?_⟩, hmirrors.mono hsince (.refl t)⟩
  show since.Keeps (Shell.provided d.kernel.env t)
  rw [Shell.provided_of_keeps hlive.sound hmirrors.keeps]
  exact hsince.trans hmirrors.keeps

theorem Knows.notify (h : Knows since env d)
    (hsub : .replica ∈ d.kernel.subscribers.callbacks) :
    Tracks since env ((Kernel.notify tell).run d).2 :=
  forM_tell_of_mem (fun _ _ h ↦ ⟨⟨h.sound, h.isOpen, h.reporting, h.free⟩, h.env_eq, h.known, h.keeps⟩)
    (fun _ h ↦ h.refresh)
    (fun _ _ h ↦ ⟨⟨⟨h.sound, h.isOpen, h.reporting, h.free⟩, h.env_eq, h.known, h.keeps⟩, h.mirrors⟩)
    (fun _ h ↦ h.toKnows.refresh) hsub h

/-- A live desk whose global environment cannot be evaluated, with the snapshot of before. -/
structure Loses (x : Snapshot) (env : Ref) (d : Desk) : Prop extends Live d where
  env_eq : d.kernel.env = env
  lost : Shell.Lost env d.kernel.store
  snapshot : d.workspace.replica.snapshot = x

theorem Loses.refresh (h : Loses x env d) : Loses x env (refresh.run d).2 := by
  obtain ⟨hlive, rfl, hlost, hsnapshot⟩ := h
  obtain ⟨t, hb, hkeeps, hcivil⟩ :=
    build_of_lost (d := { d with workspace.replica.busy := true }) hlive.isOpen hlive.sound hlost
      d.workspace.replica.timeout
  have hlive' := hlive.refresh
  rw [refresh_run hlive.free hb] at hlive' ⊢
  exact ⟨hlive', rfl, hlost.keeps hlive.sound hkeeps, hsnapshot⟩

theorem Loses.notify (h : Loses x env d) : Loses x env ((Kernel.notify tell).run d).2 :=
  forM_tell (fun _ _ h ↦ ⟨⟨h.sound, h.isOpen, h.reporting, h.free⟩, h.env_eq, h.lost, h.snapshot⟩)
    (fun _ h ↦ h.refresh) _ h

theorem openWorkspace_tracks (h : Live d) (hk : Shell.Known d.kernel.env d.kernel.store)
    {settings : Settings} {vars : Variables} {w : Workspace Empty}
    (hset : Workspace.setUp settings vars d.kernel.subscribers .replica =
      (d.kernel.subscribers.add .replica, .ok w)) {d' : Desk}
    (hopen : ((openWorkspace settings vars).run d).2 = d') :
    Tracks (Shell.provided d.kernel.env d.kernel.store) d.kernel.env d' ∧
      .replica ∈ d'.kernel.subscribers.callbacks := by
  have hlive : Live { d with
      kernel.subscribers := d.kernel.subscribers.add .replica, workspace := w } :=
    ⟨h.sound, h.isOpen, h.reporting, Workspace.setUp_free hset⟩
  obtain ⟨found, t, hrun, -⟩ := refresh_eq_of_free hlive.free
  rw [← hopen, openWorkspace_of_ok hset]
  refine ⟨Knows.refresh ⟨hlive, rfl, hk, .refl _⟩, ?_⟩
  rw [hrun]
  exact List.mem_append_right _ List.mem_cons_self

/-- After every push and every cell of a session the snapshot has the names of the namespace in
their order, and each entry describes the value now bound, if the expression for the global
environment gave the namespace when the replica was told. If this expression failed the snapshot is
the one of before. -/
theorem Session.snapshot_tracks {d told after : Desk} (hd : Session d)
    (hsub : .replica ∈ d.kernel.subscribers.callbacks) {a : Act} (ha : a.Tame)
    (htold : (a.prepare.run d).2 = told) (hafter : a.run.run d = (.ok (), after)) :
    (Shell.Known told.kernel.env told.kernel.store →
      after.workspace.replica.snapshot.names = after.kernel.names ∧
      Mirrors (Shell.provided told.kernel.env told.kernel.store) after.kernel.store
        after.kernel.env after.workspace.replica.snapshot) ∧
    (Shell.Lost told.kernel.env told.kernel.store →
      after.workspace.replica.snapshot = d.workspace.replica.snapshot) := by
  have hworked : Worked d told := htold ▸ Act.prepare_worked ha d
  have hlive := hd.live.worked hworked
  have hadded : Added ((Kernel.notify tell).run told).2 after := by
    have hcases := Act.run_cases hd.live.reporting a
    rw [hafter, htold] at hcases
    obtain ⟨f, -, hrun⟩ | ⟨-, hadded⟩ := hcases
    · cases hrun
    · exact hadded
  refine ⟨fun hknown ↦ ?_, fun hlost ↦ ?_⟩
  · have htracks := Knows.notify ⟨hlive, rfl, hknown, .refl _⟩ (hworked.subscribers ▸ hsub)
    have hmirrors : Mirrors (Shell.provided told.kernel.env told.kernel.store) after.kernel.store
        after.kernel.env after.workspace.replica.snapshot := by
      rw [hadded.env, hadded.workspace, htracks.env_eq]
      exact htracks.mirrors.mono (.refl _) (hadded.adds htracks.sound.civil).1
    exact ⟨hmirrors.names, hmirrors⟩
  · have hloses := Loses.notify (x := d.workspace.replica.snapshot)
      ⟨hlive, rfl, hlost, by rw [hworked.workspace]⟩
    rw [hadded.workspace, hloses.snapshot]

theorem exists_session : ∃ d : Desk, Session d ∧ .replica ∈ d.kernel.subscribers.callbacks ∧
    d.kernel.env = 1 ∧
    d.kernel.store.Binds d.kernel.env [("__builtins__", .ref 0), ("_kernel", .ref 5)] ∧
    d.kernel.store.IsDict 0 ([("globals", Shell.globalsFunction)].map asEntry) := by
  obtain ⟨k, hk, henv, hvars, hknown⟩ : ∃ k : Kernel Watcher,
      Kernel.new ["globals"] [] false = .ok k ∧ k.env = 1 ∧
      k.store.Binds k.env [("__builtins__", .ref 0), ("_kernel", .ref 5)] ∧
      k.store.IsDict 0 ([("globals", Shell.globalsFunction)].map asEntry) :=
    ⟨_, rfl, rfl, ⟨rfl, by decide⟩, rfl⟩
  have hnew : Session { kernel := k } := .new (by simp) hk
  obtain ⟨d, hopen⟩ : ∃ d, ((openWorkspace {} []).run { kernel := k }).2 = d := ⟨_, rfl⟩
  obtain ⟨htracks, hsub⟩ := openWorkspace_tracks hnew.live
    (.of_meant hnew.live.sound (.universal hvars rfl rfl hknown rfl)) rfl hopen
  have hkeeps := htracks.mirrors.keeps
  rw [Shell.provided_of_bound hvars rfl] at hkeeps
  exact ⟨d, hopen ▸ .openWorkspace {} [] hnew, hsub, htracks.env_eq.trans henv,
    htracks.env_eq ▸ hvars.keeps hkeeps, hknown.keeps hkeeps⟩

/-- In a new session the snapshot has `x` once it is pushed, and it stays like this when `globals` is
pushed. -/
theorem snapshot_tracks_push : ∃ d d₁ d₂ : Desk, Session d ∧
    (Act.run (.push [("x", pure (.int 1))])).run d = (.ok (), d₁) ∧
    (Act.run (.push [("globals", pure (.int 5))])).run d₁ = (.ok (), d₂) ∧
    d₁.workspace.replica.snapshot.names = ["__builtins__", "_kernel", "x"] ∧
    ((Act.prepare (.push [("globals", pure (.int 5))])).run d₁).2.kernel.names =
      ["__builtins__", "_kernel", "x", "globals"] ∧
    d₂.workspace.replica.snapshot.names = ["__builtins__", "_kernel", "x"] := by
  obtain ⟨d, hd, hsub, henv, hvars, hknown⟩ := exists_session
  let vars₁ := Shell.assign "x" (.int 1) [("__builtins__", .ref 0), ("_kernel", .ref 5)]
  let vars₂ := Shell.assign "globals" (.int 5) vars₁
  -- `x` is pushed
  obtain ⟨hprepare, d₁, hd₁⟩ := Act.push_value hvars "x" (.int 1)
  have ha := Act.push_value_tame "x" (.int 1)
  have hlive := hd.live.worked (Act.prepare_worked ha d)
  obtain ⟨htracked, -⟩ := hd.snapshot_tracks hsub ha rfl hd₁
  rw [hprepare] at htracked hlive
  have hvars₁ : Store.Binds _ _ vars₁ := hvars.set (by decide)
  have hknown₁ := hknown.set_of_ne (r := d.kernel.env)
    (o := ⟨.native "dict", .dict (vars₁.map asEntry), none, []⟩) (by rw [henv]; decide)
  obtain ⟨hnames, hmirrors⟩ :=
    htracked (.of_meant hlive.sound (.universal hvars₁ rfl rfl hknown₁ rfl))
  have hact := hd.live.act ha
  have hsession := Session.act hd ha
  rw [hd₁] at hact hsession
  obtain ⟨-, henv₁, hsub₁⟩ := hact
  have hkeeps := hmirrors.keeps
  rw [Shell.provided_of_bound hvars₁ rfl] at hkeeps
  have hvars₁ := henv₁.symm ▸ hvars₁.keeps hkeeps
  -- `globals` is pushed
  obtain ⟨hprepare₁, d₂, hd₂⟩ := Act.push_value hvars₁ "globals" (.int 5)
  have ha₁ := Act.push_value_tame "globals" (.int 5)
  have hlive₁ := hsession.live.worked (Act.prepare_worked ha₁ d₁)
  obtain ⟨-, hfrozen⟩ := hsession.snapshot_tracks (hsub₁ ▸ hsub) ha₁ rfl hd₂
  rw [hprepare₁] at hfrozen hlive₁
  have hvars₂ : Store.Binds _ _ vars₂ := hvars₁.set (by decide)
  have hsame := hfrozen (.of_bound hlive₁.sound hvars₂ rfl fun t ↦ ⟨_, rfl⟩)
  have hnames₁ := hnames.trans hvars₁.names
  exact ⟨d, d₁, d₂, hd, hd₁, hd₂, hnames₁, hprepare₁ ▸ hvars₂.names,
    (congrArg Snapshot.names hsame).trans hnames₁⟩

end VariableExplorer.Desk
