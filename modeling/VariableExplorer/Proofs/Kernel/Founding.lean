import VariableExplorer.Proofs.Kernel.Session
import VariableExplorer.Proofs.Settings.Preferences

/-!
What making a workspace leaves of a session's subscribers. The replica is subscribed between the
preference that is read for it and those that are read for the provider, and nothing takes it out
again where one of these is too large to be read.
-/

namespace VariableExplorer

open Settings

/-- The first preference for a workspace that is too large to be read, and whether the replica is
subscribed by then. -/
inductive Settings.Withholds (s : Settings) (vars : Variables) : Bool → Settings.Fault → Prop
  | refreshTimeout {v : Json} {f : Settings.Fault} :
      s.value? vars "refresh_timeout" "NSMIRROR_REFRESH_TIMEOUT" = some v → BeyondFloat v f →
      Withholds s vars false f
  | waitTimeout {x : Float} {v : Json} {f : Settings.Fault} : s.refreshTimeout vars = .ok x →
      s.value? vars "wait_timeout" "NSMIRROR_WAIT_TIMEOUT" = some v → BeyondFloat v f →
      Withholds s vars true f
  | maxResults {x y : Float} {v : Json} {f : Settings.Fault} : s.refreshTimeout vars = .ok x →
      s.waitTimeout vars = .ok y →
      s.value? vars "max_results" "NSMIRROR_MAX_RESULTS" = some v → BeyondInt v f →
      Withholds s vars true f

/-- What making a workspace comes to for the subscribers of a session. -/
structure Founds {κ α : Type} (s : Settings) (vars : Variables) (before : Subscribers κ)
    (replica : κ) (after : Subscribers κ) (made : Except Settings.Fault α) : Prop where
  raises : ∀ f, made = .error f ↔ ∃ b, s.Withholds vars b f
  untouched : ∀ f, s.Withholds vars false f → after = before
  subscribes : (∀ f, ¬ s.Withholds vars false f) → after = before.add replica

section

variable {s : Settings} {vars : Variables} {f : Settings.Fault}

theorem withholds_false_iff : s.Withholds vars false f ↔ s.refreshTimeout vars = .error f := by
  constructor
  · intro h
    cases h with
    | refreshTimeout hv hf => exact positiveFloat_eq_error_iff.mpr ⟨_, hv, hf⟩
  · intro h
    obtain ⟨v, hv, hf⟩ := positiveFloat_eq_error_iff.mp h
    exact .refreshTimeout hv hf

theorem withholds_true_iff : s.Withholds vars true f ↔ ∃ x, s.refreshTimeout vars = .ok x ∧
    (s.waitTimeout vars = .error f ∨
      ∃ y, s.waitTimeout vars = .ok y ∧ s.maxResults vars = .error f) := by
  constructor
  · intro h
    cases h with
    | waitTimeout hx hv hf => exact ⟨_, hx, .inl (positiveFloat_eq_error_iff.mpr ⟨_, hv, hf⟩)⟩
    | maxResults hx hy hv hf =>
      exact ⟨_, hx, .inr ⟨_, hy, positiveInt_eq_error_iff.mpr ⟨_, hv, hf⟩⟩⟩
  · rintro ⟨x, hx, h | ⟨y, hy, h⟩⟩
    · obtain ⟨v, hv, hf⟩ := positiveFloat_eq_error_iff.mp h
      exact .waitTimeout hx hv hf
    · obtain ⟨v, hv, hf⟩ := positiveInt_eq_error_iff.mp h
      exact .maxResults hx hy hv hf

theorem exists_withholds_iff : (∃ b, s.Withholds vars b f) ↔ s.refreshTimeout vars = .error f ∨
    ∃ x, s.refreshTimeout vars = .ok x ∧ (s.waitTimeout vars = .error f ∨
      ∃ y, s.waitTimeout vars = .ok y ∧ s.maxResults vars = .error f) := by
  rw [Bool.exists_bool, withholds_false_iff, withholds_true_iff]

end

namespace Workspace

variable {κ ι : Type}

theorem setUp_founds (s : Settings) (vars : Variables) (before : Subscribers κ) (replica : κ) :
    Founds s vars before replica (setUp (ι := ι) s vars before replica).1
      (setUp (ι := ι) s vars before replica).2 := by
  rw [setUp]
  cases hrefresh : s.refreshTimeout vars with
  | error f =>
    refine ⟨fun g ↦ ?_, fun _ _ ↦ rfl, fun h ↦ absurd (withholds_false_iff.mpr hrefresh) (h f)⟩
    rw [exists_withholds_iff, hrefresh]
    simp
  | ok x =>
    refine ⟨fun g ↦ ?_, fun g hg ↦ ?_, fun _ ↦ rfl⟩
    swap
    · exact nomatch hrefresh.symm.trans (withholds_false_iff.mp hg)
    rw [exists_withholds_iff, hrefresh]
    cases s.waitTimeout vars with
    | error f => simp [bind, Except.bind]
    | ok y => cases s.maxResults vars <;> simp [bind, Except.bind, pure, Except.pure]

theorem close_subscribers [BEq κ] [LawfulBEq κ] (w : Workspace ι) {earlier later : List κ}
    {replica : κ} (h : replica ∉ earlier) :
    (w.close ⟨earlier ++ replica :: later⟩ replica).1 = ⟨earlier ++ later⟩ := by
  rw [close, Subscribers.cancel, List.erase_append_right _ h, List.erase_cons_head]

end Workspace

namespace Desk

theorem openWorkspace_founds (s : Settings) (vars : Variables) (d : Desk) :
    Founds s vars d.kernel.subscribers .replica ((openWorkspace s vars).run d).2.kernel.subscribers
      ((openWorkspace s vars).run d).1 := by
  have hfounds := Workspace.setUp_founds (ι := Empty) s vars d.kernel.subscribers Watcher.replica
  rcases hset : Workspace.setUp (ι := Empty) s vars d.kernel.subscribers Watcher.replica
    with ⟨subscribers, made⟩
  rw [hset] at hfounds
  cases made with
  | error f =>
    rw [openWorkspace_of_error hset]
    exact ⟨fun g ↦ by simpa using hfounds.raises g, hfounds.untouched, hfounds.subscribes⟩
  | ok w =>
    obtain ⟨found, t, hrefresh, -⟩ := refresh_eq_of_free
      (d := { d with kernel.subscribers := subscribers, workspace := w }) (Workspace.setUp_free hset)
    rw [openWorkspace_of_ok hset, hrefresh]
    exact ⟨fun g ↦ by simpa using hfounds.raises g, hfounds.untouched, hfounds.subscribes⟩

theorem closeWorkspace_subscribers {d : Desk} {earlier later : List Watcher}
    (hd : d.kernel.subscribers = ⟨earlier ++ .replica :: later⟩) (h : .replica ∉ earlier) :
    (closeWorkspace.run d).2.kernel.subscribers = ⟨earlier ++ later⟩ := by
  show (d.workspace.close d.kernel.subscribers .replica).1 = _
  rw [hd, d.workspace.close_subscribers h]

/-- Over whatever session a workspace is made: it fails if one of three preferences is too large to
be read, and for no other reason. The subscribers stay as they were only where this is the first of
the three; otherwise there is one more, the replica, whether it fails or not. Closing the workspace
takes out just that one. -/
theorem workspace_founded (s : Settings) (vars : Variables) :
    (∀ (κ : Type) (before : Subscribers κ) (replica : κ), Founds s vars before replica
      (Workspace.setUp (ι := Empty) s vars before replica).1
      (Workspace.setUp (ι := Empty) s vars before replica).2) ∧
    ∀ d : Desk, Founds s vars d.kernel.subscribers .replica
        ((openWorkspace s vars).run d).2.kernel.subscribers ((openWorkspace s vars).run d).1 ∧
      ∀ earlier later, d.kernel.subscribers = ⟨earlier ++ .replica :: later⟩ →
        .replica ∉ earlier →
        (closeWorkspace.run d).2.kernel.subscribers = ⟨earlier ++ later⟩ :=
  ⟨fun _ before replica ↦ Workspace.setUp_founds s vars before replica, fun d ↦
    ⟨openWorkspace_founds s vars d, fun _ _ hd h ↦ closeWorkspace_subscribers hd h⟩⟩

/-- An infinite number of results: there is no workspace, and its replica is subscribed. -/
theorem workspace_founded_infinite :
    let s : Settings := ⟨[("max_results", .float (1.0 / 0.0))]⟩
    ((openWorkspace s []).run {}).1 = .error .infinite ∧
      ((openWorkspace s []).run {}).2.kernel.subscribers.callbacks = [.replica] := by
  intro s
  have hrefresh : s.refreshTimeout [] = .ok 30.0 := rfl
  have hmax : s.Withholds [] true .infinite :=
    .maxResults hrefresh (y := 2.0) rfl rfl (.float (by decide))
  obtain ⟨hfounds, -⟩ := (workspace_founded s []).2 {}
  refine ⟨(hfounds.raises _).mpr ⟨true, hmax⟩, ?_⟩
  rw [hfounds.subscribes fun f hf ↦ nomatch hrefresh.symm.trans (withholds_false_iff.mp hf)]
  rfl

end Desk

end VariableExplorer
