import VariableExplorer.Kernel.Desk
import VariableExplorer.Proofs.Kernel.Inspection
import VariableExplorer.Proofs.Replica.Conduct
import VariableExplorer.Proofs.Replica.Conversation

/-!
Refreshes on a desk. As long as the expression for the global environment gives the namespace, a
refresh brings the snapshot in step with it.
-/

namespace VariableExplorer

open Eval

namespace Kernel

variable {κ : Type} {k : Kernel κ}

theorem eval_eq {α : Type} {x : Eval α} {r : Except Fault α} {k' : Kernel κ}
    (h : k.eval x = (r, k')) : ∃ t, x.run k.store = (r, t) ∧ k' = { k with store := t } := by
  rcases hr : x.run k.store with ⟨r', t⟩
  rw [eval, hr] at h
  cases h
  exact ⟨t, rfl, rfl⟩

theorem answer_evaluate (hopen : k.closed = false) {r : EvaluationRequest} {o : Outcome ValueInfo}
    {t : Store} (h : (Inspection.evaluation k.env r).run k.store = (.ok o, t)) :
    k.answer (.evaluate r) =
      (.values (payloadOf o fun i ↦ .one (.given i)), { k with store := t }) := by
  simp only [answer, evaluate, inspect, hopen, Bool.false_eq_true, if_false, eval, h]

theorem answer_children (hopen : k.closed = false) {r : ChildrenRequest}
    {o : Outcome (List ValueInfo)} {t : Store}
    (h : (Inspection.children k.env r fun _ ↦ false).run k.store = (.ok o, t)) :
    k.answer (.children r) = (.values (listPayload o), { k with store := t }) := by
  simp only [answer, children, inspect, hopen, Bool.false_eq_true, if_false, eval, h]

theorem answer_store (k : Kernel κ) (c : Call) : ∃ t, (k.answer c).2 = { k with store := t } ∧
    (Shell.Sound k.env k.store → Shell.Sound k.env t) := by
  have hinspect {α : Type} {x : Eval (Outcome α)} (hx : Upholds k.env x) :
      ∃ t, (k.inspect x).2 = { k with store := t } ∧
        (Shell.Sound k.env k.store → Shell.Sound k.env t) := by
    unfold inspect
    split
    · exact ⟨k.store, rfl, id⟩
    · exact ⟨(x.run k.store).2, rfl, hx k.store⟩
  cases c with
  | isRunning => exact ⟨k.store, rfl, id⟩
  | traceback timeout => exact ⟨k.store, rfl, id⟩
  | evaluate r =>
    obtain ⟨t, ht, hsound⟩ := hinspect (Inspection.evaluation_upholds k.env r)
    refine ⟨t, ?_, hsound⟩
    rw [← ht, answer, evaluate]
    split <;> simp only [*]
  | children r =>
    obtain ⟨t, ht, hsound⟩ := hinspect (Inspection.children_upholds k.env r fun _ ↦ false)
    refine ⟨t, ?_, hsound⟩
    rw [← ht, answer, children]
    split <;> simp only [*]

end Kernel

namespace Desk

open Replica Refresh

theorem carries : Carries fun d : Desk ↦ d.workspace.replica where
  get _ := rfl
  set _ _ := rfl
  modify _ _ := rfl

variable {d : Desk}

theorem advance_asking (d : Desk) (timeout : Option Seconds) (q : Stage) :
    ((Progress.asking q).advance ask timeout).run d = pure
      (q.next (d.kernel.answer (q.call timeout)).1,
        { d with kernel := (d.kernel.answer (q.call timeout)).2 }) := rfl

theorem advance_run (d : Desk) (timeout : Option Seconds) (p : Progress) : ∃ q t,
    (p.advance ask timeout).run d = pure (q, { d with kernel.store := t }) ∧
    (Shell.Sound d.kernel.env d.kernel.store → Shell.Sound d.kernel.env t) := by
  cases p with
  | done found => exact ⟨.done found, d.kernel.store, rfl, id⟩
  | asking q =>
    obtain ⟨t, ht, hsound⟩ := d.kernel.answer_store (q.call timeout)
    exact ⟨_, t, by rw [advance_asking, ht], hsound⟩

theorem build_run (d : Desk) (timeout : Option Seconds) : ∃ found t,
    (Refresh.build ask timeout).run d = pure (found, { d with kernel.store := t }) ∧
    (Shell.Sound d.kernel.env d.kernel.store → Shell.Sound d.kernel.env t) := by
  obtain ⟨p₁, t₁, h₁, hs₁⟩ := advance_run d timeout (.asking .liveness)
  obtain ⟨p₂, t₂, h₂, hs₂⟩ := advance_run { d with kernel.store := t₁ } timeout p₁
  obtain ⟨p₃, t₃, h₃, hs₃⟩ := advance_run { d with kernel.store := t₂ } timeout p₂
  obtain ⟨p₄, t₄, h₄, hs₄⟩ := advance_run { d with kernel.store := t₃ } timeout p₃
  refine ⟨p₄.found, t₄, ?_, hs₄ ∘ hs₃ ∘ hs₂ ∘ hs₁⟩
  simp only [Refresh.build, StateT.run_bind, h₁, h₂, h₃, h₄, pure_bind]
  rfl

theorem build_of_open (hopen : d.kernel.closed = false) (timeout : Option Seconds) :
    (Refresh.build ask timeout).run d = (do
      let p ← (Progress.asking (.environment ⟨0, "<module>", true, globalEnvironment⟩)).advance
        ask timeout
      return (← p.advance ask timeout).found).run d := by
  have hframes : d.kernel.answer (.traceback timeout) =
      (.frames ⟨.ok, some (.many [.given ⟨0, "<module>", true, globalEnvironment⟩]), none⟩,
        d.kernel) := by
    simp only [Kernel.answer, Kernel.traceback, hopen, Bool.false_eq_true, if_false]
    rfl
  have halive : d.kernel.answer .isRunning = (.alive true, d.kernel) := by
    simp only [Kernel.answer, Kernel.isRunning, hopen, Bool.not_false]
  rw [Refresh.build, StateT.run_bind, advance_asking, Stage.call, halive, pure_bind,
    StateT.run_bind, Stage.next, advance_asking, Stage.call, hframes]
  rfl

/-- An entry of a snapshot that describes a variable, as it was between two stores. -/
def Portrays (since now : Store) (e : String × Value) (x : Descriptor) : Prop :=
  ∃ i, Inspection.Depicts Refresh.properties since now e i ∧ x = .ofInfo i

theorem Portrays.name {since now : Store} {e : String × Value} {x : Descriptor}
    (h : Portrays since now e x) : x.name = e.1 := by
  obtain ⟨i, hi, rfl⟩ := h
  exact hi.name

theorem Portrays.mono {since earlier now later : Store} {e : String × Value} {x : Descriptor}
    (h : Portrays since now e x) (hearlier : earlier.Keeps since) (hlater : now.Keeps later) :
    Portrays earlier later e x := by
  obtain ⟨i, hi, hx⟩ := h
  exact ⟨i, hi.mono hearlier hlater, hx⟩

/-- A snapshot with an entry for each variable of the namespace, in the order of the variables, where
everything is there still that was there since. -/
structure Mirrors (since now : Store) (env : Ref) (x : Snapshot) : Prop where
  keeps : since.Keeps now
  portrays : ∃ vars, now.Binds env vars ∧ List.Forall₂ (Portrays since now) vars x.entries

theorem names_of_forall₂ {α β : Type} {f : α → String} {g : β → String} {as : List α} {bs : List β}
    (h : List.Forall₂ (fun a b ↦ g b = f a) as bs) : bs.map g = as.map f := by
  induction h with
  | nil => rfl
  | cons hx _ ih => rw [List.map_cons, List.map_cons, ih, hx]

namespace Mirrors

variable {since now : Store} {env : Ref} {x : Snapshot}

theorem names (h : Mirrors since now env x) : x.names = Shell.names now env := by
  obtain ⟨-, vars, hvars, hall⟩ := h
  exact hvars.names.symm ▸ names_of_forall₂ (hall.imp fun _ _ hx ↦ hx.name)

theorem mono {earlier later : Store} (h : Mirrors since now env x)
    (hearlier : earlier.Keeps since) (hlater : now.Keeps later) :
    Mirrors earlier later env x := by
  obtain ⟨hkeeps, vars, hvars, hall⟩ := h
  exact ⟨hearlier.trans (hkeeps.trans hlater), vars, hvars.keeps hlater,
    hall.imp fun _ _ hx ↦ hx.mono hearlier hlater⟩

end Mirrors

theorem build_of_known (hopen : d.kernel.closed = false)
    (hs : Shell.Sound d.kernel.env d.kernel.store) (hk : Shell.Known d.kernel.env d.kernel.store)
    (timeout : Option Seconds) : ∃ x t,
      (Refresh.build ask timeout).run d = pure (some x, { d with kernel.store := t }) ∧
      t.Civil ∧ Mirrors (Shell.provided d.kernel.env d.kernel.store) t d.kernel.env x := by
  let f : StackFrame := ⟨0, "<module>", true, globalEnvironment⟩
  let q : EvaluationRequest :=
    ⟨f, globalEnvironment, globalEnvironmentName, properties, .summary, timeout⟩
  -- Two questions reach the store: what the environment is, and what its children are.
  obtain ⟨i, u, hu, hi, hkeeps, hcivil⟩ :=
    hk.evaluation_run hs (r := q) rfl rfl rfl
  obtain ⟨vars, hvars⟩ := (Shell.provided_sound hs).binds
  have hsame := Shell.provided_of_keeps hs hkeeps
  let c : ChildrenRequest :=
    { environment := globalEnvironment, expression := globalEnvironment,
      properties := properties, timeout := timeout }
  obtain ⟨infos, t, ht, hkeeps', hcivil', hall⟩ :=
    Shell.Known.children_run (s := u) ⟨hcivil, vars, hvars.keeps hkeeps⟩ (hk.keeps hs hkeeps) hsame
      (r := c) rfl rfl rfl rfl (hvars.keeps hkeeps)
  refine ⟨.ofInfos infos, t, ?_, hcivil', hkeeps.trans hkeeps', vars,
    hvars.keeps (hkeeps.trans hkeeps'), ?_⟩
  · have hq : d.kernel.answer ((Stage.environment f).call timeout) =
        (.values ⟨.ok, some (.one (.given i)), none⟩, { d.kernel with store := u }) :=
      Kernel.answer_evaluate hopen hu
    have hnext : (Stage.environment f).next (.values ⟨.ok, some (.one (.given i)), none⟩) =
        .asking (.children globalEnvironment globalEnvironment) := by
      rw [Stage.next, hi]
      rfl
    have hc : Kernel.answer { d.kernel with store := u }
        ((Stage.children globalEnvironment globalEnvironment).call timeout) =
        (.values ⟨.ok, some (.many (infos.map .given)), none⟩, { d.kernel with store := t }) :=
      Kernel.answer_children (k := { d.kernel with store := u }) hopen ht
    have hfound : (Stage.children globalEnvironment globalEnvironment).next
        (.values ⟨.ok, some (.many (infos.map .given)), none⟩) =
        .done (some (.ofInfos infos)) :=
      Stage.next_eq_found.mpr ⟨_, _, _, _, infos, rfl, rfl, .many infos, rfl⟩
    rw [build_of_open hopen, StateT.run_bind, advance_asking, hq, hnext, pure_bind,
      StateT.run_bind, advance_asking, hc, hfound]
    rfl
  · have hnames : infos.map (·.name) = vars.map (·.1) :=
      names_of_forall₂ (hall.imp fun _ _ hx ↦ hx.name)
    rw [Snapshot.ofInfos_entries (hnames ▸ hvars.nodup), List.forall₂_map_right_iff]
    exact hall.imp fun e i h ↦ ⟨i, h.mono hkeeps (.refl t), rfl⟩

theorem build_of_lost (hopen : d.kernel.closed = false)
    (hs : Shell.Sound d.kernel.env d.kernel.store) (hl : Shell.Lost d.kernel.env d.kernel.store)
    (timeout : Option Seconds) : ∃ t,
      (Refresh.build ask timeout).run d = pure (none, { d with kernel.store := t }) ∧
      (Shell.provided d.kernel.env d.kernel.store).Keeps t ∧ t.Civil := by
  let f : StackFrame := ⟨0, "<module>", true, globalEnvironment⟩
  let q : EvaluationRequest :=
    ⟨f, globalEnvironment, globalEnvironmentName, properties, .summary, timeout⟩
  obtain ⟨e, t, ht, hkeeps, hcivil⟩ := hl.evaluation_run hs (r := q) rfl rfl
  have hq : d.kernel.answer ((Stage.environment f).call timeout) =
      (.values ⟨.evaluationError, none, some e⟩, { d.kernel with store := t }) :=
    Kernel.answer_evaluate hopen ht
  refine ⟨t, ?_, hkeeps, hcivil⟩
  rw [build_of_open hopen, StateT.run_bind, advance_asking, hq]
  rfl

theorem refresh_run (hfree : d.workspace.replica.busy = false) {found : Option Snapshot}
    {t : Store} (hb : (Refresh.build ask d.workspace.replica.timeout).run
      { d with workspace.replica.busy := true } =
        pure (found, { d with kernel.store := t, workspace.replica.busy := true })) :
    refresh.run d = (found.isSome,
      { d with kernel.store := t, workspace.replica := d.workspace.replica.settle found }) := by
  have hlisteners (ls : List Empty) (f : Empty → Acting Unit) (d : Desk) :
      (ls.forM f).run d = ((), d) := by
    cases ls with
    | nil => rfl
    | cons l => cases l
  rw [refresh, refresh_of_free carries _ _ hfree]
  cases found with
  | none => exact run_of_none carries _ _ hb
  | some x =>
    refine (run_of_some carries _ _ hb rfl).trans ?_
    exact congrArg (Prod.mk true) (congrArg Prod.snd (hlisteners _ _ _))

end Desk

end VariableExplorer
