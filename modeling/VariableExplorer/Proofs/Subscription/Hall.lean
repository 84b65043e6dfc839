import Mathlib.Logic.Function.Basic
import Mathlib.Logic.Relation
import VariableExplorer.Proofs.Subscription.Delivering

/-!
A list of subscribers that any number of threads use. Each thread is in the middle of some
notifications, the innermost first; between two of its calls it may add others, call unsubscribers
and notify again, and so may every other thread at any time.
-/

namespace VariableExplorer

open Exchange Function

structure Hall (κ : Type) extends Exchange κ where
  /-- The notifications that a thread is in the middle of, with those that it has still to call. -/
  threads : Nat → List (Nat × List κ) := fun _ ↦ []

namespace Hall

variable {κ : Type}

variable [BEq κ]

def Invited (log : List (Event κ)) (n : Nat) (c : κ) : Prop :=
  ∃ before, let cs := (Standing.replay {} before).subscribers.callbacks
    before ++ [.began n cs] <+: log ∧ c ∈ cs

theorem Invited.mono {log log' : List (Event κ)} {n : Nat} {c : κ}
    (h : Invited log n c) (hbegins : log <+: log') : Invited log' n c := by
  obtain ⟨before, hbefore, hc⟩ := h
  exact ⟨before, hbefore.trans hbegins, hc⟩

def cancel (h : Hall κ) (i : Nat) : Hall κ := ⟨h.happen (.cancelled i), h.threads⟩

inductive Step : Hall κ → Event κ → Hall κ → Prop
  | add (h : Hall κ) (c : κ) : Step h (.added c) ⟨h.happen (.added c), h.threads⟩
  | cancel (h : Hall κ) (i : Nat) : Step h (.cancelled i) (h.cancel i)
  | begin (h : Hall κ) (t : Nat) :
      Step h (.began h.begun h.subscribers.callbacks) ⟨h.begin,
        update h.threads t ((h.begun, h.subscribers.callbacks) :: h.threads t)⟩
  | call {h : Hall κ} {t n : Nat} {c : κ} {cs : List κ} {rest : List (Nat × List κ)} :
      h.threads t = (n, c :: cs) :: rest →
      Step h (.called n c) ⟨h.happen (.called n c), update h.threads t ((n, cs) :: rest)⟩
  | finish {h : Hall κ} {t n : Nat} {rest : List (Nat × List κ)} :
      h.threads t = (n, []) :: rest →
      Step h (.ended n) ⟨h.happen (.ended n), update h.threads t rest⟩

abbrev Run : Hall κ → Hall κ → Prop := Relation.ReflTransGen fun h h' ↦ ∃ ev, Step h ev h'

theorem Step.log_eq {h h' : Hall κ} {ev : Event κ} (hstep : Step h ev h') :
    h'.log = h.log ++ [ev] := by
  cases hstep <;> rfl

theorem Run.log_prefix {h h' : Hall κ} (hrun : Run h h') : h.log <+: h'.log := by
  induction hrun with
  | refl => exact List.prefix_rfl
  | tail _ hstep ih =>
    obtain ⟨ev, hstep⟩ := hstep
    rw [hstep.log_eq]
    exact ih.trans (List.prefix_append _ _)

structure Sound (h : Hall κ) : Prop where
  standing : h.toStanding = Standing.replay {} h.log
  number_lt : ∀ ev ∈ h.log, ∀ n, ev.number? = some n → n < h.begun
  pending : ∀ t, ∀ a ∈ h.threads t, a.1 < h.begun ∧ ∀ c ∈ a.2, Invited h.log a.1 c
  called : ∀ n c, .called n c ∈ h.log → Invited h.log n c

theorem Sound.init : Sound ({} : Hall κ) where
  standing := rfl
  number_lt := by simp
  pending := by simp
  called := by simp

theorem Sound.happen {h : Hall κ} (hsound : Sound h) {ev : Event κ}
    (hnumber : ∀ n, ev.number? = some n → n < h.begun)
    (hcalled : ∀ n c, ev = .called n c → Invited h.log n c)
    {threads : Nat → List (Nat × List κ)}
    (hpending : ∀ t, ∀ a ∈ threads t, a.1 < h.begun ∧ ∀ c ∈ a.2, Invited h.log a.1 c) :
    Sound ⟨h.happen ev, threads⟩ where
  standing := by
    show h.toStanding.step ev = Standing.replay {} (h.log ++ [ev])
    rw [hsound.standing, Standing.replay_append]
    rfl
  number_lt ev' hev' n hn := by
    obtain hev' | hev' := List.mem_append.mp hev'
    · exact hsound.number_lt ev' hev' n hn
    · obtain rfl := List.mem_singleton.mp hev'
      exact hnumber n hn
  pending t a ha := by
    obtain ⟨hlt, hcs⟩ := hpending t a ha
    exact ⟨hlt, fun c hc ↦ (hcs c hc).mono (List.prefix_append _ _)⟩
  called n c hmem := by
    obtain hmem | hmem := List.mem_append.mp hmem
    · exact (hsound.called n c hmem).mono (List.prefix_append _ _)
    · exact (hcalled n c (List.mem_singleton.mp hmem).symm).mono (List.prefix_append _ _)

theorem Sound.begin {h : Hall κ} (hsound : Sound h) (t : Nat) :
    Sound ⟨h.begin, update h.threads t ((h.begun, h.subscribers.callbacks) :: h.threads t)⟩ where
  standing := by
    show h.toStanding = Standing.replay {} (h.log ++ [_])
    rw [hsound.standing, Standing.replay_append]
    rfl
  number_lt ev hev n hn := by
    obtain hev | hev := List.mem_append.mp hev
    · exact Nat.lt_succ_of_lt (hsound.number_lt ev hev n hn)
    · obtain rfl := List.mem_singleton.mp hev
      cases hn
      exact Nat.lt_succ_self _
  pending := by
    have hbegins : h.log <+: h.begin.log := List.prefix_append _ _
    have hold : ∀ u, ∀ a ∈ h.threads u,
        a.1 < h.begun + 1 ∧ ∀ c ∈ a.2, Invited h.begin.log a.1 c := by
      intro u a ha
      obtain ⟨hlt, hcs⟩ := hsound.pending u a ha
      exact ⟨Nat.lt_succ_of_lt hlt, fun c hc ↦ (hcs c hc).mono hbegins⟩
    refine forall_update hold (List.forall_mem_cons.mpr ⟨⟨Nat.lt_succ_self _, ?_⟩, hold t⟩)
    intro c hc
    refine ⟨h.log, ?_, ?_⟩
    · rw [← hsound.standing]
      exact List.prefix_rfl
    · rw [← hsound.standing]
      exact hc
  called n c hmem := by
    obtain hmem | hmem := List.mem_append.mp hmem
    · exact (hsound.called n c hmem).mono (List.prefix_append _ _)
    · simp at hmem

theorem Sound.step {h h' : Hall κ} {ev : Event κ} (hsound : Sound h) (hstep : Step h ev h') :
    Sound h' := by
  cases hstep with
  | add c => exact hsound.happen (by simp [Event.number?]) (by simp) hsound.pending
  | cancel i => exact hsound.happen (by simp [Event.number?]) (by simp) hsound.pending
  | begin t => exact hsound.begin t
  | @call t n c cs rest ht =>
    have hthread := hsound.pending t
    rw [ht] at hthread
    obtain ⟨⟨hlt, hcs⟩, hrest⟩ := List.forall_mem_cons.mp hthread
    obtain ⟨hc, hcs⟩ := List.forall_mem_cons.mp hcs
    refine hsound.happen (by simpa [Event.number?] using hlt) ?_
      (forall_update hsound.pending (List.forall_mem_cons.mpr ⟨⟨hlt, hcs⟩, hrest⟩))
    rintro m d heq
    cases heq
    exact hc
  | @finish t n rest ht =>
    have hthread := hsound.pending t
    rw [ht] at hthread
    obtain ⟨⟨hlt, -⟩, hrest⟩ := List.forall_mem_cons.mp hthread
    exact hsound.happen (by simpa [Event.number?] using hlt) (by simp)
      (forall_update hsound.pending hrest)

theorem Sound.run {h h' : Hall κ} (hsound : Sound h) (hrun : Run h h') : Sound h' := by
  induction hrun with
  | refl => exact hsound
  | tail _ hstep ih =>
    obtain ⟨ev, hstep⟩ := hstep
    exact ih.step hstep

/-- The code goes from step to step, and every thread is in the middle of the same notifications
afterwards. -/
def Performs (x : Acting κ Unit) : Prop :=
  ∀ (e : Exchange κ) (threads : Nat → List (Nat × List κ)),
    Run ⟨e, threads⟩ ⟨(x.run e).2, threads⟩

theorem calls_run {told : List (Event κ) → Acting κ Unit} (htold : ∀ log, Behaves (told log))
    (hperforms : ∀ log, Performs (told log)) {t n : Nat} {rest : List (Nat × List κ)}
    (cs : List κ) (e : Exchange κ) (threads : Nat → List (Nat × List κ))
    (ht : threads t = (n, cs) :: rest) :
    Run ⟨e, threads⟩ ⟨((Subscribers.notifyGuarded ⟨cs⟩ fun c ↦ do
        record (.called n c)
        told (← get).log).run e).2, update threads t ((n, []) :: rest)⟩ := by
  induction cs generalizing e threads with
  | nil =>
    rw [← ht, update_eq_self]
    exact .refl
  | cons c cs ih =>
    obtain ⟨log, r, e₁, hrun, hr, -⟩ :=
      htold (e.happen (.called n c)).log (e.happen (.called n c))
    have hguard := run_guarded (x := do record (.called n c); told (← get).log) hrun hr
    have hcall : Run ⟨e, threads⟩ ⟨e₁, update threads t ((n, cs) :: rest)⟩ := by
      have hstep : Step ⟨e, threads⟩ (.called n c) _ := .call ht
      have hinner := hperforms (e.happen (.called n c)).log (e.happen (.called n c))
        (update threads t ((n, cs) :: rest))
      rw [hrun] at hinner
      exact .head ⟨_, hstep⟩ hinner
    have hcalls := ih e₁ (update threads t ((n, cs) :: rest)) (update_self _ _ _)
    rw [update_idem] at hcalls
    have hrest := run_bind_of_ok (f := fun _ ↦ Subscribers.notifyGuarded ⟨cs⟩ fun c ↦ do
        record (.called n c)
        told (← get).log) hguard
    refine hcall.trans ?_
    rw [← hrest] at hcalls
    exact hcalls

theorem notify_performs {told : List (Event κ) → Acting κ Unit}
    (htold : ∀ log, Behaves (told log)) (hperforms : ∀ log, Performs (told log)) :
    Performs (notify told) := by
  intro e threads
  obtain ⟨log, e', hrun, -⟩ :=
    calls_pass htold (n := e.begun) e.subscribers.callbacks e.begin (Nat.lt_succ_self _)
  have hbegin : Step ⟨e, threads⟩ _ _ := .begin ⟨e, threads⟩ 0
  have hcalls := calls_run htold hperforms e.subscribers.callbacks e.begin
    (update threads 0 ((e.begun, e.subscribers.callbacks) :: threads 0)) (update_self _ _ _)
  rw [update_idem, hrun] at hcalls
  have hself : update threads 0 ((e.begun, []) :: threads 0) 0 = (e.begun, []) :: threads 0 :=
    update_self ..
  have hfinish : Step ⟨e', update threads 0 ((e.begun, []) :: threads 0)⟩ (.ended e.begun)
      ⟨e'.happen (.ended e.begun), update _ 0 (threads 0)⟩ := .finish hself
  rw [update_idem, update_eq_self] at hfinish
  have hnotify : (notify told).run e = (.ok (), e'.happen (.ended e.begun)) :=
    (run_bind_of_ok hrun).trans rfl
  rw [hnotify]
  exact (Relation.ReflTransGen.head ⟨_, hbegin⟩ hcalls).tail ⟨_, hfinish⟩

theorem Performs.record_bind {ev : Event κ} {x : Acting κ Unit} (hx : Performs x)
    (hstep : ∀ e threads, Step ⟨e, threads⟩ ev ⟨e.happen ev, threads⟩) :
    Performs (do record ev; x) := by
  intro e threads
  rw [run_record_bind]
  exact .head ⟨ev, hstep e threads⟩ (hx (e.happen ev) threads)

theorem performs_code (p : Code κ) : Performs p.run := by
  induction p with
  | done => exact fun e threads ↦ .refl
  | raise f ordinary => exact fun e threads ↦ .refl
  | add c next ih => exact ih.record_bind fun e threads ↦ .add ⟨e, threads⟩ c
  | cancel i next ih => exact ih.record_bind fun e threads ↦ .cancel ⟨e, threads⟩ i
  | notify told next ihtold ih =>
    intro e threads
    obtain ⟨rest, e₁, hrun, -⟩ := notify_passes (fun log ↦ (told log).run_behaves) e
    have hnotify := notify_performs (fun log ↦ (told log).run_behaves) ihtold e threads
    rw [hrun] at hnotify
    have hnext := run_bind_of_ok (f := fun _ ↦ next.run) hrun
    refine hnotify.trans ?_
    show Run _ ⟨((do Exchange.notify fun log ↦ (told log).run; next.run).run e).2, threads⟩
    rw [hnext]
    exact ih e₁ threads

end Hall

end VariableExplorer
