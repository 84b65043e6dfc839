import VariableExplorer.Proofs.Running
import VariableExplorer.Proofs.Subscription.Exchange

/-!
What a notification delivers while those who are called change the list and notify in their turn.
Each notification calls those who were subscribed when it began, once for each subscription and in
their order; whatever its callbacks do meanwhile, it comes to its end.
-/

namespace VariableExplorer.Exchange

open Standing

variable {κ : Type}

def Event.number? : Event κ → Option Nat
  | .began n _ | .called n _ | .ended n => some n
  | .added _ | .cancelled _ => none

/-- What a log tells of one notification. -/
def account (n : Nat) (log : List (Event κ)) : List (Event κ) :=
  log.filter fun ev ↦ ev.number? = some n

@[simp] theorem account_nil (n : Nat) : account n ([] : List (Event κ)) = [] := rfl

@[simp] theorem account_append (n : Nat) (log log' : List (Event κ)) :
    account n (log ++ log') = account n log ++ account n log' := List.filter_append ..

theorem account_cons_self {n : Nat} {ev : Event κ} (h : ev.number? = some n)
    (log : List (Event κ)) : account n (ev :: log) = ev :: account n log :=
  List.filter_cons_of_pos (by simpa using h)

theorem account_cons_of_ne {n : Nat} {ev : Event κ} (h : ev.number? ≠ some n)
    (log : List (Event κ)) : account n (ev :: log) = account n log :=
  List.filter_cons_of_neg (by simpa using h)

theorem account_called_self (n : Nat) (cs : List κ) :
    account n (cs.map (.called n)) = cs.map (.called n) := by
  refine List.filter_eq_self.mpr fun ev hev ↦ ?_
  obtain ⟨c, -, rfl⟩ := List.mem_map.mp hev
  simp [Event.number?]

theorem account_called_of_ne {m n : Nat} (h : m ≠ n) (cs : List κ) :
    account n (cs.map (.called m)) = [] := by
  refine List.filter_eq_nil_iff.mpr fun ev hev ↦ ?_
  obtain ⟨c, -, rfl⟩ := List.mem_map.mp hev
  simpa [Event.number?] using h

theorem account_eq_nil_iff {n : Nat} {log : List (Event κ)} :
    account n log = [] ↔ ∀ ev ∈ log, ev.number? ≠ some n := by
  simp [account, List.filter_eq_nil_iff]

theorem run_record_bind [BEq κ] (ev : Event κ) (x : Acting κ Unit) (e : Exchange κ) :
    (do record ev; x).run e = x.run (e.happen ev) := rfl

variable [BEq κ]

/-- A notification of a log that starts from a list calls those who are subscribed when it begins,
each in their turn, and ends. -/
def Delivered (s : Standing κ) (log : List (Event κ)) (n : Nat) : Prop :=
  ∃ before after, let cs := (s.replay before).subscribers.callbacks
    log = before ++ .began n cs :: after ∧
    account n log = .began n cs :: cs.map (.called n) ++ [.ended n]

theorem Delivered.extend {s : Standing κ} (first : List (Event κ)) {log : List (Event κ)}
    (last : List (Event κ)) {n : Nat} (h : Delivered (s.replay first) log n)
    (hfirst : account n first = []) (hlast : account n last = []) :
    Delivered s (first ++ log ++ last) n := by
  obtain ⟨before, after, hlog, haccount⟩ := h
  refine ⟨first ++ before, after ++ last, ?_, ?_⟩
  · rw [replay_append, hlog]
    simp
  · rw [replay_append, account_append, account_append, hfirst, hlast, haccount]
    simp

/-- How things go on from one state to another. Of the notifications that had begun before, `calls`
is all that happens; the others begin, deliver and end. -/
structure Passes (calls : List (Event κ)) (e : Exchange κ) (log : List (Event κ))
    (e' : Exchange κ) : Prop where
  log_eq : e'.log = e.log ++ log
  standing : e'.toStanding = e.toStanding.replay log
  begun_le : e.begun ≤ e'.begun
  earlier : ∀ n < e.begun, account n log = account n calls
  later : ∀ n, e'.begun ≤ n → account n log = []
  delivered : ∀ n, e.begun ≤ n → n < e'.begun → Delivered e.toStanding log n

namespace Passes

theorem refl (e : Exchange κ) : Passes [] e [] e where
  log_eq := by simp
  standing := rfl
  begun_le := Nat.le_refl _
  earlier := by simp
  later := by simp
  delivered n hn hn' := absurd hn (by omega)

theorem happen {e : Exchange κ} {ev : Event κ} (h : ∀ n, ev.number? = some n → n < e.begun) :
    Passes [ev] e [ev] (e.happen ev) where
  log_eq := rfl
  standing := rfl
  begun_le := Nat.le_refl _
  earlier _ _ := rfl
  later n hn := by
    refine account_cons_of_ne (fun hev ↦ ?_) []
    have hlt := h n hev
    exact absurd hn (Nat.not_le.mpr hlt)
  delivered n hn hn' := absurd hn (Nat.not_le.mpr hn')

theorem of_calls {calls calls' log : List (Event κ)} {e e' : Exchange κ}
    (h : Passes calls e log e') (hcalls : ∀ n < e.begun, account n calls = account n calls') :
    Passes calls' e log e' :=
  { h with earlier := fun n hn ↦ (h.earlier n hn).trans (hcalls n hn) }

theorem quiet {e : Exchange κ} {ev : Event κ} (h : ev.number? = none) :
    Passes [] e [ev] (e.happen ev) :=
  (happen (by simp [h])).of_calls fun n _ ↦ account_cons_of_ne (by simp [h]) []

theorem trans {calls calls' log log' : List (Event κ)} {e e' e'' : Exchange κ}
    (h : Passes calls e log e') (h' : Passes calls' e' log' e'')
    (hcalls : ∀ n, e.begun ≤ n → account n calls' = []) :
    Passes (calls ++ calls') e (log ++ log') e'' where
  log_eq := by rw [h'.log_eq, h.log_eq, List.append_assoc]
  standing := by rw [h'.standing, h.standing, replay_append]
  begun_le := Nat.le_trans h.begun_le h'.begun_le
  earlier n hn := by
    rw [account_append, account_append, h.earlier n hn,
      h'.earlier n (Nat.lt_of_lt_of_le hn h.begun_le)]
  later n hn := by
    rw [account_append, h.later n (Nat.le_trans h'.begun_le hn), h'.later n hn, List.append_nil]
  delivered n hn hn' := by
    by_cases hfirst : n < e'.begun
    · have hlast : account n log' = [] := (h'.earlier n hfirst).trans (hcalls n hn)
      have hd := h.delivered n hn hfirst
      exact Delivered.extend [] log' hd rfl hlast
    · have hd := h'.delivered n (Nat.not_lt.mp hfirst) hn'
      rw [h.standing] at hd
      simpa using hd.extend log [] (h.later n (Nat.not_lt.mp hfirst)) rfl

theorem notify {e e' : Exchange κ} {log : List (Event κ)}
    (h : Passes (e.subscribers.callbacks.map (.called e.begun)) e.begin log e') :
    Passes [] e (.began e.begun e.subscribers.callbacks :: (log ++ [.ended e.begun]))
      (e'.happen (.ended e.begun)) := by
  have hle : e.begun + 1 ≤ e'.begun := h.begun_le
  -- what the events at its two ends add to the account of another notification is nothing
  have hother : ∀ n, e.begun ≠ n →
      account n (.began e.begun e.subscribers.callbacks :: (log ++ [.ended e.begun])) =
        account n log := by
    intro n hn
    rw [account_cons_of_ne (by simpa [Event.number?] using hn), account_append,
      account_cons_of_ne (by simpa [Event.number?] using hn), account_nil, List.append_nil]
  refine ⟨?_, ?_, Nat.le_of_succ_le hle, fun n hn ↦ ?_, fun n hn ↦ ?_, fun n hn hn' ↦ ?_⟩
  · show e'.log ++ [_] = _
    rw [h.log_eq]
    show e.log ++ [_] ++ log ++ [_] = _
    simp
  · show e'.toStanding = e.toStanding.replay (log ++ [_])
    rw [h.standing, replay_append]
    rfl
  · rw [hother n (by omega), h.earlier n (Nat.lt_succ_of_lt hn),
      account_called_of_ne (by omega), account_nil]
  · have hn : e'.begun ≤ n := hn
    rw [hother n (by omega), h.later n hn]
  · obtain rfl | hlt := Nat.eq_or_lt_of_le hn
    · refine ⟨[], log ++ [.ended e.begun], rfl, ?_⟩
      rw [account_cons_self rfl, account_append, account_cons_self rfl,
        h.earlier _ (Nat.lt_succ_self _), account_called_self]
      rfl
    · have hd : Delivered e.toStanding log n := h.delivered n hlt hn'
      exact Delivered.extend [.began e.begun _] [.ended e.begun] hd
        (account_cons_of_ne (by simp [Event.number?]; omega) [])
        (account_cons_of_ne (by simp [Event.number?]; omega) [])

end Passes

/-- What is done while being called ends, in a return or an ordinary failure, and adds nothing to
the notifications that had begun before. -/
def Behaves (x : Acting κ Unit) : Prop :=
  ∀ e, ∃ log r e', x.run e = (r, e') ∧ (∀ f, r = .error f → f.isOrdinary = true) ∧
    Passes [] e log e'

theorem calls_pass {told : List (Event κ) → Acting κ Unit} (htold : ∀ log, Behaves (told log))
    {n : Nat} (cs : List κ) (e : Exchange κ) (hn : n < e.begun) :
    ∃ log e', (Subscribers.notifyGuarded ⟨cs⟩ fun c ↦ do
        record (.called n c)
        told (← get).log).run e = (.ok (), e') ∧ Passes (cs.map (.called n)) e log e' := by
  induction cs generalizing e with
  | nil => exact ⟨[], e, rfl, .refl e⟩
  | cons c cs ih =>
    obtain ⟨log, r, e₁, hrun, hr, hpass⟩ :=
      htold (e.happen (.called n c)).log (e.happen (.called n c))
    have hcall : Passes [.called n c] e (.called n c :: log) e₁ :=
      (Passes.happen (by simpa [Event.number?] using hn)).trans hpass (by simp)
    obtain ⟨log', e', hrun', hpass'⟩ := ih e₁ (Nat.lt_of_lt_of_le hn hcall.begun_le)
    refine ⟨_, e', ?_, hcall.trans hpass' fun m hm ↦ account_called_of_ne (by omega) cs⟩
    have hguard := run_guarded (x := do record (.called n c); told (← get).log) hrun hr
    exact (run_bind_of_ok hguard).trans hrun'

/-- A notification never raises. -/
theorem notify_passes {told : List (Event κ) → Acting κ Unit}
    (htold : ∀ log, Behaves (told log)) (e : Exchange κ) :
    ∃ rest e', (notify told).run e = (.ok (), e') ∧
      Passes [] e (.began e.begun e.subscribers.callbacks :: rest) e' := by
  obtain ⟨log, e', hrun, hpass⟩ :=
    calls_pass htold (n := e.begun) e.subscribers.callbacks e.begin (Nat.lt_succ_self _)
  refine ⟨log ++ [.ended e.begun], e'.happen (.ended e.begun), ?_, ?_⟩
  · exact (run_bind_of_ok hrun).trans rfl
  · exact hpass.notify

theorem Behaves.record_bind {ev : Event κ} {x : Acting κ Unit} (h : ev.number? = none)
    (hx : Behaves x) : Behaves (do record ev; x) := by
  intro e
  obtain ⟨log, r, e', hrun, hr, hpass⟩ := hx (e.happen ev)
  exact ⟨_, r, e', (run_record_bind ev x e).trans hrun, hr, (Passes.quiet h).trans hpass (by simp)⟩

/-- Whatever a callback does, by the tree of its actions. -/
theorem Code.run_behaves (p : Code κ) : Behaves p.run := by
  induction p with
  | done => exact fun e ↦ ⟨[], .ok (), e, rfl, by simp, .refl e⟩
  | raise f ordinary =>
    refine fun e ↦ ⟨[], .error f, e, rfl, fun g hg ↦ ?_, .refl e⟩
    cases hg
    exact ordinary
  | add c next ih => exact ih.record_bind rfl
  | cancel i next ih => exact ih.record_bind rfl
  | notify told next ihtold ih =>
    intro e
    obtain ⟨rest, e₁, hrun, hpass⟩ := notify_passes ihtold e
    obtain ⟨log, r, e', hrun', hr, hpass'⟩ := ih e₁
    exact ⟨_, r, e', (run_bind_of_ok hrun).trans hrun', hr, hpass.trans hpass' (by simp)⟩

/-- Whatever the callbacks do in their turns, which may depend on all that has happened by then, a
notification returns. It and all that begin within it call just those who were subscribed when they
began, in the order of subscription. -/
theorem notify_delivers (told : List (Event κ) → Code κ) (e : Exchange κ) :
    ∃ rest e', let log := .began e.begun e.subscribers.callbacks :: rest
      (notify fun before ↦ (told before).run).run e = (.ok (), e') ∧
      e'.log = e.log ++ log ∧ e'.toStanding = e.toStanding.replay log ∧
      ∀ ev ∈ log, ∀ n, ev.number? = some n → Delivered e.toStanding log n := by
  obtain ⟨rest, e', hrun, hpass⟩ := notify_passes (fun before ↦ (told before).run_behaves) e
  refine ⟨rest, e', hrun, hpass.log_eq, hpass.standing, fun ev hev n hn ↦ ?_⟩
  have htold : account n (.began e.begun e.subscribers.callbacks :: rest) ≠ [] :=
    fun h ↦ account_eq_nil_iff.mp h ev hev hn
  refine hpass.delivered n (Nat.not_lt.mp fun hlt ↦ htold ?_) (Nat.not_le.mp fun hle ↦ htold ?_)
  · exact (hpass.earlier n hlt).trans (account_nil n)
  · exact hpass.later n hle

/-- The first of two callbacks cancels the second and subscribes a third. -/
example : let told (log : List (Event Nat)) : Code Nat :=
      if log.getLast? = some (.called 0 1) then .cancel 1 (.add 3 .done) else .done
    ((notify fun log ↦ (told log).run).run ⟨⟨⟨[1, 2]⟩, [1, 2]⟩, 0, []⟩).2.log =
      [.began 0 [1, 2], .called 0 1, .cancelled 1, .added 3, .called 0 2, .ended 0] :=
  rfl

end VariableExplorer.Exchange
