import Mathlib.Data.List.Basic
import Mathlib.Data.List.Induction
import VariableExplorer.Proofs.Subscription.Delivering
import VariableExplorer.Replica.Basic

/-!
What an unsubscriber takes off the list. It should cancel its own subscription; but it looks for
the first callback that equals its own, so that where a callback is subscribed twice, or an
unsubscriber is called again, it may be somebody else's that goes.
-/

namespace VariableExplorer

namespace Exchange

open Standing

variable {κ : Type}

def added (log : List (Event κ)) : List κ :=
  log.filterMap fun
    | .added c => some c
    | _ => none

@[simp] theorem added_nil : added ([] : List (Event κ)) = [] := rfl

@[simp] theorem added_append (log log' : List (Event κ)) :
    added (log ++ log') = added log ++ added log' := List.filterMap_append

@[simp] theorem added_cons_added (c : κ) (log : List (Event κ)) :
    added (.added c :: log) = c :: added log := rfl

theorem added_cons_of_ne {ev : Event κ} (h : ∀ c, ev ≠ .added c) (log : List (Event κ)) :
    added (ev :: log) = added log := by
  cases ev with
  | added c => exact absurd rfl (h c)
  | _ => rfl

theorem ne_of_pairwise {as bs : List (Nat × κ)} {i : Nat} {c : κ}
    (h : (as ++ (i, c) :: bs).Pairwise (·.1 < ·.1)) :
    (∀ e ∈ as, e.1 ≠ i) ∧ ∀ e ∈ bs, e.1 ≠ i := by
  obtain ⟨-, hpair, hlt⟩ := List.pairwise_append.mp h
  refine ⟨fun e he ↦ Nat.ne_of_lt (hlt e he (i, c) (by simp)), fun e he ↦ ?_⟩
  exact Nat.ne_of_gt ((List.pairwise_cons.mp hpair).1 e he)

theorem filter_eq_append {as bs : List (Nat × κ)} {i : Nat} {c : κ}
    (h : (as ++ (i, c) :: bs).Pairwise (·.1 < ·.1)) :
    (as ++ (i, c) :: bs).filter (·.1 ≠ i) = as ++ bs := by
  obtain ⟨has, hbs⟩ := ne_of_pairwise h
  rw [List.filter_append, List.filter_cons_of_neg (by simp),
    List.filter_eq_self.mpr (by simpa using has), List.filter_eq_self.mpr (by simpa using hbs)]

variable [DecidableEq κ]

/-- The subscriptions that are there when each unsubscriber cancels its own: those that were made,
by their numbers from `n` on and in order, less those whose unsubscriber has been called since. -/
def kept (n : Nat) : List (Event κ) → List (Nat × κ)
  | [] => []
  | .added c :: log =>
    if .cancelled n ∈ log then kept (n + 1) log else (n, c) :: kept (n + 1) log
  | _ :: log => kept n log

theorem kept_cons_of_ne {ev : Event κ} (h : ∀ c, ev ≠ .added c) (n : Nat)
    (log : List (Event κ)) : kept n (ev :: log) = kept n log := by
  cases ev with
  | added c => exact absurd rfl (h c)
  | _ => rfl

theorem kept_append_of_ne {ev : Event κ} (h : ∀ c, ev ≠ .added c) (h' : ∀ i, ev ≠ .cancelled i)
    (n : Nat) (log : List (Event κ)) : kept n (log ++ [ev]) = kept n log := by
  fun_induction kept n log with
  | case1 n => exact kept_cons_of_ne h n []
  | case2 n c log hmem ih => simp [kept, hmem, ih]
  | case3 n c log hmem ih =>
    have hne : Event.cancelled n ≠ ev := (h' n).symm
    simp [kept, hmem, hne, ih]
  | case4 n ev' log hne ih =>
    rw [List.cons_append, kept_cons_of_ne hne, ih]

theorem kept_append_added (n : Nat) (log : List (Event κ)) (c : κ) :
    kept n (log ++ [.added c]) = kept n log ++ [(n + (added log).length, c)] := by
  fun_induction kept n log with
  | case1 n => rfl
  | case2 n c' log hmem ih =>
    simp [kept, hmem, ih]
    omega
  | case3 n c' log hmem ih =>
    simp [kept, hmem, ih]
    omega
  | case4 n ev' log hne ih =>
    rw [List.cons_append, kept_cons_of_ne hne, ih, added_cons_of_ne hne]

theorem getElem?_added_of_mem_kept {n i : Nat} {c : κ} {log : List (Event κ)}
    (h : (i, c) ∈ kept n log) : n ≤ i ∧ (added log)[i - n]? = some c := by
  fun_induction kept n log with
  | case1 n => cases h
  | case2 n c' log hmem ih =>
    obtain ⟨hle, hget⟩ := ih h
    refine ⟨by omega, ?_⟩
    rw [added_cons_added, show i - n = i - (n + 1) + 1 by omega, List.getElem?_cons_succ, hget]
  | case3 n c' log hmem ih =>
    obtain heq | h := List.mem_cons.mp h
    · cases heq
      simp
    · obtain ⟨hle, hget⟩ := ih h
      refine ⟨by omega, ?_⟩
      rw [added_cons_added, show i - n = i - (n + 1) + 1 by omega, List.getElem?_cons_succ, hget]
  | case4 n ev' log hne ih => rw [added_cons_of_ne hne]; exact ih h

theorem pairwise_kept (n : Nat) (log : List (Event κ)) :
    (kept n log).Pairwise (·.1 < ·.1) := by
  fun_induction kept n log with
  | case1 n => exact .nil
  | case2 n c log hmem ih => exact ih
  | case3 n c log hmem ih => exact .cons (fun e he ↦ (getElem?_added_of_mem_kept he).1) ih
  | case4 n ev log hne ih => exact ih

theorem kept_append_cancelled (n : Nat) (log : List (Event κ)) (i : Nat) :
    kept n (log ++ [.cancelled i]) = (kept n log).filter (·.1 ≠ i) := by
  fun_induction kept n log with
  | case1 n => rfl
  | case2 n c log hmem ih => simp [kept, hmem, ih]
  | case3 n c log hmem ih =>
    by_cases hn : n = i
    · subst hn
      have hall : ∀ e ∈ kept (n + 1) log, e.1 ≠ n := fun e he ↦ by
        have hle := (getElem?_added_of_mem_kept he).1
        omega
      simp [kept, ih]
    · simp [kept, hmem, ih, hn]
  | case4 n ev log hne ih => rw [List.cons_append, kept_cons_of_ne hne, ih]

theorem kept_cancelled_of_notMem {log : List (Event κ)} {i : Nat}
    (h : ∀ c, (added log)[i]? = some c → (i, c) ∉ kept 0 log) :
    kept 0 (log ++ [.cancelled i]) = kept 0 log := by
  rw [kept_append_cancelled, List.filter_eq_self]
  rintro ⟨j, c⟩ he
  have hj : j ≠ i := by
    rintro rfl
    exact h c (getElem?_added_of_mem_kept he).2 he
  simpa using hj

def Faithful (log : List (Event κ)) : Prop :=
  (replay {} log).subscribers.callbacks = (kept 0 log).map (·.2)

/-- Nothing but its own subscription goes when the unsubscriber of `c` with this number is called:
either no equal callback is subscribed at all, or its own still is, and the older ones that are
equal stand right before it. -/
def Harmless (log : List (Event κ)) (i : Nat) (c : κ) : Prop :=
  (∀ e ∈ kept 0 log, e.2 ≠ c) ∨
    ∃ older same younger, kept 0 log = older ++ same ++ (i, c) :: younger ∧
      (∀ e ∈ older, e.2 ≠ c) ∧ ∀ e ∈ same, e.2 = c

theorem append_singleton_eq_cons_iff {as : List κ} {c : κ} :
    as ++ [c] = c :: as ↔ ∀ d ∈ as, d = c := by
  induction as with
  | nil => simp
  | cons a as ih =>
    by_cases ha : a = c
    · subst ha
      simpa using ih
    · simp [ha]

/-- The first of some equal elements is taken out where another one should be: that makes no
difference just if there is nothing else between the two. -/
theorem erase_append_cons_eq_iff {as bs : List κ} {c : κ} :
    (as ++ c :: bs).erase c = as ++ bs ↔
      ∃ older same, as = older ++ same ∧ (∀ d ∈ older, d ≠ c) ∧ ∀ d ∈ same, d = c := by
  induction as with
  | nil => exact iff_of_true (by simp) ⟨[], [], by simp⟩
  | cons a as ih =>
    by_cases ha : a = c
    · subst ha
      have hcancel : as ++ [a] ++ bs = a :: as ++ bs ↔ as ++ [a] = a :: as :=
        List.append_left_inj bs
      rw [List.append_assoc, List.singleton_append] at hcancel
      rw [List.cons_append, List.erase_cons_head, hcancel, append_singleton_eq_cons_iff]
      constructor
      · exact fun hall ↦ ⟨[], a :: as, rfl, by simp, by simpa using hall⟩
      · rintro ⟨older, same, hsplit, hother, hall⟩
        cases older with
        | nil => exact fun d hd ↦ hall d (by rw [← List.nil_append same, ← hsplit]; simp [hd])
        | cons b older =>
          obtain ⟨rfl, -⟩ := List.cons.inj hsplit
          exact absurd rfl (hother a (by simp))
    · rw [List.cons_append, List.erase_cons_tail (by simpa using ha), List.cons_append,
        List.cons_inj_right, ih]
      constructor
      · rintro ⟨older, same, rfl, hother, hall⟩
        exact ⟨a :: older, same, rfl, by simpa [ha] using hother, hall⟩
      · rintro ⟨older, same, hsplit, hother, hall⟩
        cases older with
        | nil => exact absurd (hall a (by rw [← List.nil_append same, ← hsplit]; simp)) ha
        | cons b older =>
          obtain ⟨rfl, rfl⟩ := List.cons.inj hsplit
          exact ⟨older, same, rfl, fun d hd ↦ hother d (List.mem_cons_of_mem _ hd), hall⟩

theorem made_replay (log : List (Event κ)) (s : Standing κ) :
    (s.replay log).made = s.made ++ added log := by
  induction log generalizing s with
  | nil => simp [replay]
  | cons ev log ih =>
    show ((s.step ev).replay log).made = _
    rw [ih]
    cases ev with
    | added c => simp [step, Standing.add]
    | cancelled i =>
      rw [added_cons_of_ne (by simp)]
      simp only [step, Standing.cancel]
      split <;> rfl
    | _ => rfl

theorem replay_snoc (s : Standing κ) (log : List (Event κ)) (ev : Event κ) :
    s.replay (log ++ [ev]) = (s.replay log).step ev := by
  rw [replay_append]
  rfl

theorem harmless_iff_of_mem {log : List (Event κ)} {as bs : List (Nat × κ)} {i : Nat} {c : κ}
    (h : kept 0 log = as ++ (i, c) :: bs) :
    Harmless log i c ↔
      ∃ older same, as = older ++ same ∧ (∀ e ∈ older, e.2 ≠ c) ∧ ∀ e ∈ same, e.2 = c := by
  constructor
  · rintro (hnone | ⟨older, same, younger, hsplit, hother, hsame⟩)
    · exact absurd rfl (hnone (i, c) (by simp [h]))
    · obtain ⟨hbefore, hafter⟩ := ne_of_pairwise (hsplit ▸ pairwise_kept 0 log)
      have hplace := (List.append_cons_inj_of_notMem (fun hi ↦ hbefore _ hi rfl)
        fun hi ↦ hafter _ hi rfl).mp (hsplit.symm.trans h)
      exact ⟨older, same, hplace.1.symm, hother, hsame⟩
  · rintro ⟨older, same, rfl, hother, hsame⟩
    exact .inr ⟨older, same, bs, h, hother, hsame⟩

/-- The unsubscriber of `c` takes out the first callback that equals `c`, where its own
subscription should go. -/
theorem erase_map_kept_iff {log : List (Event κ)} {i : Nat} {c : κ}
    (hi : (added log)[i]? = some c) :
    ((kept 0 log).map (·.2)).erase c = (kept 0 (log ++ [.cancelled i])).map (·.2) ↔
      Harmless log i c := by
  by_cases hmem : (i, c) ∈ kept 0 log
  · obtain ⟨as, bs, hsplit⟩ := List.append_of_mem hmem
    rw [harmless_iff_of_mem hsplit, kept_append_cancelled, hsplit,
      filter_eq_append (hsplit ▸ pairwise_kept 0 log), List.map_append, List.map_append,
      List.map_cons, erase_append_cons_eq_iff]
    constructor
    · rintro ⟨older, same, hmap, hother, hsame⟩
      obtain ⟨older, same, rfl, rfl, rfl⟩ := List.map_eq_append_iff.mp hmap
      exact ⟨older, same, rfl, fun e he ↦ hother _ (List.mem_map_of_mem he),
        fun e he ↦ hsame _ (List.mem_map_of_mem he)⟩
    · rintro ⟨older, same, rfl, hother, hsame⟩
      refine ⟨older.map (·.2), same.map (·.2), List.map_append, fun d hd ↦ ?_, fun d hd ↦ ?_⟩
      · obtain ⟨e, he, rfl⟩ := List.mem_map.mp hd
        exact hother e he
      · obtain ⟨e, he, rfl⟩ := List.mem_map.mp hd
        exact hsame e he
  · rw [kept_cancelled_of_notMem (by simpa [hi] using hmem), List.erase_eq_self_iff]
    constructor
    · exact fun hnot ↦ .inl fun e he heq ↦ hnot (heq ▸ List.mem_map_of_mem he)
    · rintro (hnone | ⟨older, same, younger, hsplit, -⟩) hc
      · obtain ⟨e, he, rfl⟩ := List.mem_map.mp hc
        exact hnone e he rfl
      · exact hmem (by simp [hsplit])

theorem step_subscribers_cancelled {s : Standing κ} {i : Nat} {c : κ} (h : s.made[i]? = some c) :
    (s.step (.cancelled i)).subscribers.callbacks = s.subscribers.callbacks.erase c := by
  simp [step, Standing.cancel, h, Subscribers.cancel]

theorem faithful_cancelled_iff {log : List (Event κ)} (h : Faithful log) (i : Nat) :
    Faithful (log ++ [.cancelled i]) ↔ ∀ c, (added log)[i]? = some c → Harmless log i c := by
  have hmade : (replay {} log).made = added log := by simpa using made_replay log {}
  rw [Faithful, replay_snoc]
  cases hi : (added log)[i]? with
  | none =>
    rw [kept_cancelled_of_notMem (by simp [hi])]
    refine iff_of_true ?_ (by simp)
    rw [← h]
    simp [step, Standing.cancel, hmade, hi]
  | some c =>
    rw [step_subscribers_cancelled (by rw [hmade, hi]), h, erase_map_kept_iff hi]
    simp

theorem Faithful.snoc_of_ne {log : List (Event κ)} (h : Faithful log) {ev : Event κ}
    (hev : ∀ i, ev ≠ .cancelled i) : Faithful (log ++ [ev]) := by
  rw [Faithful, replay_snoc]
  cases ev with
  | added c =>
    rw [kept_append_added, List.map_append, ← h]
    rfl
  | cancelled i => exact absurd rfl (hev i)
  | _ =>
    rw [kept_append_of_ne (by simp) (by simp)]
    exact h

/-- The list is faithful at every point just if every call of an unsubscriber is harmless. -/
theorem faithful_iff (log : List (Event κ)) :
    (∀ before, before <+: log → Faithful before) ↔
      ∀ before i c, before ++ [.cancelled i] <+: log → (added before)[i]? = some c →
        Harmless before i c := by
  constructor
  · intro h before i c hbegins
    have hbefore := h before ((List.prefix_append _ _).trans hbegins)
    exact (faithful_cancelled_iff hbefore i).mp (h _ hbegins) c
  · intro h before
    induction before using List.reverseRecOn with
    | nil => exact fun _ ↦ rfl
    | append_singleton before ev ih =>
      intro hbegins
      have hbefore := ih ((List.prefix_append _ _).trans hbegins)
      cases ev with
      | cancelled i => exact (faithful_cancelled_iff hbefore i).mpr fun c ↦ h before i c hbegins
      | _ => exact hbefore.snoc_of_ne (by simp)

theorem harmless_of_nodup {log : List (Event κ)} (h : (added log).Nodup) {i : Nat} {c : κ}
    (hi : (added log)[i]? = some c) : Harmless log i c := by
  have honly : ∀ e ∈ kept 0 log, e.2 = c → e = (i, c) := by
    rintro ⟨j, d⟩ he rfl
    have hget := (getElem?_added_of_mem_kept he).2
    obtain ⟨hlt, -⟩ := List.getElem?_eq_some_iff.mp hi
    rw [(List.getElem?_inj hlt h).mp (hi.trans hget.symm), Nat.sub_zero]
  by_cases hmem : (i, c) ∈ kept 0 log
  · obtain ⟨as, bs, hsplit⟩ := List.append_of_mem hmem
    obtain ⟨has, -⟩ := ne_of_pairwise (hsplit ▸ pairwise_kept 0 log)
    refine .inr ⟨as, [], bs, by simpa using hsplit, fun e he heq ↦ has e he ?_, by simp⟩
    rw [honly e (by simp [hsplit, he]) heq]
  · exact .inl fun e he heq ↦ hmem (honly e he heq ▸ he)

end Exchange

open Exchange

/-- A replica, and all listeners that were ever added to it. -/
structure Audience (κ : Type) where
  replica : Replica κ
  made : List κ := []

namespace Audience

variable {κ : Type}

def standing (a : Audience κ) : Standing κ := ⟨⟨a.replica.listeners⟩, a.made⟩

variable [BEq κ]

def step (a : Audience κ) : Event κ → Audience κ
  | .added l => ⟨a.replica.listen l, a.made ++ [l]⟩
  | .cancelled i =>
    match a.made[i]? with
    | none => a
    | some l => { a with replica := a.replica.unlisten l }
  | _ => a

def hear (a : Audience κ) (log : List (Event κ)) : Audience κ := log.foldl step a

theorem standing_step (a : Audience κ) (ev : Event κ) :
    (a.step ev).standing = a.standing.step ev := by
  cases ev with
  | cancelled i =>
    simp only [step, Standing.step, Standing.cancel, standing]
    cases a.made[i]? <;> rfl
  | _ => rfl

theorem standing_hear (a : Audience κ) (log : List (Event κ)) :
    (a.hear log).standing = a.standing.replay log := by
  induction log generalizing a with
  | nil => rfl
  | cons ev log ih => exact (ih (a.step ev)).trans (by rw [standing_step]; rfl)

end Audience

/-- Whatever is done to a new list of subscribers: at every point the list is that of the
subscriptions whose own unsubscriber has not been called, just if every call of an unsubscriber is
harmless; as it is if no callback is added twice. It is so with the listeners of a replica too. -/
theorem Exchange.faithful_iff_harmless {κ : Type} [DecidableEq κ] (p : Code κ) (m : Replica κ) :
    ∃ r e, p.run.run ({} : Exchange κ) = (r, e) ∧ e.toStanding = Standing.replay {} e.log ∧
      (∀ log : List (Event κ),
        (Audience.hear ⟨{ m with listeners := [] }, []⟩ log).replica.listeners =
        (Standing.replay {} log).subscribers.callbacks) ∧
      ((∀ before, before <+: e.log → Faithful before) ↔
        ∀ before i c, before ++ [.cancelled i] <+: e.log → (added before)[i]? = some c →
          Harmless before i c) ∧
      ((added e.log).Nodup → ∀ before, before <+: e.log → Faithful before) := by
  obtain ⟨log, r, e, hrun, -, hpass⟩ := p.run_behaves {}
  obtain rfl : e.log = log := hpass.log_eq
  refine ⟨r, e, hrun, hpass.standing, fun log ↦ ?_, faithful_iff e.log, fun hnodup ↦ ?_⟩
  · have h := Audience.standing_hear ⟨{ m with listeners := [] }, []⟩ log
    exact congrArg (·.subscribers.callbacks) h
  · refine (faithful_iff e.log).mpr fun before i c hbegins hi ↦ harmless_of_nodup ?_ hi
    obtain ⟨after, hafter⟩ := (List.prefix_append _ _).trans hbegins
    rw [← hafter, added_append] at hnodup
    exact (List.nodup_append.mp hnodup).1

/-- The unsubscriber of the older of two equal subscriptions is called twice. -/
example : let log : List (Event Nat) := [.added 7, .added 7, .cancelled 0, .cancelled 0]
    kept 0 log = [(1, 7)] ∧ (Standing.replay {} log).subscribers.callbacks = [] := by
  decide

end VariableExplorer
